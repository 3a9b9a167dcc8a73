import IssueQuery.Query.Validate
import IssueQuery.Filter.Compile

/-! From query text to the filter that runs it. -/

namespace IssueQuery

open Text

structure Prepared where
  query : Query
  filter : Filter
  deriving Repr

def Query.prepare (text : String) : Except Failure Prepared := do
  if blank text.toList then throw .emptyQuery
  let query ← parse text
  query.validate
  let filter ← query.compile
  return ⟨query, filter⟩

end IssueQuery
