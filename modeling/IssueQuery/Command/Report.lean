import IssueQuery.Command.Explain
import IssueQuery.Command.New
import IssueQuery.Log.Record

/-! What commands report to the log while they run. -/

namespace IssueQuery

open Log Text

def queryRunner : String := "jql_core::service"

def queryReader : String := "jql_core::jql::token"

def databaseOpener : String := "jqlrs::commands"

def issueMaker : String := "jqlrs::commands::new"

def shownList (items : List String) : String :=
  "[" ++ ", ".intercalate items ++ "]"

def ParamValue.shown : ParamValue → String
  | scalar value => s!"Scalar({quoted value})"
  | list values => s!"List({shownList (values.map quoted)})"

def Param.shown (param : Param) : String :=
  s!"({quoted param.name}, {param.value.shown})"

def Skipped.record (skipped : Skipped) : Record :=
  ⟨.debug, queryReader, "ignoring unrecognized query text",
    [("offset", toString skipped.offset), ("skipped", quoted skipped.text)]⟩

def Filter.record (filter : Filter) : Record :=
  ⟨.debug, queryRunner, "compiled query",
    [("where_clause", quoted (filter.clause.getD "")),
      ("params", shownList (filter.params.map Param.shown)),
      ("order_by", shownList (filter.ordering.map quoted))]⟩

def Query.records (text : String) : List Record :=
  if blank text.toList then []
  else
    ⟨.info, queryRunner, "compiling query", [("query", quoted text)]⟩ ::
      (Token.skipped text).map Skipped.record ++
      match prepare text with
      | .error _ => []
      | .ok prepared => [prepared.filter.record]

/-- Reported while a query is run on a store. Faults of the query itself are left to whoever asked. -/
def Store.records (store : Store) (text : String) : List Record :=
  Query.records text ++
    match store.findByText text with
    | .ok issues => [⟨.info, queryRunner, "query complete", [("results", toString issues.length)]⟩]
    | .error error =>
      if error.isClient then []
      else
        [⟨.error, queryRunner, "query failed",
          [("query", quoted text), ("error", error.message)]⟩]

def openingRecord (path : String) : Record :=
  ⟨.debug, databaseOpener, "opening database", [("path", path)]⟩

def createdRecord (id : Int) : Record :=
  ⟨.info, issueMaker, "created issue", [("id", toString id)]⟩

end IssueQuery
