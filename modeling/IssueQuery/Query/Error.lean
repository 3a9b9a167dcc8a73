import IssueQuery.Query.Token
import IssueQuery.Sql.Error

/-! Why a query has no answer: it is refused before anything is executed, or its execution fails. -/

namespace IssueQuery

inductive FieldPlace where
  | condition | ordering
  deriving DecidableEq, Repr

def FieldPlace.text : FieldPlace → String
  | condition => "condition"
  | ordering => "ORDER BY"

inductive Fault where
  | unclosedGroup
  | notAField (place : FieldPlace) (found : Token)
  | badFieldName (name : String)
  | badSortField (name : String)
  | valueCount (operator : Operator) (field : String) (count : Nat)
  | stated (reason : String)
  deriving DecidableEq, Repr

def Fault.text : Fault → String
  | unclosedGroup => "unclosed '(' in query"
  | notAField place found => s!"expected field name in {place.text}, found '{found.describe}'"
  | badFieldName name => s!"invalid field name '{name}'"
  | badSortField name => s!"invalid ORDER BY field '{name}'"
  | valueCount operator field count =>
    s!"{operator.text} on field '{field}' has {toString count} value(s)"
  | stated reason => reason

/-- Why there is no answer. The first six lie in the query itself and are found before it runs; the others come of
the store. Operators are given as they are spelled. -/
inductive Failure where
  | emptyQuery
  | unknownOperator (field found : String)
  | missingValue (operator : String)
  | malformedIn (field : String)
  | invalidLiteral (operator value : String)
  | invalidQuery (fault : Fault)
  | execution (cause : SqlError) (sql : String)
  | queryTimeout (milliseconds : Nat)
  | issueNotFound (id : Int)
  | database (reason : String)
  | corruptedData (reason : String)
  | io (reason : String)
  deriving DecidableEq, Repr

namespace Failure

def message : Failure → String
  | emptyQuery => "query cannot be empty\n  hint: try something like: status = \"open\""
  | unknownOperator field found =>
    s!"unknown operator '{found}' after field '{field}'\n" ++
      "  hint: valid operators are: =, !=, >, <, >=, <=, IN, IS, IS NOT, CONTAINS"
  | missingValue operator => s!"expected value after operator {operator}"
  | malformedIn field =>
    s!"expected parentheses for IN operator on field '{field}'\n" ++
      s!"  hint: write {field} IN (\"a\", \"b\")"
  | invalidLiteral operator value =>
    s!"invalid literal '{value}' for {operator}\n" ++
      s!"  hint: {operator} accepts NULL, TRUE or FALSE"
  | invalidQuery fault => s!"invalid query: {fault.text}"
  | execution cause sql => s!"query execution failed: {cause.message sql}"
  | queryTimeout milliseconds => s!"query exceeded timeout of {toString milliseconds}ms"
  | issueNotFound id => s!"issue not found: {toString id}"
  | database reason => s!"database error: {reason}"
  | corruptedData reason => s!"corrupted data: {reason}"
  | io reason => s!"io error: {reason}"

def isClient : Failure → Bool
  | emptyQuery | unknownOperator _ _ | missingValue _ | malformedIn _ | invalidLiteral _ _ | invalidQuery _ => true
  | _ => false

end Failure

end IssueQuery
