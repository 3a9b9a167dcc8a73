import IssueQuery.Filter.Compile
import IssueQuery.Text.Replace

/-! The SELECT statement of a filter. Each list placeholder is written out as one placeholder per value. -/

namespace IssueQuery

open Text

def issueColumns : List String :=
  ["id", "title", "description", "status", "assignee", "priority", "resolved", "created_at", "updated_at"]

structure Statement where
  sql : String
  bindings : List (String × String)
  deriving DecidableEq, Repr

namespace Param

def listNames (name : String) (count : Nat) : List String :=
  (List.range count).map fun i => ":" ++ name ++ "_" ++ toString i

def bindings (param : Param) : List (String × String) :=
  match param.value with
  | .scalar value => [(":" ++ param.name, value)]
  | .list values => (listNames param.name values.length).zip values

/-- Writes out the placeholder of a list parameter wherever the clause has it. -/
def expand (clause : String) (param : Param) : String :=
  match param.value with
  | .scalar _ => clause
  | .list values =>
    replaceAll ("(:..." ++ param.name ++ ")")
      ("(" ++ ", ".intercalate (listNames param.name values.length) ++ ")") clause

end Param

def selectHead : String :=
  "SELECT " ++ ", ".intercalate (issueColumns.map column) ++ " FROM issues AS " ++ tableAlias

namespace Filter

def expandedClause (filter : Filter) : Option String :=
  filter.clause.map fun clause => filter.params.foldl Param.expand clause

def select (filter : Filter) : Statement where
  sql :=
    selectHead ++
      (match filter.expandedClause with
        | none => ""
        | some clause => " WHERE " ++ clause) ++
      (match filter.ordering with
        | [] => ""
        | fragments => " ORDER BY " ++ ", ".intercalate fragments)
  bindings := filter.params.flatMap Param.bindings

end Filter

end IssueQuery
