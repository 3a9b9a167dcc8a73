import IssueQuery.Command.Query
import IssueQuery.Filter.Explain

/-! Showing what a query means without running it. -/

namespace IssueQuery

open Json

def Operator.key : Operator → String
  | eq => "eq"
  | ne => "ne"
  | gt => "gt"
  | lt => "lt"
  | ge => "ge"
  | le => "le"
  | isIn => "in"
  | is => "is"
  | isNot => "is_not"
  | contains => "contains"

def Marker.key : Marker → String
  | and => "and"
  | or => "or"
  | not => "not"

def Direction.key : Direction → String
  | asc => "asc"
  | desc => "desc"

def Predicate.toJson (predicate : Predicate) : Value :=
  .object
    [("field", .string predicate.field), ("operator", .string predicate.operator.key),
      ("values", .texts predicate.values)]

mutual

def Element.toJson : Element → Value
  | .marker m => .object [("logical", .string m.key)]
  | .group elements => .object [("group", .array (levelToJson elements))]
  | .predicate p => .object [("predicate", p.toJson)]

def Element.levelToJson : List Element → List Value
  | [] => []
  | element :: rest => element.toJson :: levelToJson rest

end

def SortKey.toJson (key : SortKey) : Value :=
  .object [("field", .string key.field), ("direction", .string key.direction.key)]

def Query.toJson (query : Query) : Value :=
  .object
    [("conditions", .array (Element.levelToJson query.conditions)),
      ("order_by", .array (query.ordering.map SortKey.toJson))]

def ParamValue.toJson : ParamValue → Value
  | scalar value => .string value
  | list values => .texts values

def Param.toJson (param : Param) : Value :=
  .array [.string param.name, param.value.toJson]

def Filter.toJson (filter : Filter) : Value :=
  .object
    [("where_clause", filter.clause.elim .null .string),
      ("params", .array (filter.params.map Param.toJson)),
      ("order_by", .texts filter.ordering)]

namespace Prepared

def toJson (prepared : Prepared) : Value :=
  .object
    [("query", prepared.query.toJson), ("filter", prepared.filter.toJson),
      ("sql", .string prepared.filter.select.sql)]

def explanation (output : OutputFormat) (prepared : Prepared) : String :=
  match output with
  | .text => prepared.filter.explain ++ "\n" ++ "sql:      " ++ prepared.filter.select.sql ++ "\n"
  | .json => prepared.toJson.pretty ++ "\n"

end Prepared

def Query.explain (text : String) (output : OutputFormat) : Except CommandError String :=
  match prepare text with
  | .error cause => .error (.failure cause)
  | .ok prepared => .ok (prepared.explanation output)

end IssueQuery
