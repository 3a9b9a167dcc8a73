import IssueQuery.Filter.Basic
import IssueQuery.Text.Quoted

/-! The text that shows a filter to a reader: a line for the WHERE expression, one for the ordering and
one for each parameter. -/

namespace IssueQuery

open Text

def ParamValue.explain : ParamValue → String
  | scalar value => quoted value
  | list values => "(" ++ ", ".intercalate (values.map quoted) ++ ")"

namespace Filter

def explainLines (filter : Filter) : List String :=
  ["where:    " ++ filter.clause.getD "(none)"] ++
    (match filter.ordering with
      | [] => []
      | fragments => ["order by: " ++ ", ".intercalate fragments]) ++
    filter.params.map fun param => "  :" ++ param.name ++ " = " ++ param.value.explain

def explain (filter : Filter) : String :=
  "\n".intercalate filter.explainLines

end Filter

end IssueQuery
