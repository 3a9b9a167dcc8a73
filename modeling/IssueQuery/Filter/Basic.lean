/-! Filters under construction: a WHERE expression with the values of its placeholders, and the
fragments of an ordering. -/

namespace IssueQuery

inductive ParamValue where
  | scalar (value : String)
  | list (values : List String)
  deriving DecidableEq, Repr

structure Param where
  name : String
  value : ParamValue
  deriving DecidableEq, Repr

structure Condition where
  sql : String
  params : List Param := []
  deriving DecidableEq, Repr

def Condition.negated (condition : Condition) : Condition :=
  { condition with sql := "NOT (" ++ condition.sql ++ ")" }

structure Filter where
  clause : Option String := none
  params : List Param := []
  ordering : List String := []
  deriving DecidableEq, Repr

namespace Filter

def empty : Filter := {}

def push (filter : Filter) (connector : String) (condition : Condition) : Filter :=
  { filter with
    clause := some (match filter.clause with
      | none => condition.sql
      | some clause => clause ++ " " ++ connector ++ " " ++ condition.sql)
    params := filter.params ++ condition.params }

def andWhere (filter : Filter) (condition : Condition) : Filter :=
  filter.push "AND" condition

def orWhere (filter : Filter) (condition : Condition) : Filter :=
  filter.push "OR" condition

def addOrdering (filter : Filter) (fragment : String) : Filter :=
  { filter with ordering := filter.ordering ++ [fragment] }

def param? (filter : Filter) (name : String) : Option ParamValue :=
  (filter.params.find? fun param => param.name == name).map Param.value

/-- The whole WHERE expression in brackets; the ordering is left behind. -/
def bracketed (filter : Filter) : Option Condition :=
  filter.clause.map fun clause => ⟨"(" ++ clause ++ ")", filter.params⟩

end Filter

end IssueQuery
