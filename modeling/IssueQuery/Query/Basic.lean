/-! Query trees. A level of conditions is a flat list: a marker sets how every element after it, up
to the next marker, is joined to what stands before, and a group is a level of its own. -/

namespace IssueQuery

inductive Operator where
  | eq | ne | gt | lt | ge | le | isIn | is | isNot | contains
  deriving DecidableEq, Repr

namespace Operator

def text : Operator → String
  | eq => "="
  | ne => "!="
  | gt => ">"
  | lt => "<"
  | ge => ">="
  | le => "<="
  | isIn => "IN"
  | is => "IS"
  | isNot => "IS NOT"
  | contains => "CONTAINS"

def all : List Operator :=
  [eq, ne, gt, lt, ge, le, isIn, is, isNot, contains]

def ofText? (text : String) : Option Operator :=
  all.find? fun operator => operator.text == text

theorem mem_all (operator : Operator) : operator ∈ all := by
  cases operator <;> simp [all]

end Operator

/-- The logical keywords. After `not`, elements are joined by AND and each is negated. -/
inductive Marker where
  | and | or | not
  deriving DecidableEq, Repr

def Marker.text : Marker → String
  | and => "AND"
  | or => "OR"
  | not => "NOT"

def Operator.takesKeyword : Operator → Bool
  | is | isNot => true
  | _ => false

/-- One comparison. `IN` takes any number of values, every other operator the first one. -/
structure Predicate where
  field : String
  operator : Operator
  values : List String
  deriving DecidableEq, Repr

inductive Element where
  | marker (marker : Marker)
  | group (elements : List Element)
  | predicate (predicate : Predicate)
  deriving Repr

def Element.ambient (before : Marker) : Element → Marker
  | .marker m => m
  | _ => before

mutual

def Element.predicates : Element → List Predicate
  | .marker _ => []
  | .group elements => levelPredicates elements
  | .predicate p => [p]

def Element.levelPredicates : List Element → List Predicate
  | [] => []
  | element :: rest => element.predicates ++ levelPredicates rest

end

inductive Direction where
  | asc | desc
  deriving DecidableEq, Repr

def Direction.text : Direction → String
  | asc => "ASC"
  | desc => "DESC"

structure SortKey where
  field : String
  direction : Direction
  deriving DecidableEq, Repr

structure Query where
  conditions : List Element := []
  ordering : List SortKey := []
  deriving Repr

def Query.predicates (query : Query) : List Predicate :=
  Element.levelPredicates query.conditions

end IssueQuery
