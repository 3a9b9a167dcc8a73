import IssueQuery.Query.Parser

/-! The checks that a query tree passes before it is compiled: every field can name a column, and every
predicate has as many values as its operator takes. Markers and empty groups are never refused. -/

namespace IssueQuery

def Operator.takes (operator : Operator) (count : Nat) : Bool :=
  match operator with
  | isIn => 1 ≤ count
  | _ => count == 1

def Predicate.validate (predicate : Predicate) : Except Failure Unit :=
  if !isIdentifier predicate.field then .error (.invalidQuery (.badFieldName predicate.field))
  else if !predicate.operator.takes predicate.values.length then
    .error (.invalidQuery (.valueCount predicate.operator predicate.field predicate.values.length))
  else .ok ()

def SortKey.validate (key : SortKey) : Except Failure Unit :=
  if isIdentifier key.field then .ok () else .error (.invalidQuery (.badSortField key.field))

mutual

def Element.validate : Element → Except Failure Unit
  | .marker _ => .ok ()
  | .group elements => validateLevel elements
  | .predicate p => p.validate

def Element.validateLevel : List Element → Except Failure Unit
  | [] => .ok ()
  | element :: rest => do
    element.validate
    validateLevel rest

end

/-- Conditions come first, so their faults are reported before those of the ordering. -/
def Query.validate (query : Query) : Except Failure Unit := do
  Element.validateLevel query.conditions
  query.ordering.forM SortKey.validate

end IssueQuery
