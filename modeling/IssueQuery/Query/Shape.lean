import IssueQuery.Query.Normal

/-! The shape of a query: all of it but the values that are bound when it runs. Only their number is kept. -/

namespace IssueQuery

def Predicate.shape (predicate : Predicate) : Predicate :=
  if predicate.operator.takesKeyword then predicate.normal
  else { predicate with values := predicate.values.map fun _ => "" }

mutual

def Element.shape : Element → Element
  | .marker m => .marker m
  | .group elements => .group (levelShape elements)
  | .predicate p => .predicate p.shape

def Element.levelShape : List Element → List Element
  | [] => []
  | element :: rest => element.shape :: levelShape rest

end

def Query.shape (query : Query) : Query :=
  ⟨Element.levelShape query.conditions, query.ordering⟩

end IssueQuery
