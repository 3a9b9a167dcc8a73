import IssueQuery.Query.Basic

/-!
The normal form of a query: what is left when markers and empty groups are worked in. A level becomes the
list of its parts, each with the way it is joined to what stands before it. Two queries with the same normal
form ask for the same.
-/

namespace IssueQuery

inductive Connector where
  | and | or
  deriving DecidableEq, Repr

structure Joint where
  connector : Connector
  negated : Bool
  deriving DecidableEq, Repr

def Marker.joint : Marker → Joint
  | and => ⟨.and, false⟩
  | or => ⟨.or, false⟩
  | not => ⟨.and, true⟩

inductive Part where
  | predicate (joint : Joint) (predicate : Predicate)
  | group (joint : Joint) (parts : List Part)
  deriving Repr

namespace Part

/-- Nothing stands before the first part of a level, so AND stands for whatever connector it has. -/
def leading : Part → Part
  | predicate joint p => predicate { joint with connector := .and } p
  | group joint parts => group { joint with connector := .and } parts

def level : List Part → List Part
  | [] => []
  | first :: rest => first.leading :: rest

end Part

/-- The keyword of `IS` in capitals; other values as they are. -/
def Predicate.normal (predicate : Predicate) : Predicate :=
  if predicate.operator.takesKeyword then
    { predicate with
      values := predicate.values.map fun value => String.ofList (value.toList.map Char.toUpper) }
  else predicate

mutual

/-- What an element contributes while this marker is in force. -/
def Element.part? (ambient : Marker) : Element → Option Part
  | .marker _ => none
  | .group elements =>
    match parts .and elements with
    | [] => none
    | parts => some (.group ambient.joint (Part.level parts))
  | .predicate p => some (.predicate ambient.joint p.normal)

def Element.parts (ambient : Marker) : List Element → List Part
  | [] => []
  | element :: rest => (element.part? ambient).toList ++ parts (element.ambient ambient) rest

end

/-- A query without what its meaning does not depend on. -/
structure NormalQuery where
  parts : List Part
  ordering : List SortKey
  deriving Repr

def Query.normal (query : Query) : NormalQuery :=
  ⟨Part.level (Element.parts .and query.conditions), query.ordering⟩

end IssueQuery
