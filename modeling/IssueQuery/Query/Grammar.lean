import IssueQuery.Query.Parser

/-!
The grammar of query text as relations between tokens and what they are read as. A level is any row of
markers, groups and predicates; an ordering is a row of fields, each with a direction and a comma that may
both be left out.
-/

namespace IssueQuery

namespace Token

inductive Names : Token → String → Prop
  | word (name : String) : Names (.word name) name
  | quoted {name : String} (fit : isIdentifier name = true) : Names (.quoted name) name

def IsValue (token : Token) : Prop :=
  ∀ keyword, token ≠ .order keyword

def IsParen (token : Token) : Prop :=
  token = .punct .openParen ∨ token = .punct .closeParen

structure AreEntries (tokens : List Token) : Prop where
  flat : ∀ token ∈ tokens, ¬token.IsParen
  some_value : ∃ token ∈ tokens, token ≠ .punct .comma

def entryValues (tokens : List Token) : List String :=
  (tokens.filter (· ≠ .punct .comma)).map text

end Token

inductive Element.Derives : List Token → List Element → Prop
  | nil : Derives [] []
  | marker {rest : List Token} {elements : List Element} (marker : Marker)
      (more : Derives rest elements) :
      Derives (.marker marker :: rest) (.marker marker :: elements)
  | group {inside rest : List Token} {members elements : List Element}
      (inner : Derives inside members) (more : Derives rest elements) :
      Derives (.punct .openParen :: inside ++ .punct .closeParen :: rest) (.group members :: elements)
  | single {token value : Token} {field : String} {operator : Operator} {rest : List Token}
      {elements : List Element} (names : token.Names field) (plain : operator ≠ .isIn)
      (fit : value.IsValue) (more : Derives rest elements) :
      Derives (token :: .operator operator :: value :: rest)
        (.predicate ⟨field, operator, [value.text]⟩ :: elements)
  | list {token : Token} {field : String} {entries rest : List Token} {elements : List Element}
      (names : token.Names field) (fit : Token.AreEntries entries) (more : Derives rest elements) :
      Derives
        (token :: .operator .isIn :: .punct .openParen :: entries ++ .punct .closeParen :: rest)
        (.predicate ⟨field, .isIn, Token.entryValues entries⟩ :: elements)

/-- How a direction may be written. Ascending order need not be. -/
inductive Direction.Written : Direction → List Token → Prop
  | silent : Written .asc []
  | asc : Written .asc [.order .asc]
  | desc : Written .desc [.order .desc]

inductive SortKey.Derives : List Token → List SortKey → Prop
  | nil : Derives [] []
  | entry {token : Token} {field : String} {direction : Direction} {written comma rest : List Token}
      {keys : List SortKey} (names : token.Names field) (spelled : direction.Written written)
      (optional : comma = [] ∨ comma = [.punct .comma]) (more : Derives rest keys) :
      Derives (token :: written ++ comma ++ rest) (⟨field, direction⟩ :: keys)

end IssueQuery
