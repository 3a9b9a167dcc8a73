import IssueQuery.Query.Grammar

/-!
Derivation trees of levels, which keep the tokens themselves, and the texts that can be read off elements. A tree
of elements says nothing of the commas in its lists.
-/

namespace IssueQuery

inductive Item where
  | marker (marker : Marker)
  | group (items : List Item)
  | single (name : Token) (operator : Operator) (value : Token)
  | list (name : Token) (entries : List Token)

def Token.entryTokens (entries : List Token) : List Token :=
  entries.filter (· ≠ .punct .comma)

namespace Item

mutual

def tokens (kept : List Token → List Token) : Item → List Token
  | marker m => [.marker m]
  | group items => .punct .openParen :: levelTokens kept items ++ [.punct .closeParen]
  | single name operator value => [name, .operator operator, value]
  | list name entries =>
    name :: .operator .isIn :: .punct .openParen :: kept entries ++ [.punct .closeParen]

def levelTokens (kept : List Token → List Token) : List Item → List Token
  | [] => []
  | item :: rest => item.tokens kept ++ levelTokens kept rest

end

mutual

def Fits : Item → Prop
  | marker _ => True
  | group items => AllFit items
  | single name operator value => (∃ field, name.Names field) ∧ operator ≠ .isIn ∧ value.IsValue
  | list name entries => (∃ field, name.Names field) ∧ Token.AreEntries entries

def AllFit : List Item → Prop
  | [] => True
  | item :: rest => item.Fits ∧ AllFit rest

end

mutual

def element : Item → Element
  | marker m => .marker m
  | group items => .group (levelElements items)
  | single name operator value => .predicate ⟨name.text, operator, [value.text]⟩
  | list name entries => .predicate ⟨name.text, .isIn, Token.entryValues entries⟩

def levelElements : List Item → List Element
  | [] => []
  | item :: rest => item.element :: levelElements rest

end

structure Derivation (items : List Item) (tokens : List Token) : Prop where
  fit : AllFit items
  spelled : levelTokens id items = tokens

end Item

def Predicate.texts (predicate : Predicate) : List String :=
  predicate.field :: predicate.operator.text ::
    match predicate.operator with
    | .isIn => Punct.openParen.text :: predicate.values ++ [Punct.closeParen.text]
    | _ => predicate.values

mutual

def Element.texts : Element → List String
  | .marker m => [m.text]
  | .group elements => Punct.openParen.text :: levelTexts elements ++ [Punct.closeParen.text]
  | .predicate p => p.texts

def Element.levelTexts : List Element → List String
  | [] => []
  | element :: rest => element.texts ++ levelTexts rest

end

end IssueQuery
