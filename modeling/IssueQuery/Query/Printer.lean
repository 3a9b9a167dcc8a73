import IssueQuery.Query.Token

/-!
The canonical text of a query: fields and values in double quotes, keywords and operators by their
spelling, one space between any two tokens. A value that holds a double quote has no spelling at all, and
neither has the empty value.
-/

namespace IssueQuery

def Token.spell (tokens : List Token) : String :=
  " ".intercalate (tokens.map describe)

def Token.separated (rows : List (List Token)) : List Token :=
  [punct .comma].intercalate rows

def Predicate.tokens (predicate : Predicate) : List Token :=
  .quoted predicate.field :: .operator predicate.operator ::
    match predicate.operator with
    | .isIn =>
      .punct .openParen :: Token.separated (predicate.values.map fun value => [.quoted value]) ++
        [.punct .closeParen]
    | _ => predicate.values.map .quoted

mutual

def Element.tokens : Element → List Token
  | .marker m => [.marker m]
  | .group elements => .punct .openParen :: levelTokens elements ++ [.punct .closeParen]
  | .predicate p => p.tokens

def Element.levelTokens : List Element → List Token
  | [] => []
  | element :: rest => element.tokens ++ levelTokens rest

end

def Direction.keyword : Direction → OrderKeyword
  | asc => .asc
  | desc => .desc

def SortKey.tokens (key : SortKey) : List Token :=
  [.quoted key.field, .order key.direction.keyword]

namespace Query

def orderingTokens : List SortKey → List Token
  | [] => []
  | keys => .order .orderBy :: Token.separated (keys.map SortKey.tokens)

def tokens (query : Query) : List Token :=
  Element.levelTokens query.conditions ++ orderingTokens query.ordering

def print (query : Query) : String :=
  Token.spell query.tokens

end Query

end IssueQuery
