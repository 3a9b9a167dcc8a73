import IssueQuery.Query.Basic

/-! The lexical units of query text. `describe` spells a token as query text would; keywords and
operators are told from words by their exact spelling. -/

namespace IssueQuery

inductive Punct where
  | openParen | closeParen | comma
  deriving DecidableEq, Repr

def Punct.text : Punct → String
  | openParen => "("
  | closeParen => ")"
  | comma => ","

inductive OrderKeyword where
  | orderBy | asc | desc
  deriving DecidableEq, Repr

namespace OrderKeyword

def text : OrderKeyword → String
  | orderBy => "ORDER BY"
  | asc => "ASC"
  | desc => "DESC"

def direction? : OrderKeyword → Option Direction
  | orderBy => none
  | asc => some .asc
  | desc => some .desc

end OrderKeyword

inductive Token where
  | word (text : String)
  | quoted (text : String)
  | operator (operator : Operator)
  | marker (marker : Marker)
  | punct (punct : Punct)
  | order (keyword : OrderKeyword)
  deriving DecidableEq, Repr

namespace Token

def text : Token → String
  | word name => name
  | quoted inner => inner
  | operator op => op.text
  | marker m => m.text
  | punct p => p.text
  | order keyword => keyword.text

def describe : Token → String
  | quoted inner => "\"" ++ inner ++ "\""
  | token => token.text

def ofWord (text : String) : Token :=
  match text with
  | "AND" => marker .and
  | "OR" => marker .or
  | "NOT" => marker .not
  | "ASC" => order .asc
  | "DESC" => order .desc
  | "IN" => operator .isIn
  | "IS" => operator .is
  | "CONTAINS" => operator .contains
  | other => word other

end Token

end IssueQuery
