/-! The LIKE pattern match: `%` stands for any text, `_` for any one character, every other character for
itself, where ASCII letters match in either case. Neither side reaches past a NUL. -/

namespace IssueQuery.Sql

def sameLetter (a b : Char) : Bool :=
  a.toLower == b.toLower

def likeChars : List Char → List Char → Bool
  | [], [] => true
  | [], _ :: _ => false
  | '%' :: pattern, [] => likeChars pattern []
  | '%' :: pattern, c :: text => likeChars pattern (c :: text) || likeChars ('%' :: pattern) text
  | _ :: _, [] => false
  | p :: pattern, c :: text => (p == '_' || sameLetter p c) && likeChars pattern text
  termination_by pattern text => pattern.length + text.length

def beforeNul (text : String) : List Char :=
  text.toList.takeWhile (· != '\x00')

def like (pattern text : String) : Bool :=
  likeChars (beforeNul pattern) (beforeNul text)

end IssueQuery.Sql
