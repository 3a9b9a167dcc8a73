import IssueQuery.Query.Error
import IssueQuery.Query.Lexer

/-! Reading tokens into a query tree. A value may be any token but an ordering keyword, so keywords,
operators and even a comma serve as values; a group reaches to the parenthesis that closes it. -/

namespace IssueQuery

open Text

/-- A name that may stand for a column: at least one character, letters, numbers and `_` only. -/
def isIdentifier (name : String) : Bool :=
  !name.isEmpty && name.toList.all fun c => isAlphanumeric c || c == '_'

namespace Token

def fieldName (place : FieldPlace) (token : Token) : Except Failure String :=
  match token with
  | word name => .ok name
  | quoted name =>
    if isIdentifier name then .ok name else .error (.invalidQuery (.notAField place token))
  | _ => .error (.invalidQuery (.notAField place token))

/-- The tokens up to the parenthesis that closes a group, and those after it. `depth` groups have been
opened inside this one. -/
def splitGroup (depth : Nat) : List Token → Option (List Token × List Token)
  | [] => none
  | punct .closeParen :: rest =>
    match depth with
    | 0 => some ([], rest)
    | depth + 1 => (splitGroup depth rest).map fun found => (punct .closeParen :: found.1, found.2)
  | punct .openParen :: rest =>
    (splitGroup (depth + 1) rest).map fun found => (punct .openParen :: found.1, found.2)
  | token :: rest => (splitGroup depth rest).map fun found => (token :: found.1, found.2)

theorem splitGroup_length {depth : Nat} {tokens inner after : List Token}
    (found : splitGroup depth tokens = some (inner, after)) :
    inner.length + after.length + 1 = tokens.length := by
  fun_induction splitGroup depth tokens generalizing inner with
  | case1 => cases found
  | case2 =>
    cases found
    simp
  | case3 _ _ ih | case4 _ _ ih | case5 _ _ _ _ _ ih =>
    obtain ⟨found, split, same⟩ := Option.map_eq_some_iff.1 found
    cases same
    have := ih split
    simp only [List.length_cons]
    omega

/-- The entries of a list of values and the tokens after its closing parenthesis. Commas count for
nothing. -/
def listEntries : List Token → Option (List String × List Token)
  | [] => none
  | punct .openParen :: _ => none
  | punct .closeParen :: rest => some ([], rest)
  | punct .comma :: rest => listEntries rest
  | token :: rest => (listEntries rest).map fun found => (token.text :: found.1, found.2)

def valueList? : List Token → Option (List String × List Token)
  | punct .openParen :: rest =>
    match listEntries rest with
    | some ([], _) => none
    | found => found
  | _ => none

theorem listEntries_length {tokens rest : List Token} {values : List String}
    (found : listEntries tokens = some (values, rest)) : rest.length < tokens.length := by
  fun_induction listEntries tokens generalizing values with
  | case1 => cases found
  | case2 => cases found
  | case3 =>
    cases found
    simp
  | case4 rest ih => exact Nat.lt_succ_of_lt (ih found)
  | case5 token rest _ _ _ ih =>
    obtain ⟨⟨v, r⟩, entries, same⟩ := Option.map_eq_some_iff.1 found
    cases same
    exact Nat.lt_succ_of_lt (ih entries)

theorem valueList?_length {tokens rest : List Token} {values : List String}
    (found : valueList? tokens = some (values, rest)) : rest.length < tokens.length := by
  unfold valueList? at found
  split at found
  · split at found
    · cases found
    · exact Nat.lt_succ_of_lt (listEntries_length found)
  · cases found

end Token

namespace Predicate

def parseValues (field : String) (operator : Operator) (tokens : List Token) :
    Except Failure (List String × List Token) :=
  if operator = .isIn then
    match Token.valueList? tokens with
    | some found => .ok found
    | none => .error (.malformedIn field)
  else
    match tokens with
    | [] => .error (.missingValue operator.text)
    | .order _ :: _ => .error (.missingValue operator.text)
    | token :: rest => .ok ([token.text], rest)

def parse (field : String) : List Token → Except Failure (Predicate × List Token)
  | [] => .error (.unknownOperator field "end of query")
  | .operator operator :: rest => do
    let (values, after) ← parseValues field operator rest
    return (⟨field, operator, values⟩, after)
  | token :: _ => .error (.unknownOperator field token.describe)

theorem parseValues_length {field : String} {operator : Operator} {tokens rest : List Token}
    {values : List String} (parsed : parseValues field operator tokens = .ok (values, rest)) :
    rest.length < tokens.length := by
  unfold parseValues at parsed
  split at parsed
  · split at parsed
    · next found =>
      cases parsed
      exact Token.valueList?_length found
    · cases parsed
  · split at parsed
    · cases parsed
    · cases parsed
    · cases parsed
      simp

theorem parse_length {field : String} {tokens rest : List Token} {predicate : Predicate}
    (parsed : parse field tokens = .ok (predicate, rest)) : rest.length < tokens.length := by
  unfold parse at parsed
  split at parsed
  · cases parsed
  · next operator after =>
    cases read : parseValues field operator after with
    | error e => simp [read, bind, Except.bind] at parsed
    | ok found =>
      simp only [read, bind, Except.bind, pure, Except.pure] at parsed
      cases parsed
      exact Nat.lt_succ_of_lt (parseValues_length read)
  · cases parsed

end Predicate

namespace Element

/-- One level of conditions. It ends at an `ORDER BY`, whatever follows. -/
def parseLevel : List Token → Except Failure (List Element)
  | [] => .ok []
  | .punct .openParen :: rest =>
    match _split : Token.splitGroup 0 rest with
    | none => .error (.invalidQuery .unclosedGroup)
    | some (inner, after) => do
      let elements ← parseLevel inner
      let more ← parseLevel after
      return .group elements :: more
  | .marker m :: rest => do
    let more ← parseLevel rest
    return .marker m :: more
  | .order .orderBy :: _ => .ok []
  | token :: rest => do
    let field ← token.fieldName .condition
    match _parsed : Predicate.parse field rest with
    | .error e => .error e
    | .ok (found, after) => do
      let more ← parseLevel after
      return .predicate found :: more
  termination_by tokens => tokens.length
  decreasing_by
    · have := Token.splitGroup_length _split
      simp only [List.length_cons]
      omega
    · have := Token.splitGroup_length _split
      simp only [List.length_cons]
      omega
    · simp
    · exact Nat.lt_succ_of_lt (Predicate.parse_length _parsed)

end Element

namespace SortKey

def parseTail : List Token → Direction × List Token
  | .order .asc :: .punct .comma :: rest => (.asc, rest)
  | .order .asc :: rest => (.asc, rest)
  | .order .desc :: .punct .comma :: rest => (.desc, rest)
  | .order .desc :: rest => (.desc, rest)
  | .punct .comma :: rest => (.asc, rest)
  | rest => (.asc, rest)

theorem parseTail_length (tokens : List Token) : (parseTail tokens).2.length ≤ tokens.length := by
  fun_cases parseTail tokens <;> simp <;> omega

/-- The entries of an ordering. The comma between two of them may be left out. -/
def parseAll : List Token → Except Failure (List SortKey)
  | [] => .ok []
  | token :: rest => do
    let field ← token.fieldName .ordering
    let more ← parseAll (parseTail rest).2
    return ⟨field, (parseTail rest).1⟩ :: more
  termination_by tokens => tokens.length
  decreasing_by exact Nat.lt_succ_of_le (parseTail_length rest)

end SortKey

namespace Query

def splitOrdering (tokens : List Token) : List Token × List Token :=
  (tokens.takeWhile (· ≠ .order .orderBy), (tokens.dropWhile (· ≠ .order .orderBy)).drop 1)

def ofTokens (tokens : List Token) : Except Failure Query := do
  let conditions ← Element.parseLevel (splitOrdering tokens).1
  let ordering ← SortKey.parseAll (splitOrdering tokens).2
  return ⟨conditions, ordering⟩

def parse (text : String) : Except Failure Query :=
  ofTokens (Token.tokenize text)

end Query

end IssueQuery
