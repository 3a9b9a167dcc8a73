import IssueQuery.Text.ByteLength

/-! Cutting SQL text into tokens, each with its byte offset. Only the tokens that a filter needs have a
kind of their own; any other character is kept as it is and fits nowhere. -/

namespace IssueQuery.Sql

open Text

inductive Symbol where
  | openParen | closeParen | comma | dot
  | eq | ne | lt | gt | le | ge
  deriving DecidableEq, Repr

inductive Kind where
  /-- A name or keyword. -/
  | word
  | number
  /-- A placeholder; its text starts with the colon. -/
  | placeholder
  | symbol (symbol : Symbol)
  /-- Text that is no token of SQL at all. -/
  | illegal
  | other
  deriving DecidableEq, Repr

structure Token where
  kind : Kind
  text : String
  offset : Nat
  deriving DecidableEq, Repr

def isBlank (c : Char) : Bool :=
  c == ' ' || c == '\t' || c == '\n' || c == '\r' || c == '\x0c'

def isNameChar (c : Char) : Bool :=
  c.isAlphanum || c == '_' || c == '$' || 0x80 ≤ c.toNat

def numberLength (text : List Char) : Nat :=
  let digits := fun (text : List Char) => (text.takeWhile fun c => c.isDigit || c == '_').length
  let whole := 1 + digits (text.drop 1)
  match text.drop whole with
  | 'e' :: c :: rest | 'E' :: c :: rest =>
    if c.isDigit then whole + 2 + digits rest
    else if (c == '+' || c == '-') && (rest.head?.any Char.isDigit) then whole + 2 + digits rest
    else whole
  | _ => whole

def nextToken (c : Char) (rest : List Char) : Kind × Nat :=
  let run := (rest.takeWhile isNameChar).length
  if c.isDigit || (c == '.' && rest.head?.any Char.isDigit) then
    let number := numberLength (c :: rest)
    let trailing := ((c :: rest).drop number |>.takeWhile isNameChar).length
    (if trailing = 0 then .number else .illegal, number + trailing)
  else if isNameChar c then (.word, run + 1)
  else
    match c, rest with
    | ':', _ => if run = 0 then (.illegal, 1) else (.placeholder, run + 1)
    | '<', '=' :: _ => (.symbol .le, 2)
    | '>', '=' :: _ => (.symbol .ge, 2)
    | '<', '>' :: _ => (.symbol .ne, 2)
    | '<', _ => (.symbol .lt, 1)
    | '>', _ => (.symbol .gt, 1)
    | '=', _ => (.symbol .eq, 1)
    | '(', _ => (.symbol .openParen, 1)
    | ')', _ => (.symbol .closeParen, 1)
    | ',', _ => (.symbol .comma, 1)
    | '.', _ => (.symbol .dot, 1)
    | _, _ => (.other, 1)

def tokens (offset : Nat) : List Char → List Token
  | [] => []
  | c :: rest =>
    if isBlank c then tokens (offset + c.utf8Size) rest
    else
      let (kind, length) := nextToken c rest
      let text := c :: rest.take (length - 1)
      ⟨kind, String.ofList text, offset⟩ ::
        tokens (offset + byteLength text) (rest.drop (length - 1))
  termination_by text => text.length
  decreasing_by
    · simp
    · simp only [List.length_cons, List.length_drop]
      omega

def placeholders (text : String) : List String :=
  ((tokens 0 text.toList).filter fun token => token.kind == .placeholder).map Token.text

end IssueQuery.Sql
