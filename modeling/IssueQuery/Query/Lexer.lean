import IssueQuery.Query.Token
import IssueQuery.Text.ByteLength
import IssueQuery.Text.CharClass

/-! Cutting query text into tokens. A text is read as a row of lexemes, each with the unrecognised
characters that stand before it, and a tail that holds no lexeme; nothing of the text is lost. -/

namespace IssueQuery

open Text

structure Lexeme where
  gap : List Char
  text : List Char
  token : Token
  deriving Repr

structure Scan where
  lexemes : List Lexeme
  tail : List Char
  deriving Repr

namespace Lexeme

def pair? (first second : List Char) (word rest : List Char) : Option (List Char × List Char) :=
  if word = first then
    let blanks := rest.takeWhile isBlank
    let after := rest.dropWhile isBlank
    if blanks ≠ [] ∧ after.takeWhile isWord = second then
      some (word ++ blanks ++ second, after.dropWhile isWord)
    else none
  else none

/-- The lexeme of a run of word characters: one of the two keywords of two words if the text goes on
so, else the run itself. -/
def ofWord (word rest : List Char) : (List Char × Token) × List Char :=
  match pair? "ORDER".toList "BY".toList word rest with
  | some (text, after) => ((text, .order .orderBy), after)
  | none =>
    match pair? "IS".toList "NOT".toList word rest with
    | some (text, after) => ((text, .operator .isNot), after)
    | none => ((word, Token.ofWord (String.ofList word)), rest)

def quoted? (rest : List Char) : Option ((List Char × Token) × List Char) :=
  match rest.dropWhile (· != '"') with
  | [] => none
  | _ :: after =>
    let inner := rest.takeWhile (· != '"')
    if inner = [] then none else some (('"' :: inner ++ ['"'], .quoted (String.ofList inner)), after)

def next? (c : Char) (rest : List Char) : Option ((List Char × Token) × List Char) :=
  if isWord c then
    some (ofWord (c :: rest.takeWhile isWord) (rest.dropWhile isWord))
  else
    match c, rest with
    | '"', rest => quoted? rest
    | '>', '=' :: after => some ((['>', '='], .operator .ge), after)
    | '<', '=' :: after => some ((['<', '='], .operator .le), after)
    | '!', '=' :: after => some ((['!', '='], .operator .ne), after)
    | '>', rest => some ((['>'], .operator .gt), rest)
    | '<', rest => some ((['<'], .operator .lt), rest)
    | '=', rest => some ((['='], .operator .eq), rest)
    | '(', rest => some ((['('], .punct .openParen), rest)
    | ')', rest => some (([')'], .punct .closeParen), rest)
    | ',', rest => some (([','], .punct .comma), rest)
    | _, _ => none

theorem pair?_length {first second word rest text after : List Char}
    (found : pair? first second word rest = some (text, after)) : after.length ≤ rest.length := by
  unfold pair? at found
  split at found
  · simp only at found
    split at found
    · cases found
      exact Nat.le_trans (List.dropWhile_sublist _).length_le (List.dropWhile_sublist _).length_le
    · cases found
  · cases found

theorem ofWord_length (word rest : List Char) : (ofWord word rest).2.length ≤ rest.length := by
  unfold ofWord
  split
  · next found => exact pair?_length found
  · split
    · next found => exact pair?_length found
    · exact Nat.le_refl _

theorem quoted?_length {rest : List Char} {lexeme : (List Char × Token) × List Char}
    (found : quoted? rest = some lexeme) : lexeme.2.length ≤ rest.length := by
  have shorter := (List.dropWhile_sublist (l := rest) (· != '"')).length_le
  unfold quoted? at found
  split at found
  · cases found
  · next shape =>
    rw [shape] at shorter
    simp only at found
    split at found
    · cases found
    · cases found
      exact Nat.le_of_succ_le shorter

theorem next?_length {c : Char} {rest : List Char} {lexeme : (List Char × Token) × List Char}
    (found : next? c rest = some lexeme) : lexeme.2.length ≤ rest.length := by
  unfold next? at found
  split at found
  · cases found
    exact Nat.le_trans (ofWord_length _ _) (List.dropWhile_sublist _).length_le
  · split at found
    · exact quoted?_length found
    all_goals (cases found <;> simp)

end Lexeme

namespace Scan

def skip (c : Char) : Scan → Scan
  | ⟨[], tail⟩ => ⟨[], c :: tail⟩
  | ⟨lexeme :: lexemes, tail⟩ => ⟨{ lexeme with gap := c :: lexeme.gap } :: lexemes, tail⟩

def ofChars : List Char → Scan
  | [] => ⟨[], []⟩
  | c :: rest =>
    match _found : Lexeme.next? c rest with
    | some ((text, token), after) =>
      let scan := ofChars after
      ⟨⟨[], text, token⟩ :: scan.lexemes, scan.tail⟩
    | none => (ofChars rest).skip c
  termination_by text => text.length
  decreasing_by
    · exact Nat.lt_succ_of_le (Lexeme.next?_length _found)
    · simp

def tokens (scan : Scan) : List Token :=
  scan.lexemes.map Lexeme.token

def gaps (scan : Scan) : List (List Char) :=
  scan.lexemes.map Lexeme.gap ++ [scan.tail]

end Scan

/-- The gaps that hold more than blanks, each with its byte offset, the blanks at its ends left out. -/
def Scan.skippedFrom (offset : Nat) : Scan → List (Nat × List Char)
  | ⟨[], tail⟩ => report offset tail
  | ⟨lexeme :: lexemes, tail⟩ =>
    report offset lexeme.gap ++
      skippedFrom (offset + byteLength lexeme.gap + byteLength lexeme.text) ⟨lexemes, tail⟩
  termination_by scan => scan.lexemes.length
where
  report (offset : Nat) (gap : List Char) : List (Nat × List Char) :=
    if blank gap then [] else [(offset, trim gap)]

structure Skipped where
  offset : Nat
  text : String
  deriving DecidableEq, Repr

namespace Token

def scan (text : String) : Scan :=
  Scan.ofChars text.toList

/-- The tokens of a query text. Text that belongs to no token is passed over. -/
def tokenize (text : String) : List Token :=
  (scan text).tokens

def skipped (text : String) : List Skipped :=
  ((scan text).skippedFrom 0).map fun piece => ⟨piece.1, String.ofList piece.2⟩

end Token

end IssueQuery
