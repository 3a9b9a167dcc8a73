import IssueQuery.Text.Digits

/-!
Quoted text in TOML: in single or double quotes, on one line or, between triple quotes, on several. Only
double quotes know escapes. `written` takes the plainest spelling that holds a text.
-/

namespace IssueQuery.Toml

open Text

def character? (code : Nat) : Option Char :=
  if code.isValidChar then some (Char.ofNat code) else none

def escaped? (digits : List Char) : Option Char := do
  character? (← valueIn? 16 digits)

def unescape? : Char → Option Char
  | 'b' => some '\x08'
  | 't' => some '\t'
  | 'n' => some '\n'
  | 'f' => some '\x0c'
  | 'r' => some '\r'
  | 'e' => some '\x1b'
  | '"' => some '"'
  | '\\' => some '\\'
  | _ => none

def isControl (c : Char) : Bool :=
  (c.toNat < 0x20 && c != '\t') || c.toNat == 0x7F

def push? (c : Option Char) (found : Option (List Char × List Char)) : Option (List Char × List Char) := do
  let (text, rest) ← found
  return ((← c) :: text, rest)

def readBasic? : List Char → Option (List Char × List Char)
  | [] => none
  | '"' :: rest => some ([], rest)
  | '\\' :: 'x' :: a :: b :: rest => push? (escaped? [a, b]) (readBasic? rest)
  | '\\' :: 'u' :: a :: b :: c :: d :: rest => push? (escaped? [a, b, c, d]) (readBasic? rest)
  | '\\' :: 'U' :: a :: b :: c :: d :: e :: f :: g :: h :: rest =>
    push? (escaped? [a, b, c, d, e, f, g, h]) (readBasic? rest)
  | '\\' :: c :: rest => push? (unescape? c) (readBasic? rest)
  | c :: rest => push? (if isControl c || c == '\\' then none else some c) (readBasic? rest)

def readLiteral? : List Char → Option (List Char × List Char)
  | [] => none
  | '\'' :: rest => some ([], rest)
  | c :: rest => push? (if isControl c then none else some c) (readLiteral? rest)

def isBlank (c : Char) : Bool :=
  c == ' ' || c == '\t'

def endsLine (text : List Char) : Bool :=
  match text.dropWhile isBlank with
  | '\n' :: _ => true
  | '\r' :: '\n' :: _ => true
  | _ => false

/-- The text up to three double quotes, and what stands after them; up to two quotes before them belong to
the text. A backslash at the end of a line takes away all blanks and newlines that follow. -/
def readLongBasic? (skipping : Bool) : List Char → Option (List Char × List Char)
  | [] => none
  | '"' :: '"' :: '"' :: '"' :: '"' :: rest => some (['"', '"'], rest)
  | '"' :: '"' :: '"' :: '"' :: rest => some (['"'], rest)
  | '"' :: '"' :: '"' :: rest => some ([], rest)
  | '\n' :: rest =>
    if skipping then readLongBasic? true rest
    else push? (some '\n') (readLongBasic? false rest)
  | '\r' :: '\n' :: rest =>
    if skipping then readLongBasic? true rest
    else push? (some '\r') (push? (some '\n') (readLongBasic? false rest))
  | '\\' :: 'x' :: a :: b :: rest => push? (escaped? [a, b]) (readLongBasic? false rest)
  | '\\' :: 'u' :: a :: b :: c :: d :: rest =>
    push? (escaped? [a, b, c, d]) (readLongBasic? false rest)
  | '\\' :: 'U' :: a :: b :: c :: d :: e :: f :: g :: h :: rest =>
    push? (escaped? [a, b, c, d, e, f, g, h]) (readLongBasic? false rest)
  | '\\' :: c :: rest =>
    if endsLine (c :: rest) then
      if c == '\r' then readLongBasic? true (c :: rest) else readLongBasic? true rest
    else push? (unescape? c) (readLongBasic? false rest)
  | c :: rest =>
    if skipping && isBlank c then readLongBasic? true rest
    else push? (if isControl c || c == '\\' then none else some c) (readLongBasic? false rest)

def readLongLiteral? : List Char → Option (List Char × List Char)
  | [] => none
  | '\'' :: '\'' :: '\'' :: '\'' :: '\'' :: rest => some (['\'', '\''], rest)
  | '\'' :: '\'' :: '\'' :: '\'' :: rest => some (['\''], rest)
  | '\'' :: '\'' :: '\'' :: rest => some ([], rest)
  | '\n' :: rest => push? (some '\n') (readLongLiteral? rest)
  | '\r' :: '\n' :: rest => push? (some '\r') (push? (some '\n') (readLongLiteral? rest))
  | c :: rest => push? (if isControl c then none else some c) (readLongLiteral? rest)

def dropNewline : List Char → List Char
  | '\n' :: rest => rest
  | '\r' :: '\n' :: rest => rest
  | text => text

def readQuoted? : List Char → Option (List Char × List Char)
  | '"' :: '"' :: '"' :: rest => readLongBasic? false (dropNewline rest)
  | '"' :: rest => readBasic? rest
  | '\'' :: '\'' :: '\'' :: rest => readLongLiteral? (dropNewline rest)
  | '\'' :: rest => readLiteral? rest
  | _ => none

/-! Writing. -/

inductive Style where
  | basic | literal | longBasic | longLiteral
  deriving DecidableEq, Repr

def Style.delimiter : Style → List Char
  | basic => ['"']
  | literal => ['\'']
  | longBasic => ['"', '"', '"']
  | longLiteral => ['\'', '\'', '\'']

def hasTriple (quote : Char) : List Char → Bool
  | a :: b :: c :: rest => (a == quote && b == quote && c == quote) || hasTriple quote (b :: c :: rest)
  | _ => false

def needsEscape (c : Char) : Bool :=
  isControl c && c != '\n'

/-- The plainest style that can hold a text: double quotes without escapes before single quotes, one line
before several, escapes last. -/
def styleOf (text : List Char) : Style :=
  let newline := text.contains '\n'
  let backslash := text.contains '\\'
  if text.any needsEscape then (if newline then .longBasic else .basic)
  else if !backslash && !newline && !text.contains '"' then .basic
  else if !newline && !text.contains '\'' then .literal
  else if !backslash && !hasTriple '"' text then .longBasic
  else if !hasTriple '\'' text then .longLiteral
  else if newline then .longBasic
  else .basic

def hexDigit (n : Nat) : Char :=
  if n % 16 < 10 then Char.ofNat (48 + n % 16) else Char.ofNat (55 + n % 16)

def escapeChar (long : Bool) (c : Char) : List Char :=
  if c == '\x08' then ['\\', 'b']
  else if c == '\t' then ['\\', 't']
  else if c == '\n' then (if long then ['\n'] else ['\\', 'n'])
  else if c == '\x0c' then ['\\', 'f']
  else if c == '\r' then ['\\', 'r']
  else if c == '\\' then ['\\', '\\']
  else if isControl c then ['\\', 'u', '0', '0', hexDigit (c.toNat / 16), hexDigit c.toNat]
  else [c]

/-- A text between double quotes, after `run` of them that stand unescaped. Between triple quotes two in a
row need no escape. -/
def escapeText (long : Bool) : Nat → List Char → List Char
  | _, [] => []
  | run, c :: rest =>
    if c == '"' then
      if long && run < 2 then '"' :: escapeText long (run + 1) rest
      else '\\' :: '"' :: escapeText long 0 rest
    else escapeChar long c ++ escapeText long 0 rest

def written (text : List Char) : List Char :=
  let style := styleOf text
  let body := match style with
    | .basic => escapeText false 0 text
    | .longBasic => escapeText true 0 text
    | .literal | .longLiteral => text
  let opening := if style.delimiter.length == 3 && text.contains '\n' then ['\n'] else []
  style.delimiter ++ opening ++ body ++ style.delimiter

end IssueQuery.Toml
