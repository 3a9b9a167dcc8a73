import IssueQuery.Json.Value
import IssueQuery.Text.Digits

/-! Reading JSON text. One value is read, with blanks around it and nothing else. -/

namespace IssueQuery.Json

open Text

def isBlank (c : Char) : Bool :=
  c == ' ' || c == '\n' || c == '\r' || c == '\t'

def skipBlanks (text : List Char) : List Char :=
  text.dropWhile isBlank

def hexCode? (a b c d : Char) : Option Nat := do
  return 4096 * (← hexValue? a) + 256 * (← hexValue? b) + 16 * (← hexValue? c) + (← hexValue? d)

def unescape? : Char → Option Char
  | '"' => some '"'
  | '\\' => some '\\'
  | '/' => some '/'
  | 'b' => some '\x08'
  | 'f' => some '\x0c'
  | 'n' => some '\n'
  | 'r' => some '\r'
  | 't' => some '\t'
  | _ => none

def readCodes? : List Char → Option (List Nat × List Char)
  | [] => none
  | '"' :: rest => some ([], rest)
  | '\\' :: 'u' :: a :: b :: c :: d :: rest => do
    let code ← hexCode? a b c d
    let (codes, rest) ← readCodes? rest
    return (code :: codes, rest)
  | '\\' :: e :: rest => do
    let c ← unescape? e
    let (codes, rest) ← readCodes? rest
    return (c.toNat :: codes, rest)
  | c :: rest =>
    if c.toNat < 0x20 then none
    else (readCodes? rest).map fun found => (c.toNat :: found.1, found.2)

def isHighSurrogate (code : Nat) : Bool :=
  0xD800 ≤ code && code < 0xDC00

def isLowSurrogate (code : Nat) : Bool :=
  0xDC00 ≤ code && code < 0xE000

def joinCodes? : List Nat → Option (List Char)
  | [] => some []
  | code :: codes =>
    if isHighSurrogate code then
      match codes with
      | low :: rest =>
        if isLowSurrogate low then
          (joinCodes? rest).map
            (Char.ofNat (0x10000 + 0x400 * (code - 0xD800) + (low - 0xDC00)) :: ·)
        else none
      | [] => none
    else if isLowSurrogate code then none
    else (joinCodes? codes).map (Char.ofNat code :: ·)

def readDigits? (text : List Char) : Option (List Char × List Char) :=
  let digits := text.takeWhile Char.isDigit
  if digits = [] then none else some (digits, text.drop digits.length)

def readInteger? (text : List Char) : Option (List Char × List Char) :=
  match text with
  | '0' :: rest => some (['0'], rest)
  | _ => readDigits? text

def readFraction? : List Char → Option (List Char × List Char)
  | '.' :: rest => (readDigits? rest).map fun found => ('.' :: found.1, found.2)
  | text => some ([], text)

def readExponent? (text : List Char) : Option (List Char × List Char) :=
  match text with
  | 'e' :: '+' :: rest | 'E' :: '+' :: rest => exponent ['e', '+'] rest
  | 'e' :: '-' :: rest | 'E' :: '-' :: rest => exponent ['e', '-'] rest
  | 'e' :: rest | 'E' :: rest => exponent ['e'] rest
  | _ => some ([], text)
where
  exponent (mark rest : List Char) : Option (List Char × List Char) :=
    (readDigits? rest).map fun found => (mark ++ found.1, found.2)

def readNumber? (text : List Char) : Option (Value × List Char) := do
  let (sign, rest) := match text with
    | '-' :: rest => (['-'], rest)
    | _ => ([], text)
  let (integer, rest) ← readInteger? rest
  let (fraction, rest) ← readFraction? rest
  let (exponent, rest) ← readExponent? rest
  return (.number (String.ofList (sign ++ integer ++ fraction ++ exponent)), rest)

def readString? (text : List Char) : Option (Value × List Char) := do
  let (codes, rest) ← readCodes? text
  match joinCodes? codes with
  | some chars => return (.string (String.ofList chars), rest)
  | none => return (.garbled, rest)

def Value.ofMembers (members : List (Value × Value)) : Value :=
  match members.mapM fun member =>
    match member.1 with
    | string key => some (key, member.2)
    | _ => none
  with
  | some keyed => object keyed
  | none => garbled

mutual

/-- One value. The fuel bounds the number of steps. -/
def readValue? : Nat → List Char → Option (Value × List Char)
  | 0, _ => none
  | fuel + 1, text =>
    match skipBlanks text with
    | 'n' :: 'u' :: 'l' :: 'l' :: rest => some (.null, rest)
    | 't' :: 'r' :: 'u' :: 'e' :: rest => some (.bool true, rest)
    | 'f' :: 'a' :: 'l' :: 's' :: 'e' :: rest => some (.bool false, rest)
    | '"' :: rest => readString? rest
    | '[' :: rest =>
      match skipBlanks rest with
      | ']' :: rest => some (.array [], rest)
      | _ => (readItems? fuel rest).map fun found => (.array found.1, found.2)
    | '\x7b' :: rest =>
      match skipBlanks rest with
      | '\x7d' :: rest => some (.object [], rest)
      | _ => (readMembers? fuel rest).map fun found => (.ofMembers found.1, found.2)
    | rest => readNumber? rest

def readItems? : Nat → List Char → Option (List Value × List Char)
  | 0, _ => none
  | fuel + 1, text => do
    let (item, rest) ← readValue? fuel text
    match skipBlanks rest with
    | ',' :: rest => (readItems? fuel rest).map fun found => (item :: found.1, found.2)
    | ']' :: rest => some ([item], rest)
    | _ => none

def readMembers? : Nat → List Char → Option (List (Value × Value) × List Char)
  | 0, _ => none
  | fuel + 1, text => do
    match skipBlanks text with
    | '"' :: rest =>
      let (key, rest) ← readString? rest
      match skipBlanks rest with
      | ':' :: rest =>
        let (value, rest) ← readValue? fuel rest
        match skipBlanks rest with
        | ',' :: rest => (readMembers? fuel rest).map fun found => ((key, value) :: found.1, found.2)
        | '\x7d' :: rest => some ([(key, value)], rest)
        | _ => none
      | _ => none
    | _ => none

end

def Value.read? (text : String) : Option Value :=
  let chars := text.toList
  match readValue? (2 * chars.length + 1) chars with
  | some (value, rest) => if skipBlanks rest = [] then some value else none
  | none => none

end IssueQuery.Json
