import IssueQuery.Json.Value

/-! JSON text, on one line without blanks or spread over lines with two spaces for each level. -/

namespace IssueQuery.Json

def hexDigit (n : Nat) : Char :=
  if n < 10 then Char.ofNat (48 + n) else Char.ofNat (87 + n)

def escaped (c : Char) : List Char :=
  match c with
  | '"' => ['\\', '"']
  | '\\' => ['\\', '\\']
  | '\n' => ['\\', 'n']
  | '\r' => ['\\', 'r']
  | '\t' => ['\\', 't']
  | '\x08' => ['\\', 'b']
  | '\x0c' => ['\\', 'f']
  | c =>
    if c.toNat < 0x20 then ['\\', 'u', '0', '0', hexDigit (c.toNat / 16), hexDigit (c.toNat % 16)]
    else [c]

def writtenString (text : List Char) : List Char :=
  '"' :: text.flatMap escaped ++ ['"']

mutual

def Value.compactChars : Value → List Char
  | null => "null".toList
  | bool true => "true".toList
  | bool false => "false".toList
  | number literal => literal.toList
  | string text => writtenString text.toList
  | array items => '[' :: compactItems items ++ [']']
  | object members => '\x7b' :: compactMembers members ++ ['\x7d']
  | garbled => "null".toList

def Value.compactItems : List Value → List Char
  | [] => []
  | [item] => item.compactChars
  | item :: items => item.compactChars ++ ',' :: compactItems items

def Value.compactMembers : List (String × Value) → List Char
  | [] => []
  | [member] => compactMember member
  | member :: members => compactMember member ++ ',' :: compactMembers members

def Value.compactMember : String × Value → List Char
  | (key, value) => writtenString key.toList ++ ':' :: value.compactChars

end

def newline (level : Nat) : List Char :=
  '\n' :: List.replicate (2 * level) ' '

mutual

def Value.prettyChars (level : Nat) : Value → List Char
  | array [] => ['[', ']']
  | array items => '[' :: prettyItems (level + 1) items ++ newline level ++ [']']
  | object [] => ['\x7b', '\x7d']
  | object members => '\x7b' :: prettyMembers (level + 1) members ++ newline level ++ ['\x7d']
  | null => "null".toList
  | bool true => "true".toList
  | bool false => "false".toList
  | number literal => literal.toList
  | string text => writtenString text.toList
  | garbled => "null".toList

def Value.prettyItems (level : Nat) : List Value → List Char
  | [] => []
  | [item] => newline level ++ item.prettyChars level
  | item :: items => newline level ++ item.prettyChars level ++ ',' :: prettyItems level items

def Value.prettyMembers (level : Nat) : List (String × Value) → List Char
  | [] => []
  | [member] => prettyMember level member
  | member :: members => prettyMember level member ++ ',' :: prettyMembers level members

def Value.prettyMember (level : Nat) : String × Value → List Char
  | (key, value) => newline level ++ writtenString key.toList ++ ':' :: ' ' :: value.prettyChars level

end

namespace Value

def compact (value : Value) : String :=
  String.ofList value.compactChars

def pretty (value : Value) : String :=
  String.ofList (value.prettyChars 0)

end Value

end IssueQuery.Json
