import IssueQuery.Text.CharClass

/-! Text in double quotes on one line: quotes, backslashes and every character that does not show as
itself are written as escapes. -/

namespace IssueQuery.Text

def hex (n : Nat) : List Char :=
  Nat.toDigits 16 n

def escaped (c : Char) : List Char :=
  match c with
  | '\x00' => ['\\', '0']
  | '\t' => ['\\', 't']
  | '\r' => ['\\', 'r']
  | '\n' => ['\\', 'n']
  | '\\' => ['\\', '\\']
  | '"' => ['\\', '"']
  | c =>
    if extendsGrapheme c || !isPrintable c then
      ['\\', 'u', '\x7b'] ++ hex c.toNat ++ ['\x7d']
    else [c]

def quotedChars (text : List Char) : List Char :=
  '"' :: text.flatMap escaped ++ ['"']

def quoted (text : String) : String :=
  String.ofList (quotedChars text.toList)

end IssueQuery.Text
