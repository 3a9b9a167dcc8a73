import IssueQuery.Text.Digits

/-! Numbers as TOML writes them. Underscores may stand between digits, and nowhere else. -/

namespace IssueQuery.Toml

open Text

def ungrouped? (isDigit : Char → Bool) : List Char → Option (List Char)
  | [] => none
  | [c] => if isDigit c then some [c] else none
  | c :: '_' :: rest => if isDigit c then (ungrouped? isDigit rest).map (c :: ·) else none
  | c :: rest => if isDigit c then (ungrouped? isDigit rest).map (c :: ·) else none

def decimal? (written : List Char) : Option Nat := do
  let digits ← ungrouped? Char.isDigit written
  if digits.head? == some '0' && 1 < digits.length then none
  return digitsValue digits

def isHexDigit (c : Char) : Bool :=
  (hexValue? c).isSome

def inBase? (base : Nat) (written : List Char) : Option Nat := do
  valueIn? base (← ungrouped? isHexDigit written)

def integer? : List Char → Option Int
  | '0' :: 'x' :: rest => (inBase? 16 rest).map Int.ofNat
  | '0' :: 'o' :: rest => (inBase? 8 rest).map Int.ofNat
  | '0' :: 'b' :: rest => (inBase? 2 rest).map Int.ofNat
  | '+' :: rest => (decimal? rest).map Int.ofNat
  | '-' :: rest => (decimal? rest).map fun n => -Int.ofNat n
  | written => (decimal? written).map Int.ofNat

def withoutSign : List Char → List Char
  | '+' :: rest => rest
  | '-' :: rest => rest
  | written => written

def isExponentMark (c : Char) : Bool :=
  c == 'e' || c == 'E'

def isExponent (written : List Char) : Bool :=
  (ungrouped? Char.isDigit (withoutSign written)).isSome

def isFloat (written : List Char) : Bool :=
  let unsigned := withoutSign written
  if unsigned == ['i', 'n', 'f'] || unsigned == ['n', 'a', 'n'] then true
  else
    let mantissa := unsigned.takeWhile (!isExponentMark ·)
    let exponent := unsigned.dropWhile (!isExponentMark ·)
    let whole := mantissa.takeWhile (· != '.')
    let fraction := mantissa.dropWhile (· != '.')
    (decimal? whole).isSome && !(fraction.isEmpty && exponent.isEmpty) &&
      (fraction.isEmpty || (ungrouped? Char.isDigit (fraction.drop 1)).isSome) &&
      (exponent.isEmpty || isExponent (exponent.drop 1))

end IssueQuery.Toml
