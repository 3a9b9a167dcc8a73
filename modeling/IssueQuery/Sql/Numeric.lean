import IssueQuery.Text.Digits

/-! Texts that look like numbers. A decimal is read exactly and then taken as the nearest binary64, except
that a whole number which fits 64 bits stays as it is. -/

namespace IssueQuery.Sql

open Text

def isNumberBlank (c : Char) : Bool :=
  c == ' ' || (9 ≤ c.toNat && c.toNat ≤ 13)

structure Decimal where
  negative : Bool
  mantissa : Nat
  exponent : Int
  /-- It has neither a point nor an exponent. -/
  whole : Bool
  deriving DecidableEq, Repr

structure Dyadic where
  mantissa : Int
  exponent : Int
  deriving DecidableEq, Repr

def roundDiv (num den : Nat) : Nat :=
  let floor := num / den
  let twice := 2 * (num % den)
  if den < twice ∨ (twice = den ∧ floor % 2 = 1) then floor + 1 else floor

def scaled (num den : Nat) (exponent : Int) : Nat × Nat :=
  if exponent < 0 then (num * Nat.pow 2 exponent.natAbs, den)
  else (num, den * Nat.pow 2 exponent.natAbs)

/-- The exponent at which the quotient has 53 binary digits before the point, or that of the finest
step there is. -/
def binary64Exponent (num den : Nat) : Int :=
  let low : Int := Nat.log2 num - Nat.log2 den - 53
  let (n, d) := scaled num den low
  max (-1074) (if Nat.pow 2 53 ≤ n / d then low + 1 else low)

def nearestBinary64 (num den : Nat) : Dyadic :=
  let exponent := binary64Exponent num den
  let (n, d) := scaled num den exponent
  ⟨roundDiv n d, exponent⟩

namespace Decimal

def exponentLimit : Int := 10000

def magnitude (decimal : Decimal) : Nat × Nat :=
  let exponent := max (-exponentLimit) (min exponentLimit decimal.exponent)
  if exponent < 0 then (decimal.mantissa, Nat.pow 10 exponent.natAbs)
  else (decimal.mantissa * Nat.pow 10 exponent.natAbs, 1)

def fits64 (decimal : Decimal) : Bool :=
  decimal.whole && decimal.mantissa < Nat.pow 2 63 + if decimal.negative then 1 else 0

def toDyadic (decimal : Decimal) : Dyadic :=
  let size : Dyadic :=
    if decimal.fits64 || decimal.mantissa == 0 then ⟨decimal.mantissa, 0⟩
    else nearestBinary64 decimal.magnitude.1 decimal.magnitude.2
  if decimal.negative then ⟨-size.mantissa, size.exponent⟩ else size

def readSign : List Char → Bool × List Char
  | '-' :: rest => (true, rest)
  | '+' :: rest => (false, rest)
  | text => (false, text)

def readExponent? : List Char → Option (Int × List Char)
  | 'e' :: rest | 'E' :: rest =>
    let (negative, rest) := readSign rest
    let digits := rest.takeWhile Char.isDigit
    if digits = [] then none
    else
      let value : Int := digitsValue digits
      some (if negative then -value else value, rest.drop digits.length)
  | _ => none

def readFraction : List Char → Bool × List Char × List Char
  | '.' :: rest => (true, rest.takeWhile Char.isDigit, rest.dropWhile Char.isDigit)
  | text => (false, [], text)

def readFront? (text : List Char) : Option (Decimal × List Char) :=
  let (negative, text) := readSign (text.dropWhile isNumberBlank)
  let integer := text.takeWhile Char.isDigit
  let (point, fraction, rest) := readFraction (text.dropWhile Char.isDigit)
  if integer = [] ∧ fraction = [] then none
  else
    let mantissa := digitsValue (integer ++ fraction)
    match readExponent? rest with
    | some (exponent, rest) => some (⟨negative, mantissa, exponent - fraction.length, false⟩, rest)
    | none => some (⟨negative, mantissa, -(fraction.length : Int), !point⟩, rest)

def read? (text : String) : Option Decimal :=
  match readFront? text.toList with
  | some (decimal, rest) => if rest.all isNumberBlank then some decimal else none
  | none => none

end Decimal

def compareInt (n : Int) (x : Dyadic) : Ordering :=
  if x.exponent < 0 then Ord.compare (n * (Nat.pow 2 x.exponent.natAbs : Nat)) x.mantissa
  else Ord.compare n (x.mantissa * (Nat.pow 2 x.exponent.natAbs : Nat))

/-- The number at the front of a text counts as true unless it rounds to zero; no number is zero. -/
def textIsTrue (text : String) : Bool :=
  match Decimal.readFront? text.toList with
  | some (decimal, _) => decimal.toDyadic.mantissa != 0
  | none => false

end IssueQuery.Sql
