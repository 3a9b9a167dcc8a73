import IssueQuery.Time.Instant
import IssueQuery.Text.Digits

/-! The written form of a moment: RFC 3339, with as many fraction digits as it takes, in threes. A year
outside 0 to 9999 has a sign and at least four digits. Stored text ends in `+00:00`, JSON in `Z`. -/

namespace IssueQuery

open Text

def writtenYear (year : Int) : List Char :=
  if 0 ≤ year ∧ year ≤ 9999 then fixedDigits 4 year.toNat
  else (if year < 0 then '-' else '+') :: paddedDigits 4 year.natAbs

def Date.written (date : Date) : List Char :=
  writtenYear date.year ++ '-' :: fixedDigits 2 date.month ++ '-' :: fixedDigits 2 date.day

def writtenFraction (nano : Nat) : List Char :=
  if nano = 0 then []
  else if nano % 1000000 = 0 then '.' :: fixedDigits 3 (nano / 1000000)
  else if nano % 1000 = 0 then '.' :: fixedDigits 6 (nano / 1000)
  else '.' :: fixedDigits 9 nano

namespace Instant

/-- The second within the minute, the next one after a thousand million nanoseconds: 60 in a leap second. -/
def clockSecond (instant : Instant) : Nat :=
  instant.second % 60 + instant.nano / 1000000000

def writtenTime (instant : Instant) : List Char :=
  fixedDigits 2 (instant.second / 3600) ++ ':' :: fixedDigits 2 (instant.second / 60 % 60) ++
    ':' :: fixedDigits 2 instant.clockSecond ++ writtenFraction (instant.nano % 1000000000)

def written (zone : List Char) (instant : Instant) : List Char :=
  instant.date.written ++ 'T' :: instant.writtenTime ++ zone

def stored (instant : Instant) : String :=
  String.ofList (instant.written "+00:00".toList)

def json (instant : Instant) : String :=
  String.ofList (instant.written ['Z'])

end Instant

end IssueQuery
