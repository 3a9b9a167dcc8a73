import IssueQuery.Time.Instant

/-! Moments counted from the start of 1970. -/

namespace IssueQuery

/-- The day that lies this many days after the first of 1970. Years are counted from March, so that a leap
day ends one, and four centuries have always the same length. -/
def Date.ofEpochDay? (days : Int) : Option Date :=
  let shifted := days + 719468
  let era := shifted / 146097
  let day := (shifted % 146097).toNat
  let year := (day - day / 1460 + day / 36524 - day / 146096) / 365
  let dayOfYear := day - (365 * year + year / 4 - year / 100)
  let month := (5 * dayOfYear + 2) / 153
  let dayOfMonth := dayOfYear - (153 * month + 2) / 5 + 1
  if month < 10 then ofParts? (400 * era + year) (month + 3) dayOfMonth
  else ofParts? (400 * era + year + 1) (month - 9) dayOfMonth

def Instant.ofEpoch? (seconds : Int) (nano : Nat) : Option Instant := do
  let date ← Date.ofEpochDay? (seconds / 86400)
  ofParts? date (seconds % 86400).toNat (nano % 1000000000)

end IssueQuery
