import IssueQuery.Time.Instant
import IssueQuery.Text.CharClass
import IssueQuery.Text.Digits

/-! Three readers of moments. RFC 3339 text is read strictly; a plain date may have short numbers and
blanks before them; the loose form, which JSON allows, has a date of that kind, a time and an offset,
with blanks between its parts. -/

namespace IssueQuery

open Text

def readFraction? (text : List Char) : Option (Nat × List Char) :=
  let digits := text.takeWhile Char.isDigit
  if digits = [] then none
  else
    let kept := digits.take 9
    some (digitsValue kept * Nat.pow 10 (9 - kept.length), text.drop digits.length)

def readOptionalFraction? : List Char → Option (Nat × List Char)
  | '.' :: rest => readFraction? rest
  | text => some (0, text)

def readSign? : List Char → Option (Int × List Char)
  | '+' :: rest => some (1, rest)
  | '-' :: rest => some (-1, rest)
  | '−' :: rest => some (-1, rest)
  | _ => none

/-- An offset in minutes, with `separator` between its hours and minutes. It is less than a day. -/
def readOffset? (separator : List Char → Option (List Char)) (text : List Char) :
    Option (Int × List Char) :=
  match text with
  | 'Z' :: rest | 'z' :: rest => some (0, rest)
  | _ => do
    let (sign, rest) ← readSign? text
    let (hours, rest) ← takeDigits? 2 rest
    let rest ← separator rest
    let (minutes, rest) ← takeDigits? 2 rest
    if hours < 24 ∧ minutes < 60 then some (sign * (60 * hours + minutes), rest) else none

/-- A time of day from its written numbers; second 60 is a leap second. -/
def timeOfDay? (hour minute second nano : Nat) : Option (Nat × Nat) :=
  if hour < 24 ∧ minute < 60 ∧ second < 60 then some (3600 * hour + 60 * minute + second, nano)
  else if hour < 24 ∧ minute < 60 ∧ second = 60 then
    some (3600 * hour + 60 * minute + 59, nano + 1000000000)
  else none

/-- A year with at most four digits, or a sign and any number of them. -/
def readYear? (text : List Char) : Option (Int × List Char) :=
  match text with
  | '-' :: rest => (takeDigitsUpTo? rest.length rest).map fun found => (-(found.1 : Int), found.2)
  | '+' :: rest => (takeDigitsUpTo? rest.length rest).map fun found => ((found.1 : Int), found.2)
  | _ => (takeDigitsUpTo? 4 text).map fun found => ((found.1 : Int), found.2)

def readMark? (spaced : Bool) (mark : Char) (text : List Char) : Option (List Char) :=
  dropChar? mark (if spaced then trimStart text else text)

def readDate? (spaced : Bool) (text : List Char) : Option (Date × List Char) := do
  let (year, rest) ← readYear? (trimStart text)
  let rest ← readMark? spaced '-' rest
  let (month, rest) ← takeDigitsUpTo? 2 (trimStart rest)
  let rest ← readMark? spaced '-' rest
  let (day, rest) ← takeDigitsUpTo? 2 (trimStart rest)
  let date ← Date.ofParts? year month day
  return (date, rest)

def readTimeMark? : List Char → Option (List Char)
  | 'T' :: rest | 't' :: rest | ' ' :: rest => some rest
  | _ => none

namespace Date

def read? (text : String) : Option Date :=
  match readDate? false text.toList with
  | some (date, []) => some date
  | _ => none

end Date

namespace Instant

def readStrict? (text : String) : Option Instant := do
  let (year, rest) ← takeDigits? 4 text.toList
  let rest ← dropChar? '-' rest
  let (month, rest) ← takeDigits? 2 rest
  let rest ← dropChar? '-' rest
  let (day, rest) ← takeDigits? 2 rest
  let rest ← readTimeMark? rest
  let (hour, rest) ← takeDigits? 2 rest
  let rest ← dropChar? ':' rest
  let (minute, rest) ← takeDigits? 2 rest
  let rest ← dropChar? ':' rest
  let (second, rest) ← takeDigits? 2 rest
  let (fraction, rest) ← readOptionalFraction? rest
  let (offset, rest) ← readOffset? (dropChar? ':') rest
  guard rest.isEmpty
  let date ← Date.ofParts? year month day
  let (second, nano) ← timeOfDay? hour minute second fraction
  ofLocal? date second nano offset

def readLooseOffset? (text : List Char) : Option (Int × List Char) :=
  if (text.take 3).map Char.toLower = ['u', 't', 'c'] then some (0, text.drop 3)
  else readOffset? (fun rest => some (rest.dropWhile fun c => c == ':' || isBlank c)) text

def readLoose? (text : String) : Option Instant := do
  let (date, rest) ← readDate? true text.toList
  let rest ← readTimeMark? rest
  let (hour, rest) ← takeDigitsUpTo? 2 (trimStart rest)
  let rest ← readMark? true ':' rest
  let (minute, rest) ← takeDigitsUpTo? 2 (trimStart rest)
  let rest ← readMark? true ':' rest
  let (second, rest) ← takeDigitsUpTo? 2 (trimStart rest)
  let (fraction, rest) ← readOptionalFraction? rest
  let (offset, rest) ← readLooseOffset? (trimStart rest)
  guard (blank rest)
  let (second, nano) ← timeOfDay? hour minute second fraction
  ofLocal? date second nano offset

/-- RFC 3339, or a date on its own, which means its midnight. -/
def readGiven? (text : String) : Option Instant :=
  match readStrict? text with
  | some instant => some instant
  | none => (Date.read? text).map midnight

end Instant

end IssueQuery
