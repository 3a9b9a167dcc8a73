import IssueQuery.Text.Digits
import IssueQuery.Time.Date

/-! Dates and times as TOML writes them. -/

namespace IssueQuery.Toml

open Text

def afterDate? (written : List Char) : Option (List Char) := do
  let (year, rest) ← takeDigits? 4 written
  let rest ← dropChar? '-' rest
  let (month, rest) ← takeDigits? 2 rest
  let rest ← dropChar? '-' rest
  let (day, rest) ← takeDigits? 2 rest
  let _ ← Date.ofParts? year month day
  return rest

def afterMinutes? (hours : Nat) (written : List Char) : Option (List Char) := do
  let (hour, rest) ← takeDigits? 2 written
  let rest ← dropChar? ':' rest
  let (minute, rest) ← takeDigits? 2 rest
  if hour ≤ hours ∧ minute ≤ 59 then some rest else none

def afterFraction? : List Char → Option (List Char)
  | '.' :: rest => (takeDigitsUpTo? rest.length rest).map Prod.snd
  | rest => some rest

def afterTime? (written : List Char) : Option (List Char) := do
  match ← afterMinutes? 23 written with
  | ':' :: rest =>
    let (second, rest) ← takeDigits? 2 rest
    if second ≤ 60 then afterFraction? rest else none
  | rest => some rest

def isOffset : List Char → Bool
  | ['Z'] | ['z'] => true
  | '+' :: rest => afterMinutes? 24 rest == some []
  | '-' :: rest => afterMinutes? 24 rest == some []
  | _ => false

def isMoment (written : List Char) : Bool :=
  match afterDate? written with
  | none => afterTime? written == some []
  | some [] => true
  | some (mark :: rest) =>
    (mark == 'T' || mark == 't' || mark == ' ') &&
      match afterTime? rest with
      | none => false
      | some rest => rest.isEmpty || isOffset rest

end IssueQuery.Toml
