import IssueQuery.Time.Date

/-! Moments in UTC, to the nanosecond. A nanosecond count of a thousand million or more comes after its second and
before the next one. A leap second is such a count after the second :59, but any second can have one. -/

namespace IssueQuery

structure Instant where
  date : Date
  /-- The second of the day. -/
  second : Nat
  nano : Nat
  second_lt : second < 86400
  nano_lt : nano < 2000000000
  deriving DecidableEq

namespace Instant

@[ext] theorem ext {a b : Instant} (date : a.date = b.date) (second : a.second = b.second)
    (nano : a.nano = b.nano) : a = b := by
  cases a
  cases b
  simp_all

def ofParts? (date : Date) (second nano : Nat) : Option Instant :=
  if valid : second < 86400 ∧ nano < 2000000000 then some ⟨date, second, nano, valid.1, valid.2⟩ else none

theorem ofParts?_parts (instant : Instant) :
    ofParts? instant.date instant.second instant.nano = some instant := by
  rw [ofParts?, dif_pos ⟨instant.second_lt, instant.nano_lt⟩]

def midnight (date : Date) : Instant :=
  ⟨date, 0, 0, by decide, by decide⟩

def ofLocal? (date : Date) (second nano : Nat) (offset : Int) : Option Instant := do
  let utc : Int := second - 60 * offset
  if utc < 0 then ofParts? (← date.previous?) (utc + 86400).toNat nano
  else if utc < 86400 then ofParts? date utc.toNat nano
  else ofParts? (← date.next?) (utc - 86400).toNat nano

def compare (a b : Instant) : Ordering :=
  (a.date.compare b.date).then ((Ord.compare a.second b.second).then (Ord.compare a.nano b.nano))

end Instant

end IssueQuery
