import IssueQuery.Time.Reader
import IssueQuery.Time.Written
import Mathlib.Algebra.Group.Nat.Defs
import Mathlib.Data.List.Basic

/-!
Stored times and the strict reader. A time is read back exactly if its year has four digits; any other year is
written with a sign, which the reader refuses. What is read is the moment that the clock shows: a nanosecond count
of a thousand million or more is read back as one only in a leap second, at the end of its minute.
-/

namespace IssueQuery
open Text

namespace Text

theorem digitChar_table : ∀ d : Fin 10, (Char.ofNat (48 + d)).isDigit = true ∧ (Char.ofNat (48 + d)).toNat = 48 + d := by
  decide

theorem isDigit_digitChar (n : Nat) : (digitChar n).isDigit = true :=
  (digitChar_table ⟨n % 10, Nat.mod_lt n (by decide)⟩).1

theorem digitValue_digitChar (n : Nat) : digitValue (digitChar n) = n % 10 := by
  have code := (digitChar_table ⟨n % 10, Nat.mod_lt n (by decide)⟩).2
  rw [digitValue, digitChar, code, Nat.add_sub_cancel_left]

theorem length_fixedDigits (width n : Nat) : (fixedDigits width n).length = width := by
  induction width generalizing n with
  | zero => rfl
  | succ width ih => rw [fixedDigits, List.length_append, ih, List.length_singleton]

theorem isDigit_of_fixedDigits {width n : Nat} {c : Char} (member : c ∈ fixedDigits width n) :
    c.isDigit = true := by
  induction width generalizing n with
  | zero => cases member
  | succ width ih =>
    rcases List.mem_append.1 member with member | member
    · exact ih member
    · rw [List.mem_singleton.1 member]
      exact isDigit_digitChar n

theorem digitsValue_fixedDigits (width n : Nat) : digitsValue (fixedDigits width n) = n % 10 ^ width := by
  induction width generalizing n with
  | zero => exact (Nat.mod_one n).symm
  | succ width ih =>
    have front := ih (n / 10)
    rw [digitsValue, digitsValueFrom] at front
    rw [fixedDigits, digitsValue, digitsValueFrom, List.foldl_append, front, List.foldl_cons, List.foldl_nil,
      digitValue_digitChar, Nat.pow_succ', Nat.mod_mul, Nat.add_comm]

theorem takeDigits?_fixedDigits {width n : Nat} (small : n < 10 ^ width) (rest : List Char) :
    takeDigits? width (fixedDigits width n ++ rest) = some (n, rest) := by
  have length := length_fixedDigits width n
  have taken : (fixedDigits width n ++ rest).take width = fixedDigits width n := List.take_left' length
  have dropped : (fixedDigits width n ++ rest).drop width = rest := List.drop_left' length
  have digits : (fixedDigits width n).all Char.isDigit = true :=
    List.all_eq_true.2 fun _ member => isDigit_of_fixedDigits member
  rw [takeDigits?, taken, dropped, digitsValue_fixedDigits, Nat.mod_eq_of_lt small]
  simp only [length, digits, and_self, if_true]

theorem dropChar?_cons (c : Char) (rest : List Char) : dropChar? c (c :: rest) = some rest :=
  if_pos rfl

theorem readFraction?_fixedDigits {width n : Nat} (some : 0 < width) (most : width ≤ 9) (small : n < 10 ^ width)
    {rest : List Char} (ends : ∀ c ∈ rest.head?, c.isDigit = false) :
    readFraction? (fixedDigits width n ++ rest) = .some (n * 10 ^ (9 - width), rest) := by
  have length := length_fixedDigits width n
  have digits : (fixedDigits width n ++ rest).takeWhile Char.isDigit = fixedDigits width n := by
    rw [List.takeWhile_append_of_pos fun _ member => isDigit_of_fixedDigits member]
    cases rest with
    | nil => simp
    | cons c rest => simp [ends c rfl]
  have kept : (fixedDigits width n).take 9 = fixedDigits width n := List.take_of_length_le (by omega)
  have nonempty : fixedDigits width n ≠ [] := by
    rw [← List.length_pos_iff, length]
    exact some
  have dropped : (fixedDigits width n ++ rest).drop width = rest := List.drop_left' length
  rw [readFraction?]
  simp only [digits, nonempty, if_false, kept, length, dropped, digitsValue_fixedDigits, Nat.mod_eq_of_lt small]
  rfl

end Text

theorem readOptionalFraction?_written {nano : Nat} (small : nano < 1000000000) {rest : List Char}
    (ends : ∀ c ∈ rest.head?, c.isDigit = false ∧ c ≠ '.') :
    readOptionalFraction? (writtenFraction nano ++ rest) = some (nano, rest) := by
  have stop : ∀ c ∈ rest.head?, c.isDigit = false := fun c head => (ends c head).1
  unfold writtenFraction
  split
  · next zero =>
    rw [zero, List.nil_append]
    cases rest with
    | nil => rfl
    | cons c rest =>
      have noPoint := (ends c rfl).2
      unfold readOptionalFraction?
      split
      · next same => exact absurd (List.cons.inj same).1 noPoint
      · rfl
  · split
    · next whole =>
      rw [List.cons_append, readOptionalFraction?, readFraction?_fixedDigits (by decide) (by decide) (by omega) stop]
      congr 2
      omega
    · split
      · next whole =>
        rw [List.cons_append, readOptionalFraction?,
          readFraction?_fixedDigits (by decide) (by decide) (by omega) stop]
        congr 2
        omega
      · rw [List.cons_append, readOptionalFraction?, readFraction?_fixedDigits (by decide) (by decide) small stop]
        congr 2
        omega

def Instant.HasPlainYear (instant : Instant) : Prop :=
  0 ≤ instant.date.year ∧ instant.date.year ≤ 9999

instance (instant : Instant) : Decidable instant.HasPlainYear :=
  inferInstanceAs (Decidable (_ ∧ _))

namespace Instant

/-- A nanosecond count of a thousand million or more comes only after the last second of a minute. -/
def HasPlainSecond (instant : Instant) : Prop :=
  1000000000 ≤ instant.nano → instant.second % 60 = 59

instance (instant : Instant) : Decidable instant.HasPlainSecond :=
  inferInstanceAs (Decidable (_ → _))

theorem second_succ_lt {instant : Instant} (late : ¬instant.HasPlainSecond) : instant.second + 1 < 86400 := by
  have second := instant.second_lt
  have inside : ¬instant.second % 60 = 59 := fun last => late fun _ => last
  omega

/-- The moment that the clock shows: it is in the next second where the nanosecond count is too great for its own
and the minute goes on. -/
def settled (instant : Instant) : Instant :=
  if late : instant.HasPlainSecond then instant
  else
    ⟨instant.date, instant.second + 1, instant.nano - 1000000000, second_succ_lt late,
      Nat.lt_of_le_of_lt (Nat.sub_le _ _) instant.nano_lt⟩

theorem settled_of_plain {instant : Instant} (plain : instant.HasPlainSecond) : instant.settled = instant :=
  dif_pos plain

theorem settled_of_late {instant : Instant} (late : ¬instant.HasPlainSecond) :
    instant.settled.second = instant.second + 1 ∧ instant.settled.nano = instant.nano - 1000000000 := by
  rw [settled, dif_neg late]
  exact ⟨rfl, rfl⟩

theorem late_iff {instant : Instant} :
    ¬instant.HasPlainSecond ↔ 1000000000 ≤ instant.nano ∧ instant.second % 60 ≠ 59 :=
  Classical.not_imp

@[simp] theorem settled_date (instant : Instant) : instant.settled.date = instant.date := by
  unfold settled
  split <;> rfl

theorem hasPlainYear_settled {instant : Instant} : instant.settled.HasPlainYear ↔ instant.HasPlainYear := by
  rw [HasPlainYear, HasPlainYear, settled_date]

theorem hasPlainSecond_settled (instant : Instant) : instant.settled.HasPlainSecond := by
  by_cases plain : instant.HasPlainSecond
  · rwa [settled_of_plain plain]
  · have most := instant.nano_lt
    have nano := (settled_of_late plain).2
    intro late
    omega

theorem settled_eq_self {instant : Instant} : instant.settled = instant ↔ instant.HasPlainSecond :=
  ⟨fun same => same ▸ hasPlainSecond_settled instant, settled_of_plain⟩

/-- The clock shows the settled moment. -/
theorem writtenTime_settled (instant : Instant) : instant.settled.writtenTime = instant.writtenTime := by
  by_cases plain : instant.HasPlainSecond
  · rw [settled_of_plain plain]
  · obtain ⟨second, nano⟩ := settled_of_late plain
    obtain ⟨late, inside⟩ := late_iff.1 plain
    have most := instant.nano_lt
    have hour : (instant.second + 1) / 3600 = instant.second / 3600 := by omega
    have minute : (instant.second + 1) / 60 % 60 = instant.second / 60 % 60 := by omega
    have clock : (instant.second + 1) % 60 + (instant.nano - 1000000000) / 1000000000 =
        instant.second % 60 + instant.nano / 1000000000 := by omega
    have fraction : (instant.nano - 1000000000) % 1000000000 = instant.nano % 1000000000 := by omega
    simp only [writtenTime, clockSecond, second, nano, hour, minute, clock, fraction]

theorem written_settled (zone : List Char) (instant : Instant) : instant.settled.written zone = instant.written zone := by
  rw [written, written, settled_date, writtenTime_settled]

@[simp] theorem stored_settled (instant : Instant) : instant.settled.stored = instant.stored := by
  rw [stored, stored, written_settled]

@[simp] theorem json_settled (instant : Instant) : instant.settled.json = instant.json := by
  rw [json, json, written_settled]

end Instant

/-- What is read from a clock is the settled time of day, a leap second from second 60. -/
theorem timeOfDay?_clock (instant : Instant) :
    timeOfDay? (instant.second / 3600) (instant.second / 60 % 60) instant.clockSecond
      (instant.nano % 1000000000) = some (instant.settled.second, instant.settled.nano) := by
  have second := instant.second_lt
  have most := instant.nano_lt
  unfold timeOfDay? Instant.clockSecond
  by_cases plain : instant.HasPlainSecond
  · rw [Instant.settled_of_plain plain]
    by_cases leap : 1000000000 ≤ instant.nano
    · have last := plain leap
      rw [if_neg (by omega), if_pos (by omega), Option.some.injEq, Prod.mk.injEq]
      omega
    · rw [if_pos (by omega), Option.some.injEq, Prod.mk.injEq]
      omega
  · obtain ⟨next, nano⟩ := Instant.settled_of_late plain
    obtain ⟨late, inside⟩ := Instant.late_iff.1 plain
    rw [if_pos (by omega), next, nano, Option.some.injEq, Prod.mk.injEq]
    omega

theorem ofLocal?_utc (instant : Instant) :
    Instant.ofLocal? instant.date instant.second instant.nano 0 = some instant := by
  have second := instant.second_lt
  unfold Instant.ofLocal?
  simp only [Int.mul_zero, Int.sub_zero]
  rw [if_neg (by omega), if_pos (by omega), Int.toNat_natCast, Instant.ofParts?_parts]

/-- The clock of a day in UTC is read as the settled moment. -/
theorem ofLocal?_clock (instant : Instant) :
    ((timeOfDay? (instant.second / 3600) (instant.second / 60 % 60) instant.clockSecond
      (instant.nano % 1000000000)).bind fun clock => Instant.ofLocal? instant.date clock.1 clock.2 0) =
        some instant.settled := by
  rw [timeOfDay?_clock, Option.bind_some, ← Instant.settled_date, ofLocal?_utc]

theorem bind_found {α β : Type} {first : Option α} {a : α} (found : first = some a) (next : α → Option β) :
    (first >>= next) = next a := by
  rw [found]
  rfl

theorem Date.day_le_31 (date : Date) : date.day ≤ 31 := by
  have within := date.day_le
  unfold daysInMonth at within
  split at within <;> first | omega | (split at within <;> omega)

theorem Instant.clockSecond_lt (instant : Instant) : instant.clockSecond < 100 := by
  have nano := instant.nano_lt
  unfold clockSecond
  omega

theorem Instant.written_plain {instant : Instant} (plain : instant.HasPlainYear) (zone : List Char) :
    instant.written zone = fixedDigits 4 instant.date.year.toNat ++ '-' ::
      (fixedDigits 2 instant.date.month ++ '-' :: (fixedDigits 2 instant.date.day ++ 'T' ::
        (fixedDigits 2 (instant.second / 3600) ++ ':' :: (fixedDigits 2 (instant.second / 60 % 60) ++ ':' ::
          (fixedDigits 2 instant.clockSecond ++ (writtenFraction (instant.nano % 1000000000) ++ zone)))))) := by
  have year : writtenYear instant.date.year = fixedDigits 4 instant.date.year.toNat := if_pos plain
  simp only [written, Date.written, writtenTime, year, List.append_assoc, List.cons_append]

theorem readStrict?_written {instant : Instant} (year : instant.HasPlainYear) {zone : List Char}
    (ends : ∀ c ∈ zone.head?, c.isDigit = false ∧ c ≠ '.') (utc : readOffset? (dropChar? ':') zone = some (0, [])) :
    Instant.readStrict? (String.ofList (instant.written zone)) = some instant.settled := by
  have second := instant.second_lt
  have high := year.2
  have month := instant.date.month_le
  have day := instant.date.day_le_31
  have clock := instant.clockSecond_lt
  have date : Date.ofParts? (instant.date.year.toNat : Int) instant.date.month instant.date.day =
      some instant.date := by
    rw [Int.toNat_of_nonneg year.1, Date.ofParts?_parts]
  have fraction := readOptionalFraction?_written (Nat.mod_lt instant.nano (by decide)) ends
  rw [Instant.readStrict?, String.toList_ofList, Instant.written_plain year]
  -- each reader takes what the writer put there, from the year to the zone
  refine (bind_found (takeDigits?_fixedDigits (by omega) _) _).trans ?_
  refine (bind_found (dropChar?_cons _ _) _).trans ?_
  refine (bind_found (takeDigits?_fixedDigits (by omega) _) _).trans ?_
  refine (bind_found (dropChar?_cons _ _) _).trans ?_
  refine (bind_found (takeDigits?_fixedDigits (by omega) _) _).trans ?_
  refine (bind_found rfl _).trans ?_
  refine (bind_found (takeDigits?_fixedDigits (by omega) _) _).trans ?_
  refine (bind_found (dropChar?_cons _ _) _).trans ?_
  refine (bind_found (takeDigits?_fixedDigits (by omega) _) _).trans ?_
  refine (bind_found (dropChar?_cons _ _) _).trans ?_
  refine (bind_found (takeDigits?_fixedDigits (by omega) _) _).trans ?_
  refine (bind_found fraction _).trans ?_
  refine (bind_found utc _).trans ?_
  refine (bind_found rfl _).trans ?_
  refine (bind_found date _).trans ?_
  exact ofLocal?_clock instant

theorem readStrict?_stored {instant : Instant} (year : instant.HasPlainYear) :
    Instant.readStrict? instant.stored = some instant.settled :=
  readStrict?_written year (by intro c head; cases head; decide) (by decide)

theorem readStrict?_signed {instant : Instant} (outside : ¬instant.HasPlainYear)
    (zone : List Char) : Instant.readStrict? (String.ofList (instant.written zone)) = none := by
  obtain ⟨sign, rest, signed, text⟩ : ∃ sign rest, Char.isDigit sign = false ∧ instant.written zone = sign :: rest := by
    have year : ¬(0 ≤ instant.date.year ∧ instant.date.year ≤ 9999) := outside
    simp only [Instant.written, Date.written, writtenYear, if_neg year, List.cons_append]
    refine ⟨_, _, ?_, rfl⟩
    split <;> decide
  have refused : takeDigits? 4 (sign :: rest) = none := by
    simp [takeDigits?, signed]
  rw [Instant.readStrict?, String.toList_ofList, text, refused]
  rfl

end IssueQuery
