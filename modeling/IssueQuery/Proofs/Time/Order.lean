import IssueQuery.Proofs.Text.Order
import IssueQuery.Proofs.Time.Stored

/-!
The order of written times. Texts that a store keeps compare as the moments that their clocks show; against the form
that JSON has they do not where one moment's digits start with the other's.
-/

namespace IssueQuery
open Std

namespace Text

theorem toNat_digitChar (n : Nat) : (digitChar n).toNat = 48 + n % 10 :=
  (digitChar_table ⟨n % 10, Nat.mod_lt n (by decide)⟩).2

theorem compare_digitChar (m n : Nat) :
    Ord.compare (digitChar m) (digitChar n) = Ord.compare (m % 10) (n % 10) := by
  rw [compare_char, toNat_digitChar, toNat_digitChar]
  apply ordering_eq
  · rw [Nat.compare_eq_lt, Nat.compare_eq_lt, Nat.add_lt_add_iff_left]
  · rw [Nat.compare_eq_eq, Nat.compare_eq_eq, Nat.add_left_cancel_iff]

theorem fixedDigits_append (front back n : Nat) :
    fixedDigits (front + back) n = fixedDigits front (n / 10 ^ back) ++ fixedDigits back n := by
  induction back generalizing n with
  | zero => rw [Nat.add_zero, Nat.pow_zero, Nat.div_one, fixedDigits, List.append_nil]
  | succ back ih =>
    rw [← Nat.add_assoc, fixedDigits, ih, fixedDigits, List.append_assoc, Nat.div_div_eq_div_mul, Nat.pow_succ']

theorem fixedDigits_mod (width n : Nat) : fixedDigits width (n % 10 ^ width) = fixedDigits width n := by
  induction width generalizing n with
  | zero => rfl
  | succ width ih =>
    have last : digitChar (n % 10 ^ (width + 1)) = digitChar n := by
      rw [digitChar, digitChar, Nat.mod_mod_of_dvd n ⟨10 ^ width, Nat.pow_succ'⟩]
    rw [fixedDigits, fixedDigits, last, Nat.pow_succ', Nat.mod_mul_right_div_self, ih]

theorem compare_div_mod (base m n : Nat) :
    (Ord.compare (m / base) (n / base)).then (Ord.compare (m % base) (n % base)) = Ord.compare m n := by
  have left := Nat.div_add_mod m base
  have right := Nat.div_add_mod n base
  rcases Nat.lt_trichotomy (m / base) (n / base) with less | same | more
  · rw [Nat.compare_eq_lt.2 less, Nat.compare_eq_lt.2 (Nat.lt_of_div_lt_div less), Ordering.lt_then]
  · rw [same] at left ⊢
    rw [Nat.compare_eq_eq.2 rfl, Ordering.eq_then]
    apply ordering_eq
    · rw [Nat.compare_eq_lt, Nat.compare_eq_lt]
      omega
    · rw [Nat.compare_eq_eq, Nat.compare_eq_eq]
      omega
  · rw [Nat.compare_eq_gt.2 more, Nat.compare_eq_gt.2 (Nat.lt_of_div_lt_div more), Ordering.gt_then]

theorem compareLex_fixedDigits {width m n : Nat} (small : m < 10 ^ width) (less : n < 10 ^ width) :
    List.compareLex Ord.compare (fixedDigits width m) (fixedDigits width n) = Ord.compare m n := by
  induction width generalizing m n with
  | zero =>
    rw [Nat.lt_one_iff.1 small, Nat.lt_one_iff.1 less]
    rfl
  | succ width ih =>
    have same := (length_fixedDigits width (m / 10)).trans (length_fixedDigits width (n / 10)).symm
    rw [Nat.pow_succ'] at small less
    rw [fixedDigits, fixedDigits, compareLex_append same, ih (Nat.div_lt_of_lt_mul small) (Nat.div_lt_of_lt_mul less),
      List.compareLex_cons_cons, compare_digitChar, List.compareLex_nil_nil, Ordering.then_eq, compare_div_mod]

theorem compareLex_fixedDigits_append {width m n : Nat} (small : m < 10 ^ width) (less : n < 10 ^ width)
    (x y : List Char) :
    List.compareLex Ord.compare (fixedDigits width m ++ x) (fixedDigits width n ++ y) =
      (Ord.compare m n).then (List.compareLex Ord.compare x y) := by
  rw [compareLex_append ((length_fixedDigits width m).trans (length_fixedDigits width n).symm),
    compareLex_fixedDigits small less]

end Text

open Text

theorem compareLex_mark (mark : Char) (x y : List Char) :
    List.compareLex Ord.compare (mark :: x) (mark :: y) = List.compareLex Ord.compare x y :=
  compareLex_append_self [mark] x y

def thousands : Nat → Nat → List Char
  | 0, _ => []
  | groups + 1, n =>
    if n = 0 then [] else fixedDigits 3 (n / 1000 ^ groups) ++ thousands groups (n % 1000 ^ groups)

theorem thousands_zero (groups : Nat) : thousands groups 0 = [] := by
  cases groups <;> rfl

theorem thousands_succ {groups n : Nat} (some : n ≠ 0) :
    thousands (groups + 1) n = fixedDigits 3 (n / 1000 ^ groups) ++ thousands groups (n % 1000 ^ groups) :=
  if_neg some

theorem writtenFraction_thousands (nano : Nat) :
    writtenFraction nano = if nano = 0 then [] else '.' :: thousands 3 nano := by
  unfold writtenFraction
  split
  · rfl
  · next some =>
    have first : thousands 3 nano = fixedDigits 3 (nano / 1000000) ++ thousands 2 (nano % 1000000) :=
      thousands_succ some
    rw [first]
    split
    · next whole => rw [whole, thousands_zero, List.append_nil]
    · next part =>
      have second : thousands 2 (nano % 1000000) =
          fixedDigits 3 (nano / 1000) ++ thousands 1 (nano % 1000) := by
        have digits : nano % 1000000 / 1000 = nano / 1000 % 10 ^ 3 := by omega
        have rest : nano % 1000000 % 1000 = nano % 1000 := by omega
        rw [← fixedDigits_mod 3 (nano / 1000), ← digits, ← rest]
        exact thousands_succ part
      have six : fixedDigits 6 (nano / 1000) = fixedDigits 3 (nano / 1000000) ++ fixedDigits 3 (nano / 1000) := by
        have millis : nano / 1000 / 10 ^ 3 = nano / 1000000 := Nat.div_div_eq_div_mul nano 1000 1000
        rw [fixedDigits_append 3 3, millis]
      rw [second]
      split
      · next whole => rw [whole, thousands_zero, List.append_nil, six]
      · next part =>
        have third : thousands 1 (nano % 1000) = fixedDigits 3 nano := by
          rw [thousands_succ part, ← fixedDigits_mod 3 nano]
          simp [thousands]
        rw [third, fixedDigits_append 6 3, ← List.append_assoc]
        exact congrArg (fun front => '.' :: (front ++ fixedDigits 3 nano)) six

theorem compare_plus_digitChar (n : Nat) : Ord.compare '+' (digitChar n) = .lt := by
  have code : '+'.toNat = 43 := rfl
  rw [compare_char, toNat_digitChar, Nat.compare_eq_lt, code]
  omega

/-- Where one number has ended, more digits make the other one the greater. -/
theorem compareLex_plus_thousands {groups n : Nat} (some : n ≠ 0) (x y : List Char) :
    List.compareLex Ord.compare ('+' :: x) (thousands (groups + 1) n ++ y) = .lt := by
  rw [thousands_succ some]
  exact compareLex_differ (compare_plus_digitChar (n / 1000 ^ groups / 10 / 10)) (by decide) _ _

/-- Rows of groups compare as their numbers, a shorter one through the sign behind it. -/
theorem compareLex_thousands {groups m n : Nat} (small : m < 1000 ^ groups) (less : n < 1000 ^ groups) (x : List Char) :
    List.compareLex Ord.compare (thousands groups m ++ '+' :: x) (thousands groups n ++ '+' :: x) = Ord.compare m n := by
  induction groups generalizing m n with
  | zero =>
    rw [Nat.lt_one_iff.1 small, Nat.lt_one_iff.1 less]
    exact ReflCmp.compare_self
  | succ groups ih =>
    have positive : 0 < 1000 ^ groups := Nat.pow_pos (by decide)
    rw [Nat.pow_succ] at small less
    rcases Nat.eq_zero_or_pos m with rfl | some <;> rcases Nat.eq_zero_or_pos n with rfl | more
    · exact ReflCmp.compare_self
    · rw [thousands_zero, Nat.compare_eq_lt.2 more]
      exact compareLex_plus_thousands (Nat.ne_of_gt more) _ _
    · rw [thousands_zero, Nat.compare_eq_gt.2 some, @OrientedCmp.eq_swap _ (List.compareLex Ord.compare)]
      exact congrArg Ordering.swap (compareLex_plus_thousands (Nat.ne_of_gt some) _ _)
    · rw [thousands_succ (Nat.ne_of_gt some), thousands_succ (Nat.ne_of_gt more), List.append_assoc,
        List.append_assoc, compareLex_fixedDigits_append (Nat.div_lt_of_lt_mul small) (Nat.div_lt_of_lt_mul less),
        ih (Nat.mod_lt m positive) (Nat.mod_lt n positive), compare_div_mod]

theorem compareLex_writtenFraction {m n : Nat} (small : m < 1000000000) (less : n < 1000000000) (x : List Char) :
    List.compareLex Ord.compare (writtenFraction m ++ '+' :: x) (writtenFraction n ++ '+' :: x) = Ord.compare m n := by
  rw [writtenFraction_thousands, writtenFraction_thousands]
  rcases Nat.eq_zero_or_pos m with rfl | some <;> rcases Nat.eq_zero_or_pos n with rfl | more
  · exact ReflCmp.compare_self
  · rw [if_pos rfl, if_neg (Nat.ne_of_gt more), Nat.compare_eq_lt.2 more]
    rfl
  · rw [if_pos rfl, if_neg (Nat.ne_of_gt some), Nat.compare_eq_gt.2 some]
    rfl
  · rw [if_neg (Nat.ne_of_gt some), if_neg (Nat.ne_of_gt more), List.cons_append, List.cons_append,
      compareLex_mark, compareLex_thousands small less]

theorem mem_writtenFraction {nano : Nat} {c : Char} (member : c ∈ writtenFraction nano) :
    c = '.' ∨ c.isDigit = true := by
  have digits : ∀ {width n : Nat}, c ∈ '.' :: fixedDigits width n → c = '.' ∨ c.isDigit = true :=
    fun member => (List.mem_cons.1 member).imp_right isDigit_of_fixedDigits
  unfold writtenFraction at member
  split at member
  · cases member
  · split at member
    · exact digits member
    · split at member <;> exact digits member

theorem Instant.compare_clock {t u : Instant} (first : t.HasPlainSecond) (second : u.HasPlainSecond) :
    (Ord.compare (t.second / 3600) (u.second / 3600)).then
        ((Ord.compare (t.second / 60 % 60) (u.second / 60 % 60)).then
          ((Ord.compare t.clockSecond u.clockSecond).then
            (Ord.compare (t.nano % 1000000000) (u.nano % 1000000000)))) =
      (Ord.compare t.second u.second).then (Ord.compare t.nano u.nano) := by
  have low := t.nano_lt
  have high := u.nano_lt
  unfold HasPlainSecond at first second
  unfold clockSecond
  generalize t.second = a, t.nano = b, u.second = c, u.nano = d at *
  apply ordering_eq
  · simp only [Ordering.then_eq_lt, Nat.compare_eq_lt, Nat.compare_eq_eq]
    omega
  · simp only [Ordering.then_eq_eq, Nat.compare_eq_eq]
    omega

theorem Date.compare_plain {a b : Date} (first : 0 ≤ a.year) (second : 0 ≤ b.year) :
    a.compare b = (Ord.compare a.year.toNat b.year.toNat).then
      ((Ord.compare a.month b.month).then (Ord.compare a.day b.day)) := by
  have year : Ord.compare a.year b.year = Ord.compare a.year.toNat b.year.toNat := by
    apply ordering_eq
    · rw [Nat.compare_eq_lt, Int.compare_eq_lt]
      omega
    · rw [Nat.compare_eq_eq, Std.compare_eq_iff_eq]
      omega
  rw [compare, year]

/-- Times with four digits in their years and leap seconds at the ends of minutes compare as they are written. -/
theorem Instant.compareLex_written_of_plain {t u : Instant} (plain : t.HasPlainYear) (other : u.HasPlainYear)
    (first : t.HasPlainSecond) (second : u.HasPlainSecond) (x : List Char) :
    List.compareLex Ord.compare (t.written ('+' :: x)) (u.written ('+' :: x)) = t.compare u := by
  have bounds : ∀ {t : Instant}, t.HasPlainYear → t.date.year.toNat < 10 ^ 4 ∧ t.date.month < 10 ^ 2 ∧
      t.date.day < 10 ^ 2 ∧ t.second / 3600 < 10 ^ 2 ∧ t.second / 60 % 60 < 10 ^ 2 := by
    intro t plain
    have year := plain.2
    have month := t.date.month_le
    have day := t.date.day_le_31
    have second := t.second_lt
    omega
  obtain ⟨year, month, day, hour, minute⟩ := bounds plain
  obtain ⟨year', month', day', hour', minute'⟩ := bounds other
  have fraction := Nat.mod_lt t.nano (by decide : 0 < 1000000000)
  have fraction' := Nat.mod_lt u.nano (by decide : 0 < 1000000000)
  rw [written_plain plain, written_plain other, compareLex_fixedDigits_append year year', compareLex_mark,
    compareLex_fixedDigits_append month month', compareLex_mark, compareLex_fixedDigits_append day day',
    compareLex_mark, compareLex_fixedDigits_append hour hour', compareLex_mark,
    compareLex_fixedDigits_append minute minute', compareLex_mark,
    compareLex_fixedDigits_append t.clockSecond_lt u.clockSecond_lt, compareLex_writtenFraction fraction fraction',
    compare_clock first second, compare, Date.compare_plain plain.1 other.1, Ordering.then_assoc, Ordering.then_assoc]

namespace Instant

variable {t u : Instant}

theorem compareLex_written (plain : t.HasPlainYear) (other : u.HasPlainYear) (x : List Char) :
    List.compareLex Ord.compare (t.written ('+' :: x)) (u.written ('+' :: x)) = t.settled.compare u.settled := by
  rw [← written_settled, ← written_settled _ u]
  exact compareLex_written_of_plain (hasPlainYear_settled.2 plain) (hasPlainYear_settled.2 other)
    (hasPlainSecond_settled t) (hasPlainSecond_settled u) x

theorem written_append (t : Instant) (zone : List Char) : t.written zone = t.written [] ++ zone := by
  simp [written]

theorem toList_stored (t : Instant) : t.stored.toList = t.written [] ++ '+' :: ['0', '0', ':', '0', '0'] :=
  String.toList_ofList.trans (t.written_append _)

theorem toList_json (t : Instant) : t.json.toList = t.written [] ++ ['Z'] :=
  String.toList_ofList.trans (t.written_append _)

/-- Stored times compare as the moments that their clocks show. -/
theorem compare_stored (plain : t.HasPlainYear) (other : u.HasPlainYear) :
    Ord.compare t.stored u.stored = t.settled.compare u.settled := by
  rw [compare_toList, toList_stored, toList_stored, ← written_append, ← written_append]
  exact compareLex_written plain other _

/-- The digits and marks of a written time stand between the two signs that can follow them. -/
theorem mem_written (plain : t.HasPlainYear) {c : Char} (member : c ∈ t.written []) :
    Ord.compare '+' c = .lt ∧ Ord.compare c 'Z' = .lt := by
  have parts : c ∈ ['-', 'T', ':', '.'] ∨ c.isDigit = true := by
    rw [written_plain plain] at member
    simp only [List.mem_append, List.mem_cons, List.append_nil] at member
    rcases member with digit | mark | digit | mark | digit | mark | digit | mark | digit | mark | digit | fraction
    case inr.inr.inr.inr.inr.inr.inr.inr.inr.inr.inr =>
      exact (mem_writtenFraction fraction).imp_left fun point => by simp [point]
    all_goals first
      | exact .inr (isDigit_of_fixedDigits digit)
      | exact .inl (by simp [mark])
  rcases parts with mark | digit
  · simp only [List.mem_cons, List.not_mem_nil, or_false] at mark
    rcases mark with rfl | rfl | rfl | rfl <;> decide
  · rw [compare_char, compare_char, Nat.compare_eq_lt, Nat.compare_eq_lt]
    have bounds := Char.isDigit_iff_toNat.1 digit
    exact ⟨Nat.lt_of_lt_of_le (by decide) bounds.1, Nat.lt_of_le_of_lt bounds.2 (by decide)⟩

/-- The order of a stored time beside a moment in the form of JSON. If the time starts with the moment's digits it
counts as the lesser one, since `+` is lesser than `Z`, and so is a digit or a point. -/
def besideJson (t u : Instant) : Ordering :=
  if u.written [] <+: t.written [] then .lt else t.settled.compare u.settled

theorem compare_ne_lt (plain : t.HasPlainYear) (other : u.HasPlainYear) (starts : u.written [] <+: t.written []) :
    t.settled.compare u.settled ≠ .lt := by
  have ordered := compareLex_written plain other []
  obtain ⟨rest, shape⟩ := starts
  rw [written_append, written_append u, ← shape, List.append_assoc, compareLex_append_self] at ordered
  rw [← ordered]
  cases rest with
  | nil => decide
  | cons c rest =>
    have inside : c ∈ t.written [] := shape ▸ List.mem_append_right _ List.mem_cons_self
    have after : Ord.compare c '+' = .gt := by
      rw [OrientedOrd.eq_swap, (mem_written plain inside).1]
      rfl
    rw [List.cons_append, compareLex_differ after (by decide)]
    decide

/-- The order is that of the moments unless the stored time starts with the moment's digits. -/
theorem besideJson_eq_compare (plain : t.HasPlainYear) (other : u.HasPlainYear) :
    t.besideJson u = t.settled.compare u.settled ↔ ¬u.written [] <+: t.written [] := by
  unfold besideJson
  split
  · next starts =>
    exact ⟨fun same => absurd same.symm (compare_ne_lt plain other starts), fun parts => absurd starts parts⟩
  · next parts => exact ⟨fun _ => parts, fun _ => rfl⟩

theorem compare_json (plain : t.HasPlainYear) (other : u.HasPlainYear) :
    Ord.compare t.stored u.json = t.besideJson u := by
  have ordered := compareLex_written plain other []
  rw [written_append, written_append u] at ordered
  rw [compare_toList, toList_stored, toList_json, besideJson]
  split
  · next starts =>
    obtain ⟨rest, shape⟩ := starts
    rw [← shape, List.append_assoc, compareLex_append_self]
    cases rest with
    | nil => rfl
    | cons c rest =>
      have inside : c ∈ t.written [] := shape ▸ List.mem_append_right _ List.mem_cons_self
      exact compareLex_differ (mem_written plain inside).2 (by decide) _ _
  · next parts =>
    by_cases starts : t.written [] <+: u.written []
    · obtain ⟨rest, shape⟩ := starts
      cases rest with
      | nil =>
        rw [List.append_nil] at shape
        exact absurd (shape ▸ List.prefix_rfl) parts
      | cons c rest =>
        have inside : c ∈ u.written [] := shape ▸ List.mem_append_right _ List.mem_cons_self
        have less : ∀ x y, List.compareLex Ord.compare (t.written [] ++ '+' :: x) (u.written [] ++ y) = .lt := by
          intro x y
          rw [← shape, List.append_assoc, compareLex_append_self]
          exact compareLex_differ (mem_written other inside).1 (by decide) _ _
        rw [← ordered, less]
        exact (less _ _).symm
    · rw [← ordered]
      exact compareLex_diverge starts parts _ _ _ _

end Instant

end IssueQuery
