import Mathlib.Algebra.Group.Nat.Defs

/-!
The order of texts: comparing character by character is comparing the bytes of UTF-8.
-/

namespace IssueQuery.Text
open Std

def bytes (text : String) : List UInt8 :=
  text.toByteArray.data.toList

theorem bytes_eq (text : String) : bytes text = text.toList.flatMap String.utf8EncodeChar := by
  rw [bytes, ← String.utf8Encode_toList, List.utf8Encode, List.toList_data_toByteArray]

theorem ordering_eq {a b : Ordering} (lt : a = .lt ↔ b = .lt) (eq : a = .eq ↔ b = .eq) : a = b := by
  cases a <;> cases b <;> simp_all

theorem compare_byte (a b : UInt8) : Ord.compare a b = Ord.compare a.toNat b.toNat := by
  apply ordering_eq
  · rw [Nat.compare_eq_lt, ← UInt8.lt_iff_toNat_lt]
    exact compareOfLessAndEq_eq_lt
  · rw [Nat.compare_eq_eq, Std.compare_eq_iff_eq, UInt8.toNat_inj]

theorem compare_char (a b : Char) : Ord.compare a b = Ord.compare a.toNat b.toNat := by
  apply ordering_eq
  · rw [Nat.compare_eq_lt]
    exact compareOfLessAndEq_eq_lt
  · rw [Nat.compare_eq_eq, Std.compare_eq_iff_eq, Char.toNat_inj]

theorem compareLex_eq_lt {α : Type} [Ord α] [LT α] [LawfulEqOrd α] (less : ∀ a b : α, Ord.compare a b = .lt ↔ a < b)
    (l m : List α) : List.compareLex Ord.compare l m = .lt ↔ l < m := by
  induction l generalizing m with
  | nil => cases m <;> simp [List.compareLex_nil_nil, List.compareLex_nil_cons]
  | cons c l ih =>
    cases m with
    | nil => simp [List.compareLex_cons_nil]
    | cons d m =>
      rw [List.compareLex_cons_cons, Ordering.then_eq_lt, List.cons_lt_cons_iff, ih, Std.compare_eq_iff_eq, less]

theorem compare_toList (a b : String) : Ord.compare a b = List.compareLex Ord.compare a.toList b.toList := by
  apply ordering_eq
  · rw [compareLex_eq_lt fun _ _ => compareOfLessAndEq_eq_lt]
    exact compareOfLessAndEq_eq_lt
  · rw [Std.compare_eq_iff_eq, LawfulEqCmp.compare_eq_iff_eq, String.toList_inj]

theorem compareLex_append {α : Type} {compare : α → α → Ordering} {a b : List α} (same : a.length = b.length)
    (x y : List α) :
    List.compareLex compare (a ++ x) (b ++ y) = (List.compareLex compare a b).then (List.compareLex compare x y) := by
  induction a generalizing b with
  | nil =>
    rw [List.eq_nil_of_length_eq_zero same.symm]
    rfl
  | cons c a ih =>
    cases b with
    | nil => cases same
    | cons d b =>
      rw [List.cons_append, List.cons_append, List.compareLex_cons_cons, List.compareLex_cons_cons,
        ih (Nat.succ.inj same), Ordering.then_assoc]

/-- What both texts start with decides nothing. -/
theorem compareLex_append_self {α : Type} {compare : α → α → Ordering} [ReflCmp compare] (a x y : List α) :
    List.compareLex compare (a ++ x) (a ++ y) = List.compareLex compare x y := by
  rw [compareLex_append rfl, @ReflCmp.compare_self _ (List.compareLex compare), Ordering.eq_then]

theorem compareLex_differ {α : Type} {compare : α → α → Ordering} {a b : α} {order : Ordering}
    (first : compare a b = order) (different : order ≠ .eq) (x y : List α) :
    List.compareLex compare (a :: x) (b :: y) = order := by
  rw [List.compareLex_cons_cons, first]
  cases order with
  | eq => exact absurd rfl different
  | _ => rfl

/-- What stands behind two texts counts only where one of them starts with the other. -/
theorem compareLex_diverge {α : Type} {compare : α → α → Ordering} [LawfulEqCmp compare] {a b : List α}
    (left : ¬a <+: b) (right : ¬b <+: a) (x y x' y' : List α) :
    List.compareLex compare (a ++ x) (b ++ y) = List.compareLex compare (a ++ x') (b ++ y') := by
  induction a generalizing b with
  | nil => exact absurd List.nil_prefix left
  | cons c a ih =>
    cases b with
    | nil => exact absurd List.nil_prefix right
    | cons d b =>
      by_cases same : compare c d = .eq
      · cases LawfulEqCmp.eq_of_compare same
        rw [List.prefix_cons_inj] at left right
        simp only [List.cons_append, List.compareLex_cons_cons, ih left right]
      · exact (compareLex_differ rfl same _ _).trans (compareLex_differ rfl same _ _).symm

theorem utf8_cases (c : Char) :
    (c.toNat ≤ 127 ∧ String.utf8EncodeChar c = [UInt8.ofNat c.toNat]) ∨
    (127 < c.toNat ∧ c.toNat ≤ 2047 ∧
      String.utf8EncodeChar c = [UInt8.ofNat (c.toNat / 64 % 32 + 192), UInt8.ofNat (c.toNat % 64 + 128)]) ∨
    (2047 < c.toNat ∧ c.toNat ≤ 65535 ∧
      String.utf8EncodeChar c = [UInt8.ofNat (c.toNat / 4096 % 16 + 224), UInt8.ofNat (c.toNat / 64 % 64 + 128),
        UInt8.ofNat (c.toNat % 64 + 128)]) ∨
    (65535 < c.toNat ∧
      String.utf8EncodeChar c = [UInt8.ofNat (c.toNat / 262144 % 8 + 240), UInt8.ofNat (c.toNat / 4096 % 64 + 128),
        UInt8.ofNat (c.toNat / 64 % 64 + 128), UInt8.ofNat (c.toNat % 64 + 128)]) := by
  have value : c.val.toNat = c.toNat := rfl
  unfold String.utf8EncodeChar
  simp only [value]
  split
  · next one => exact .inl ⟨one, rfl⟩
  · next more =>
    split
    · next two => exact .inr (.inl ⟨Nat.lt_of_not_le more, two, rfl⟩)
    · next more =>
      split
      · next three => exact .inr (.inr (.inl ⟨Nat.lt_of_not_le more, three, rfl⟩))
      · next more => exact .inr (.inr (.inr ⟨Nat.lt_of_not_le more, rfl⟩))

theorem compareLex_byte {m n : Nat} (small : m < 256) (less : n < 256) (x y : List UInt8) :
    List.compareLex Ord.compare (UInt8.ofNat m :: x) (UInt8.ofNat n :: y) =
      (Ord.compare m n).then (List.compareLex Ord.compare x y) := by
  rw [List.compareLex_cons_cons, compare_byte, UInt8.toNat_ofNat_of_lt' small, UInt8.toNat_ofNat_of_lt' less]

/-- What the four bytes of a character carry of it decides in their order. -/
theorem lt_of_four {m n : Nat} (less : m < n) (bound : n < 1114112) (rest : Prop) :
    m / 262144 % 8 + 240 < n / 262144 % 8 + 240 ∨ m / 262144 % 8 + 240 = n / 262144 % 8 + 240 ∧
      (m / 4096 % 64 + 128 < n / 4096 % 64 + 128 ∨ m / 4096 % 64 + 128 = n / 4096 % 64 + 128 ∧
        (m / 64 % 64 + 128 < n / 64 % 64 + 128 ∨ m / 64 % 64 + 128 = n / 64 % 64 + 128 ∧
          (m % 64 + 128 < n % 64 + 128 ∨ m % 64 + 128 = n % 64 + 128 ∧ rest))) := by
  have carried : ∀ n : Nat, n < 1114112 →
      n = n / 262144 % 8 * 262144 + n / 4096 % 64 * 4096 + n / 64 % 64 * 64 + n % 64 := by omega
  have small : ∀ n : Nat, n / 4096 % 64 < 64 ∧ n / 64 % 64 < 64 ∧ n % 64 < 64 := by omega
  have left := carried m (Nat.lt_trans less bound)
  have right := carried n bound
  have digits := small m
  have digits' := small n
  -- only the sums and the bounds matter from here on
  generalize m / 262144 % 8 = a, m / 4096 % 64 = b, m / 64 % 64 = c, m % 64 = d at *
  generalize n / 262144 % 8 = a', n / 4096 % 64 = b', n / 64 % 64 = c', n % 64 = d' at *
  omega

/-- The smaller of two characters has the smaller bytes, whatever stands behind them. -/
theorem compareLex_utf8_lt {c d : Char} (less : c.toNat < d.toNat) (x y : List UInt8) :
    List.compareLex Ord.compare (String.utf8EncodeChar c ++ x) (String.utf8EncodeChar d ++ y) = .lt := by
  have bound : d.toNat < 1114112 := by
    rcases d.valid with low | high
    · exact Nat.lt_of_lt_of_le low (by decide)
    · exact high.2
  rcases utf8_cases c with ⟨_, first⟩ | ⟨_, _, first⟩ | ⟨_, _, first⟩ | ⟨_, first⟩ <;>
    rcases utf8_cases d with ⟨_, second⟩ | ⟨_, _, second⟩ | ⟨_, _, second⟩ | ⟨_, second⟩ <;>
    simp (disch := omega) only [first, second, List.cons_append, List.nil_append, compareLex_byte,
      Ordering.then_eq_lt, Nat.compare_eq_lt, Nat.compare_eq_eq]
  all_goals first
    | exact lt_of_four less bound _
    | omega

theorem compareLex_utf8 (c d : Char) (x y : List UInt8) :
    List.compareLex Ord.compare (String.utf8EncodeChar c ++ x) (String.utf8EncodeChar d ++ y) =
      (Ord.compare c d).then (List.compareLex Ord.compare x y) := by
  rw [compare_char]
  rcases Nat.lt_trichotomy c.toNat d.toNat with less | same | more
  · rw [compareLex_utf8_lt less, Nat.compare_eq_lt.2 less, Ordering.lt_then]
  · rw [Char.toNat_inj.1 same, compareLex_append_self, Nat.compare_eq_eq.2 rfl, Ordering.eq_then]
  · rw [@OrientedCmp.eq_swap _ (List.compareLex Ord.compare), compareLex_utf8_lt more, Nat.compare_eq_gt.2 more]
    rfl

/-- Comparing texts is comparing their bytes. -/
theorem compare_bytes (a b : String) : Ord.compare (bytes a) (bytes b) = Ord.compare a b := by
  have lists : ∀ l m : List Char, List.compareLex Ord.compare (l.flatMap String.utf8EncodeChar)
      (m.flatMap String.utf8EncodeChar) = List.compareLex Ord.compare l m := by
    intro l
    induction l with
    | nil =>
      intro m
      cases m with
      | nil => rfl
      | cons d m =>
        obtain ⟨first, rest, shape⟩ := List.exists_cons_of_ne_nil (String.utf8EncodeChar_ne_nil (c := d))
        rw [List.flatMap_cons, shape]
        rfl
    | cons c l ih =>
      intro m
      cases m with
      | nil =>
        obtain ⟨first, rest, shape⟩ := List.exists_cons_of_ne_nil (String.utf8EncodeChar_ne_nil (c := c))
        rw [List.flatMap_cons, shape]
        rfl
      | cons d m => rw [List.flatMap_cons, List.flatMap_cons, compareLex_utf8, ih, List.compareLex_cons_cons]
  rw [compare_toList, bytes_eq, bytes_eq, List.compare_eq_compareLex, lists]

theorem compare_eq_lt_bytes {a b : String} : Ord.compare a b = .lt ↔ bytes a < bytes b := by
  rw [← compare_bytes, List.compare_eq_compareLex, compareLex_eq_lt fun _ _ => compareOfLessAndEq_eq_lt]

end IssueQuery.Text
