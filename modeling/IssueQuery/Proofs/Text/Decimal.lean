import IssueQuery.Proofs.Text.Runs
import IssueQuery.Text.Digits

/-! Decimal numbers are read back from their digits, zeros in front or not, up to where the digits end. -/

namespace IssueQuery.Text

variable {n : Nat} {c : Char} {digits rest : List Char}

theorem digitsValue_toDigits (n : Nat) : digitsValue (Nat.toDigits 10 n) = n :=
  Nat.ofDigitChars_toDigits (by decide) (by decide)

theorem isDigit_toDigits (member : c ∈ Nat.toDigits 10 n) : c.isDigit = true :=
  Nat.isDigit_of_mem_toDigits (by decide) (by decide) member

theorem toDigits_zero_cons (zero : Nat.toDigits 10 n = '0' :: rest) : n = 0 ∧ rest = [] := by
  have digit : ∀ d < 10, d.digitChar = '0' → d = 0 := by decide
  induction n using Nat.strongRecOn generalizing rest with
  | ind n ih =>
    rw [Nat.toDigits_eq_if (by decide)] at zero
    split at zero
    · next small =>
      obtain ⟨first, none⟩ := List.cons.inj zero
      exact ⟨digit n small first, none.symm⟩
    · next large =>
      obtain ⟨first, more, front⟩ := List.exists_cons_of_ne_nil (@Nat.toDigits_ne_nil (n / 10) 10)
      rw [front, List.cons_append] at zero
      obtain ⟨rfl, -⟩ := List.cons.inj zero
      have small := (ih (n / 10) (by omega) front).1
      omega

theorem isDigit_paddedDigits {width : Nat} (member : c ∈ paddedDigits width n) : c.isDigit = true := by
  rcases List.mem_append.1 member with zero | digit
  · rw [(List.mem_replicate.1 zero).2]
    rfl
  · exact isDigit_toDigits digit

theorem digitsValue_paddedDigits (width n : Nat) : digitsValue (paddedDigits width n) = n := by
  have zeros : ∀ count, digitsValueFrom 0 (List.replicate count '0') = 0 := by
    intro count
    induction count with
    | zero => rfl
    | succ count ih => exact ih
  rw [paddedDigits, digitsValue, digitsValueFrom, List.foldl_append]
  have front := zeros (width - (Nat.toDigits 10 n).length)
  rw [digitsValueFrom] at front
  rw [front]
  exact digitsValue_toDigits n

theorem paddedDigits_ne_nil (width n : Nat) : paddedDigits width n ≠ [] := by
  intro none
  exact Nat.toDigits_ne_nil (List.append_eq_nil_iff.1 none).2

theorem takeDigitsUpTo?_run {most : Nat} (filled : digits ≠ []) (inside : ∀ c ∈ digits, c.isDigit = true)
    (short : digits.length ≤ most) (stop : ∀ c ∈ rest.head?, c.isDigit = false) :
    takeDigitsUpTo? most (digits ++ rest) = some (digitsValue digits, rest) := by
  have ends : ∀ c ∈ (rest.take (most - digits.length)).head?, c.isDigit = false := by
    intro c head
    cases rest with
    | nil => rw [List.take_nil] at head; cases head
    | cons d rest =>
      cases room : most - digits.length with
      | zero => rw [room] at head; cases head
      | succ left => rw [room] at head; exact stop c head
  have run : ((digits ++ rest).take most).takeWhile Char.isDigit = digits := by
    rw [List.take_append, List.take_of_length_le short, takeWhile_run inside ends]
  rw [takeDigitsUpTo?, run, if_neg filled, List.drop_left]

end IssueQuery.Text
