import IssueQuery.Text.CharClass
import Mathlib.Data.List.TakeWhile

/-! Runs of characters of one class, cut from the front of a longer text. A word and a blank share no character. -/

namespace IssueQuery.Text

variable {p : Char → Bool} {run rest : List Char}

theorem stops_at {α : Type} {P : α → Prop} {a : α} {more : List α} (holds : P a) : ∀ b ∈ (a :: more).head?, P b := by
  intro b head
  cases head
  exact holds

theorem bne_of_not_mem {mark : Char} (absent : mark ∉ run) : ∀ c ∈ run, (c != mark) = true := by
  intro c member
  exact bne_iff_ne.2 fun same => absent (same ▸ member)

theorem takeWhile_append_stop (stop : ∀ c ∈ rest.head?, p c = false) (text : List Char) :
    (text ++ rest).takeWhile p = text.takeWhile p := by
  induction text with
  | nil =>
    cases rest with
    | nil => rfl
    | cons c rest => simp [stop c rfl]
  | cons c text ih => rw [List.cons_append, List.takeWhile_cons, List.takeWhile_cons, ih]

theorem dropWhile_append_stop (stop : ∀ c ∈ rest.head?, p c = false) (text : List Char) :
    (text ++ rest).dropWhile p = text.dropWhile p ++ rest := by
  induction text with
  | nil =>
    cases rest with
    | nil => rfl
    | cons c rest => simp [stop c rfl]
  | cons c text ih =>
    rw [List.cons_append, List.dropWhile_cons, List.dropWhile_cons, ih]
    split <;> rfl

/-- A text is cut where its first run ends. -/
theorem exists_run (p : Char → Bool) (text : List Char) :
    ∃ run rest, text = run ++ rest ∧ (∀ c ∈ run, p c = true) ∧ ∀ c ∈ rest.head?, p c = false := by
  refine ⟨text.takeWhile p, text.dropWhile p, List.takeWhile_append_dropWhile.symm, fun c => List.mem_takeWhile_imp, ?_⟩
  intro c head
  have stop := List.head?_dropWhile_not p text
  rw [Option.mem_def.1 head] at stop
  exact stop

theorem takeWhile_run (inside : ∀ c ∈ run, p c = true) (stop : ∀ c ∈ rest.head?, p c = false) :
    (run ++ rest).takeWhile p = run := by
  rw [takeWhile_append_stop stop, List.takeWhile_eq_self_iff]
  exact inside

theorem dropWhile_run (inside : ∀ c ∈ run, p c = true) (stop : ∀ c ∈ rest.head?, p c = false) :
    (run ++ rest).dropWhile p = rest := by
  rw [dropWhile_append_stop stop, List.dropWhile_eq_nil_iff.2 inside, List.nil_append]

/-- Where a run ends is known from the text. -/
theorem run_inj {other after : List Char} (inside : ∀ c ∈ run, p c = true) (within : ∀ c ∈ other, p c = true)
    (stop : ∀ c ∈ rest.head?, p c = false) (ends : ∀ c ∈ after.head?, p c = false)
    (same : run ++ rest = other ++ after) : run = other ∧ rest = after := by
  constructor
  · rw [← takeWhile_run inside stop, same, takeWhile_run within ends]
  · rw [← dropWhile_run inside stop, same, dropWhile_run within ends]

def blankRanges : List (Nat × Nat) :=
  [(0x9, 0xD), (0x20, 0x20), (0x85, 0x85), (0xA0, 0xA0), (0x1680, 0x1680), (0x2000, 0x200A), (0x2028, 0x2028),
    (0x2029, 0x2029), (0x202F, 0x202F), (0x205F, 0x205F), (0x3000, 0x3000)]

def joiningRanges : List (Nat × Nat) :=
  [(0x5F, 0x5F), (0x203F, 0x203F), (0x2040, 0x2040), (0x2054, 0x2054), (0xFE33, 0xFE33), (0xFE34, 0xFE34),
    (0xFE4D, 0xFE4F), (0xFF3F, 0xFF3F), (0x200C, 0x200C), (0x200D, 0x200D)]

theorem covers_blankRanges (c : Char) : covers blankRanges c.toNat = isBlank c := by
  simp only [covers, blankRanges, isBlank, List.any_cons, List.any_nil, Bool.or_false, Bool.or_assoc]
  simp only [beq_eq_decide, Nat.le_antisymm_iff, Bool.decide_and, Bool.and_comm]

theorem covers_joiningRanges (c : Char) : covers joiningRanges c.toNat = (isConnector c || isJoiner c) := by
  simp only [covers, joiningRanges, isConnector, isJoiner, List.any_cons, List.any_nil, Bool.or_false, Bool.or_assoc]
  simp only [beq_eq_decide, Nat.le_antisymm_iff, Bool.decide_and, Bool.and_comm]

def disjointRanges (a b : List (Nat × Nat)) : Bool :=
  a.all fun first => b.all fun second => Nat.blt first.2 second.1 || Nat.blt second.2 first.1

theorem covers_of_disjoint {a b : List (Nat × Nat)} {code : Nat} (disjoint : disjointRanges a b = true)
    (inside : covers a code = true) : covers b code = false := by
  obtain ⟨first, left, low, high⟩ := covers_iff.1 inside
  rw [← Bool.not_eq_true, covers_iff]
  rintro ⟨second, right, least, most⟩
  have parts := List.all_eq_true.1 (List.all_eq_true.1 disjoint first left) second right
  simp only [Bool.or_eq_true, Nat.blt_eq] at parts
  omega

theorem isWord_of_blank {c : Char} (blank : isBlank c = true) : isWord c = false := by
  have inside := covers_blankRanges c
  rw [blank] at inside
  unfold isWord
  split
  · next ascii =>
    have codes : c.toNat ∈ [0x9, 0xA, 0xB, 0xC, 0xD, 0x20] := by
      simp only [isBlank, Bool.or_eq_true, Bool.and_eq_true, decide_eq_true_eq, beq_iff_eq] at blank
      simp only [List.mem_cons, List.not_mem_nil, or_false]
      omega
    have plain : ∀ code ∈ [0x9, 0xA, 0xB, 0xC, 0xD, 0x20],
        ((Char.ofNat code).isAlphanum || Char.ofNat code == '_') = false := by decide
    have verdict := plain c.toNat codes
    rwa [Char.ofNat_toNat] at verdict
  · rw [covers_of_disjoint (by decide +kernel) inside, covers_of_disjoint (by decide +kernel) inside,
      covers_of_disjoint (by decide +kernel) inside, Bool.or_assoc, ← covers_joiningRanges,
      covers_of_disjoint (by decide +kernel) inside]
    rfl

theorem isBlank_of_word {c : Char} (word : isWord c = true) : isBlank c = false := by
  cases blank : isBlank c with
  | false => rfl
  | true =>
    rw [isWord_of_blank blank] at word
    cases word

end IssueQuery.Text
