import Mathlib.Data.List.Basic

/-! Texts with a separator between each two. -/

namespace IssueQuery.Text

variable {α β : Type}

theorem intercalate_cons (separator row : List α) (rest : List (List α)) :
    separator.intercalate (row :: rest) = row ++ rest.flatMap (separator ++ ·) := by
  induction rest generalizing row with
  | nil => simp
  | cons next rest ih => rw [List.intercalate_cons_cons, ih, List.flatMap_cons, List.append_assoc, List.append_assoc]

theorem forall_mem_intercalate {p : α → Prop} {separator : List α} {rows : List (List α)}
    (between : ∀ a ∈ separator, p a) (each : ∀ row ∈ rows, ∀ a ∈ row, p a) :
    ∀ a ∈ separator.intercalate rows, p a := by
  cases rows with
  | nil => exact List.forall_mem_nil _
  | cons row rest =>
    rw [List.forall_mem_cons] at each
    rw [intercalate_cons, List.forall_mem_append]
    refine ⟨each.1, fun a member => ?_⟩
    obtain ⟨other, inside, member⟩ := List.mem_flatMap.1 member
    rcases List.mem_append.1 member with mark | member
    · exact between a mark
    · exact each.2 other inside a member

section

variable {write : α → List β} {separator : List β} {Fit : α → Prop}
  (reads : ∀ a b rest after, Fit a → Fit b → write a ++ rest = write b ++ after → a = b ∧ rest = after)

include reads

/-- A row with a separator before each entry is known from its text if an entry is known from the front of a text. -/
theorem separated_inj (apart : separator ≠ []) {as bs : List α} (fit : ∀ a ∈ as, Fit a) (fits : ∀ b ∈ bs, Fit b)
    (same : (as.map write).flatMap (separator ++ ·) = (bs.map write).flatMap (separator ++ ·)) : as = bs := by
  have starts : ∀ a rest, (List.map write (a :: rest)).flatMap (separator ++ ·) ≠ [] := by
    intro a rest empty
    rw [List.map_cons, List.flatMap_cons, List.append_assoc] at empty
    exact apart (List.append_eq_nil_iff.1 empty).1
  induction as generalizing bs with
  | nil =>
    cases bs with
    | nil => rfl
    | cons b others => exact absurd same.symm (starts b others)
  | cons a rest ih =>
    cases bs with
    | nil => exact absurd same (starts a rest)
    | cons b others =>
      rw [List.forall_mem_cons] at fit fits
      simp only [List.map_cons, List.flatMap_cons, List.append_assoc] at same
      obtain ⟨rfl, behind⟩ := reads a b _ _ fit.1 fits.1 (List.append_cancel_left same)
      rw [ih fit.2 fits.2 behind]

theorem intercalate_inj (filled : ∀ a, write a ≠ []) (apart : separator ≠ []) {as bs : List α}
    (fit : ∀ a ∈ as, Fit a) (fits : ∀ b ∈ bs, Fit b)
    (same : separator.intercalate (as.map write) = separator.intercalate (bs.map write)) : as = bs := by
  have starts : ∀ a rest, separator.intercalate (List.map write (a :: rest)) ≠ [] := by
    intro a rest empty
    rw [List.map_cons, intercalate_cons] at empty
    exact filled a (List.append_eq_nil_iff.1 empty).1
  cases as with
  | nil =>
    cases bs with
    | nil => rfl
    | cons b others => exact absurd same.symm (starts b others)
  | cons a rest =>
    cases bs with
    | nil => exact absurd same (starts a rest)
    | cons b others =>
      apply separated_inj reads apart fit fits
      simp only [List.map_cons, List.flatMap_cons, List.append_assoc]
      rw [← intercalate_cons, ← intercalate_cons]
      exact congrArg (separator ++ ·) same

end

end IssueQuery.Text
