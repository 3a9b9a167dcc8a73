import IssueQuery.Text.Lines
import Mathlib.Data.List.Basic

/-!
Lines of a text, and what becomes of lines that are joined by newlines: they are read again as they were unless the
last one is empty or an earlier one ends in a carriage return.
-/

namespace IssueQuery.Text

variable {c : Char} {rest row text : List Char}

def consLine (c : Char) : List (List Char) → List (List Char)
  | [] => [[c]]
  | line :: more => (c :: line) :: more

theorem lines_cons (inside : c ≠ '\n') (apart : c = '\r' → rest.head? ≠ some '\n') :
    lines (c :: rest) = consLine c (lines rest) := by
  rw [lines]
  · cases lines rest <;> rfl
  · exact inside
  · intro tail return? same
    exact apart return? (by rw [same]; rfl)

def withoutReturn : List Char → List Char
  | [] => []
  | ['\r'] => []
  | c :: rest => c :: withoutReturn rest

theorem withoutReturn_cons (more : c = '\r' → rest ≠ []) : withoutReturn (c :: rest) = c :: withoutReturn rest := by
  rw [withoutReturn]
  exact more

theorem withoutReturn_eq_self_iff : withoutReturn row = row ↔ row.getLast? ≠ some '\r' := by
  fun_induction withoutReturn row with
  | case1 => simp
  | case2 => simp
  | case3 c rest more ih =>
    cases rest with
    | nil => simpa [withoutReturn] using more
    | cons d rest => rw [List.getLast?_cons_cons, ← ih, List.cons.injEq, eq_self, true_and]

theorem head?_ne_newline (single : '\n' ∉ row) : row.head? ≠ some '\n' :=
  fun head => single (List.mem_of_head? head)

/-- A newline ends a line, and takes a carriage return before it along. -/
theorem lines_append_newline (single : '\n' ∉ row) (rest : List Char) :
    lines (row ++ '\n' :: rest) = withoutReturn row :: lines rest := by
  induction row with
  | nil => rfl
  | cons c row ih =>
    obtain ⟨first, later⟩ := not_or.1 (List.mem_cons.not.1 single)
    by_cases alone : c = '\r' ∧ row = []
    · obtain ⟨rfl, rfl⟩ := alone
      rfl
    · have more : c = '\r' → row ≠ [] := fun is none => alone ⟨is, none⟩
      rw [List.cons_append, lines_cons (Ne.symm first), ih later, consLine, withoutReturn_cons more]
      intro is
      rw [List.head?_append_of_ne_nil _ (more is)]
      exact head?_ne_newline later

theorem lines_single (single : '\n' ∉ row) (filled : row ≠ []) : lines row = [row] := by
  induction row with
  | nil => exact absurd rfl filled
  | cons c row ih =>
    obtain ⟨first, later⟩ := not_or.1 (List.mem_cons.not.1 single)
    rw [lines_cons (Ne.symm first) fun _ => head?_ne_newline later]
    cases row with
    | nil => rfl
    | cons d row => rw [ih later (List.cons_ne_nil d row), consLine]

theorem mem_lines {line : List Char} (member : line ∈ lines text) : (∀ c ∈ line, c ∈ text) ∧ '\n' ∉ line := by
  fun_induction lines text generalizing line with
  | case1 => cases member
  | case2 rest ih =>
    rcases List.mem_cons.1 member with rfl | later
    · exact ⟨List.forall_mem_nil _, List.not_mem_nil⟩
    · exact (ih later).imp_left fun inside c member => List.mem_cons_of_mem _ (inside c member)
  | case3 rest ih =>
    rcases List.mem_cons.1 member with rfl | later
    · exact ⟨List.forall_mem_nil _, List.not_mem_nil⟩
    · exact (ih later).imp_left fun inside c member => List.mem_cons_of_mem _ (List.mem_cons_of_mem _ (inside c member))
  | case4 c rest apart _ empty ih =>
    cases List.mem_singleton.1 member
    exact ⟨by simp, by simpa using Ne.symm apart⟩
  | case5 c rest apart _ first more cut ih =>
    rw [cut] at ih
    rcases List.mem_cons.1 member with rfl | later
    · obtain ⟨inside, single⟩ := ih List.mem_cons_self
      refine ⟨List.forall_mem_cons.2 ⟨List.mem_cons_self, fun d within => List.mem_cons_of_mem _ (inside d within)⟩, ?_⟩
      exact List.not_mem_cons_of_ne_of_not_mem (Ne.symm apart) single
    · exact (ih (List.mem_cons_of_mem _ later)).imp_left fun inside d within => List.mem_cons_of_mem _ (inside d within)

/-- What joined rows are read as. -/
def relined : List (List Char) → List (List Char)
  | [] => []
  | [row] => if row = [] then [] else [row]
  | row :: next :: rest => withoutReturn row :: relined (next :: rest)

theorem lines_intercalate {rows : List (List Char)} (single : ∀ row ∈ rows, '\n' ∉ row) :
    lines (['\n'].intercalate rows) = relined rows := by
  fun_induction relined rows with
  | case1 => rfl
  | case2 => rfl
  | case3 row filled => rw [List.intercalate_singleton, lines_single (single row List.mem_cons_self) filled]
  | case4 row next rest ih =>
    obtain ⟨first, later⟩ := List.forall_mem_cons.1 single
    rw [List.intercalate_cons_cons, List.append_assoc, List.singleton_append, lines_append_newline first, ih later]

theorem length_relined_le (rows : List (List Char)) : (relined rows).length ≤ rows.length := by
  fun_induction relined rows with
  | case1 => exact Nat.le_refl 0
  | case2 => exact Nat.zero_le _
  | case3 => exact Nat.le_refl 1
  | case4 row next rest ih => exact Nat.succ_le_succ ih

theorem relined_eq_self_iff {rows : List (List Char)} : relined rows = rows ↔
    rows.getLast? ≠ some [] ∧ ∀ row ∈ rows.dropLast, row.getLast? ≠ some '\r' := by
  fun_induction relined rows with
  | case1 => simp
  | case2 => simp
  | case3 row filled => simp [filled]
  | case4 row next rest ih =>
    rw [List.cons.injEq, withoutReturn_eq_self_iff, ih, List.getLast?_cons_cons, List.dropLast_cons_cons,
      List.forall_mem_cons]
    exact and_left_comm

end IssueQuery.Text
