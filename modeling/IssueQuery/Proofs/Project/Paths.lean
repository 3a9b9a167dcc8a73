import IssueQuery.Project.Tree
import IssueQuery.Proofs.Text.Joined
import Mathlib.Data.List.Basic

/-!
Paths in pieces. Joining adds one piece behind those of the base, and the parent of what has been joined is the base
as it was spelled.
-/

namespace IssueQuery

namespace Path

structure IsEntry (name : String) : Prop where
  moves : isIdle name = false
  down : name ≠ ".."
  single : '/' ∉ name.toList

theorem isEntry_iff {name : String} :
    IsEntry name ↔ isIdle name = false ∧ name ≠ ".." ∧ '/' ∉ name.toList :=
  ⟨fun entry => ⟨entry.moves, entry.down, entry.single⟩, fun ⟨moves, down, single⟩ => ⟨moves, down, single⟩⟩

instance (name : String) : Decidable (IsEntry name) :=
  decidable_of_iff' _ isEntry_iff

theorem IsEntry.ne_empty {name : String} (entry : IsEntry name) : name ≠ "" := by
  rintro rfl
  exact absurd entry.moves (by decide)

theorem pieces_append (before after : String) : pieces (before ++ "/" ++ after) = pieces before ++ pieces after := by
  rw [pieces, pieces, pieces, String.toList_append, String.toList_append, List.append_assoc, ← List.map_append]
  exact congrArg _ (List.splitOn_append_cons_self ..)

theorem pieces_single {name : String} (single : '/' ∉ name.toList) : pieces name = [name] := by
  rw [pieces, List.splitOn_eq_singleton single, List.map_singleton, String.ofList_toList]

theorem intercalate_pieces (path : String) : "/".intercalate (pieces path) = path := by
  have texts : (pieces path).map String.toList = path.toList.splitOn '/' := by
    rw [pieces, List.map_map]
    exact (List.map_congr_left fun text _ => String.toList_ofList).trans (List.map_id _)
  rw [← String.toList_inj, String.toList_intercalate, texts]
  exact List.intercalate_splitOn '/'

theorem not_mem_of_mem_splitOn {mark : Char} {text row : List Char} (member : row ∈ text.splitOn mark) :
    mark ∉ row := by
  induction text generalizing row with
  | nil =>
    rw [List.splitOn_nil, List.mem_singleton] at member
    rw [member]
    exact List.not_mem_nil
  | cons c rest ih =>
    rw [List.splitOn_cons_eq_if_modifyHead] at member
    cases rows : rest.splitOn mark with
    | nil => exact absurd rows (List.splitOn_ne_nil mark rest)
    | cons first others =>
      rw [rows] at member ih
      split at member
      · rcases List.mem_cons.1 member with rfl | inside
        · exact List.not_mem_nil
        · exact ih inside
      · next other =>
        rcases List.mem_cons.1 member with rfl | inside
        · rw [List.mem_cons, not_or]
          exact ⟨fun same => other (beq_iff_eq.2 same.symm), ih List.mem_cons_self⟩
        · exact ih (List.mem_cons_of_mem first inside)

theorem slash_not_mem_piece {path piece : String} (member : piece ∈ pieces path) : '/' ∉ piece.toList := by
  obtain ⟨text, inside, rfl⟩ := List.mem_map.1 member
  rw [String.toList_ofList]
  exact not_mem_of_mem_splitOn inside

theorem eq_append_slash {path : String} (ends : path.toList.getLast? = some '/') :
    ∃ front, path = front ++ "/" ++ "" := by
  obtain ⟨front, same⟩ := List.getLast?_eq_some_iff.1 ends
  refine ⟨String.ofList front, ?_⟩
  rw [← String.toList_inj, same]
  simp

def outer (base : String) : List String :=
  if base.isEmpty then []
  else if base.toList.getLast? == some '/' then (pieces base).dropLast
  else pieces base

theorem mem_of_mem_outer {base piece : String} (member : piece ∈ outer base) : piece ∈ pieces base := by
  unfold outer at member
  split at member
  · cases member
  · split at member
    · exact (List.dropLast_sublist _).subset member
    · exact member

theorem pieces_join {base name : String} (single : '/' ∉ name.toList) :
    pieces (join base name) = outer base ++ [name] := by
  have relative : isAbsolute name = false := by
    rw [isAbsolute, beq_eq_false_iff_ne]
    exact fun head => single (List.mem_of_head? head)
  rw [join, relative, Bool.false_or, outer]
  split
  · exact pieces_single single
  · split
    · next ends =>
      obtain ⟨front, rfl⟩ := eq_append_slash (beq_iff_eq.1 ends)
      rw [pieces_append, String.append_empty, pieces_append, pieces_single single,
        pieces_single (show '/' ∉ "".toList by decide), List.dropLast_concat]
    · rw [pieces_append, pieces_single single]

theorem dropIdleEnd_concat {last : String} (moves : isIdle last = false) (before : List String) :
    dropIdleEnd (before ++ [last]) = before ++ [last] := by
  rw [dropIdleEnd, List.reverse_append, List.reverse_singleton, List.singleton_append,
    List.dropWhile_cons_of_neg (by simp [moves]), List.reverse_cons, List.reverse_reverse]

/-- What precedes the pieces of a path is no name. -/
theorem split_of_pieces {path last : String} {before after : List String}
    (cut : pieces path = before ++ last :: after) (moves : isIdle last = false) :
    ∃ lead middle, split path = (lead, middle ++ last :: after) ∧ lead ++ middle = before := by
  have visible : last ≠ "" ∧ last ≠ "." := by simpa [isIdle] using moves
  unfold split
  cases before with
  | nil =>
    refine ⟨[], [], ?_, rfl⟩
    split
    · next same =>
      rw [cut] at same
      exact absurd (List.cons.inj same).1 visible.1
    · next same =>
      rw [cut] at same
      exact absurd (List.cons.inj same).1 visible.2
    · rw [cut]
  | cons first rest =>
    split
    · next same =>
      rw [cut] at same
      obtain ⟨rfl, rfl⟩ := List.cons.inj same
      exact ⟨[""], rest, rfl, rfl⟩
    · next same =>
      rw [cut] at same
      obtain ⟨rfl, rfl⟩ := List.cons.inj same
      exact ⟨["."], rest, rfl, rfl⟩
    · rw [cut]
      exact ⟨[], first :: rest, rfl, rfl⟩

/-- The parent of what has been joined is the base as it was spelled. -/
theorem parent?_of_pieces {path last name : String} {before : List String}
    (cut : pieces path = before ++ [last] ++ [name]) (moves : isIdle last = false) (moved : isIdle name = false) :
    parent? path = some ("/".intercalate (before ++ [last])) := by
  rw [List.append_assoc, List.singleton_append] at cut
  obtain ⟨lead, middle, parts, rfl⟩ := split_of_pieces cut moves
  have ends : dropIdleEnd (middle ++ [last, name]) = middle ++ [last, name] := by
    simpa using dropIdleEnd_concat moved (middle ++ [last])
  have outer : (middle ++ [last, name]).dropLast = middle ++ [last] := by
    simp
  unfold parent?
  rw [parts]
  dsimp only
  rw [ends]
  split
  · next empty => exact absurd (List.append_eq_nil_iff.1 empty).2 (List.cons_ne_nil _ _)
  · rw [outer, dropIdleEnd_concat moves]
    split
    · next empty => exact absurd (List.append_eq_nil_iff.1 empty).2 (List.cons_ne_nil _ _)
    · rw [List.append_assoc]

theorem outer_of_pieces {base last : String} {before : List String} (cut : pieces base = before ++ [last])
    (moves : isIdle last = false) : outer base = pieces base := by
  have filled : last ≠ "" := by
    rintro rfl
    exact absurd moves (by decide)
  unfold outer
  split
  · next empty =>
    have single : pieces base = [""] := by
      rw [String.isEmpty_iff.1 empty]
      exact pieces_single (by decide)
    have last := congrArg List.getLast? (single.symm.trans cut)
    exact absurd (by simpa using last.symm) filled
  · split
    · next ends =>
      obtain ⟨front, rfl⟩ := eq_append_slash (beq_iff_eq.1 ends)
      rw [pieces_append, pieces_single (show '/' ∉ "".toList by decide)] at cut
      exact absurd (List.append_inj_right' cut rfl) (by simpa using filled.symm)
    · rfl

theorem parent?_join {base last name : String} {before : List String} (cut : pieces base = before ++ [last])
    (moves : isIdle last = false) (entry : IsEntry name) : parent? (join base name) = some base := by
  have joined : pieces (join base name) = outer base ++ [name] := pieces_join entry.single
  rw [outer_of_pieces cut moves, cut] at joined
  rw [parent?_of_pieces joined moves entry.moves, ← cut, intercalate_pieces]

end Path

theorem Location.pieces_path {location : Location} (inside : location ≠ [])
    (single : ∀ name ∈ location, '/' ∉ name.toList) : Path.pieces location.path = "" :: location.reverse := by
  have text : location.path.toList = ['/'].intercalate (([] : List Char) :: location.reverse.map String.toList) := by
    rw [Text.intercalate_cons, List.nil_append, List.flatMap_map]
    cases location with
    | nil => exact absurd rfl inside
    | cons name above =>
      rw [path, String.toList_join, List.flatMap_map]
      · simp
      · exact List.cons_ne_nil name above
  rw [Path.pieces, text, List.splitOn_intercalate]
  · simp [Function.comp_def]
  · simpa using single
  · exact List.cons_ne_nil _ _

end IssueQuery
