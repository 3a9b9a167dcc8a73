import IssueQuery.Proofs.Project.Trees

/-!
Where paths lead that are put together from a path and a name. What is joined to the path of a directory lies in it,
and its parent is that directory.
-/

namespace IssueQuery

namespace Tree

def begins (here : Location) : List String → Location × List String
  | "" :: rest => ([], rest)
  | pieces => (here, pieces)

theorem start_eq (here : Location) (path : String) : start here path = begins here (Path.pieces path) :=
  rfl

theorem begins_of_ne {first : String} (filled : first ≠ "") (here : Location) (rest : List String) :
    begins here (first :: rest) = (here, first :: rest) := by
  unfold begins
  split
  · next same => exact absurd (List.cons.inj same).1 filled
  · rfl

theorem begins_concat {name : String} (filled : name ≠ "") (here : Location) (pieces : List String) :
    begins here (pieces ++ [name]) = ((begins here pieces).1, (begins here pieces).2 ++ [name]) := by
  cases pieces with
  | nil => exact begins_of_ne filled here []
  | cons first rest =>
    by_cases root : first = ""
    · rw [root]
      rfl
    · rw [List.cons_append, begins_of_ne root, begins_of_ne root, List.cons_append]

theorem mem_of_mem_begins {here : Location} {pieces : List String} {piece : String}
    (member : piece ∈ (begins here pieces).2) : piece ∈ pieces := by
  unfold begins at member
  split at member
  · exact List.mem_cons_of_mem _ member
  · exact member

theorem isDirectory_begins {tree : Tree} {here : Location} (directory : tree.isDirectory here = true)
    (pieces : List String) : tree.isDirectory (begins here pieces).1 = true := by
  unfold begins
  split
  · rfl
  · exact directory

def base (tree : Tree) (here : Location) (path : String) : Except FileError Location :=
  tree.walk (begins here (Path.outer path)).1 (begins here (Path.outer path)).2

variable {tree : Tree} {here location project : Location} {path name : String}

theorem resolve_join (single : '/' ∉ name.toList) (filled : name ≠ "") :
    tree.resolve here (Path.join path name) = tree.base here path >>= fun next => tree.walk next [name] := by
  have cut : Path.pieces (Path.join path name) = Path.outer path ++ [name] := Path.pieces_join single
  have written : (Path.join path name).isEmpty = false := by
    rw [← Bool.not_eq_true, String.isEmpty_iff]
    intro empty
    rw [empty, Path.pieces_single (by decide)] at cut
    have last := congrArg List.getLast? cut
    exact filled (by simpa using last.symm)
  rw [resolve, written, start_eq, cut, begins_concat filled]
  exact walk_append _ _ _ _

theorem directory_eq_ok : tree.directory here path = .ok project ↔
    tree.resolve here path = .ok project ∧ tree.isDirectory project = true := by
  rw [directory, find]
  cases tree.resolve here path with
  | error reason => simp [bind, Except.bind]
  | ok location =>
    simp only [bind, Except.bind, Except.ok.injEq]
    constructor
    · intro found
      cases there : tree.lookup? location with
      | none =>
        rw [there] at found
        cases found
      | some entry =>
        rw [there] at found
        cases entry with
        | directory =>
          cases found
          exact ⟨rfl, isDirectory_iff.2 there⟩
        | text content => cases found
        | database store => cases found
    · rintro ⟨rfl, directory⟩
      rw [isDirectory_iff.1 directory]

theorem directory_point : tree.directory here (Path.join path ".") = .ok project ↔
    tree.base here path = .ok project ∧ tree.isDirectory project = true := by
  rw [directory_eq_ok, resolve_join (by decide) (by decide)]
  cases tree.base here path with
  | error reason => simp [bind, Except.bind]
  | ok next =>
    simp only [bind, Except.bind, walk_point, Except.ok.injEq]
    constructor
    · rintro ⟨⟨directory, rfl⟩, -⟩
      exact ⟨rfl, directory⟩
    · rintro ⟨rfl, directory⟩
      exact ⟨⟨directory, rfl⟩, directory⟩

theorem leadsSomewhere_of_resolve (resolved : tree.resolve here path = .ok location) :
    tree.leadsSomewhere here path = tree.has location := by
  rw [leadsSomewhere, find, resolved, has]
  cases found : tree.lookup? location <;> simp [bind, Except.bind, found, Except.isOk, Except.toBool]

theorem leadsSomewhere_join (base : tree.base here path = .ok project) (inside : tree.isDirectory project = true)
    (entry : Path.IsEntry name) : tree.leadsSomewhere here (Path.join path name) = tree.has (name :: project) := by
  apply leadsSomewhere_of_resolve
  rw [resolve_join entry.single entry.ne_empty, base]
  exact (walk_name entry).2 ⟨inside, rfl⟩

structure Reaches (tree : Tree) (here : Location) (path : String) (location : Location) : Prop where
  resolved : tree.resolve here path = .ok location
  directory : tree.isDirectory location = true
  ends : ∃ before last, Path.pieces path = before ++ [last] ∧ Path.isIdle last = false

namespace Reaches

theorem leadsSomewhere (reaches : tree.Reaches here path location) : tree.leadsSomewhere here path = true := by
  rw [leadsSomewhere_of_resolve reaches.resolved, has_of_isDirectory reaches.directory]

theorem mono {after : Tree} (reaches : tree.Reaches here path location) (keeps : tree.KeepsDirectories after) :
    after.Reaches here path location := by
  refine ⟨?_, keeps location reaches.directory, reaches.ends⟩
  have resolved := reaches.resolved
  unfold resolve at resolved ⊢
  split at resolved
  · cases resolved
  · next filled =>
    rw [if_neg filled]
    exact keeps.walk resolved

theorem base (reaches : tree.Reaches here path location) : tree.base here path = .ok location := by
  obtain ⟨before, last, cut, moves⟩ := reaches.ends
  have resolved := reaches.resolved
  unfold resolve at resolved
  split at resolved
  · cases resolved
  · rw [start_eq] at resolved
    rw [Tree.base, Path.outer_of_pieces cut moves]
    exact resolved

/-- What is joined to the path lies in the directory. -/
theorem resolve_join (reaches : tree.Reaches here path location) (entry : Path.IsEntry name) :
    tree.resolve here (Path.join path name) = .ok (name :: location) := by
  rw [Tree.resolve_join entry.single entry.ne_empty, reaches.base]
  exact (walk_name entry).2 ⟨reaches.directory, rfl⟩

theorem parent? (reaches : tree.Reaches here path location) (entry : Path.IsEntry name) :
    Path.parent? (Path.join path name) = some path := by
  obtain ⟨before, last, cut, moves⟩ := reaches.ends
  exact Path.parent?_join cut moves entry

end Reaches

theorem reaches_join (base : tree.base here path = .ok project) (entry : Path.IsEntry name)
    (inside : tree.isDirectory project = true) (directory : tree.isDirectory (name :: project) = true) :
    tree.Reaches here (Path.join path name) (name :: project) := by
  refine ⟨?_, directory, Path.outer path, name, Path.pieces_join entry.single, entry.moves⟩
  rw [resolve_join entry.single entry.ne_empty, base]
  exact (walk_name entry).2 ⟨inside, rfl⟩

theorem Proper.isEntry_of_mem (proper : tree.Proper) (directory : tree.isDirectory location = true) :
    ∀ name ∈ location, Path.IsEntry name := by
  intro name member
  obtain ⟨before, above, rfl⟩ := List.append_of_mem member
  exact proper.named (has_of_isDirectory (proper.isDirectory_of_suffix (List.suffix_append before _) directory))

theorem Proper.reaches_path (proper : tree.Proper) (inside : location ≠ [])
    (directory : tree.isDirectory location = true) (here : Location) :
    tree.Reaches here location.path location := by
  have entries := proper.isEntry_of_mem directory
  have cut := Location.pieces_path inside fun name member => (entries name member).single
  have names : below [] location.reverse = location := by
    have moves : location.reverse.filter (fun piece => !Path.isIdle piece) = location.reverse := by
      rw [List.filter_eq_self]
      intro name member
      simp [(entries name (List.mem_reverse.1 member)).moves]
    rw [below, moves, List.reverse_reverse, List.append_nil]
  have down : ".." ∉ location.reverse :=
    fun member => (entries ".." (List.mem_reverse.1 member)).down rfl
  have walked := proper.walk_below down (names.symm ▸ directory)
  rw [names] at walked
  refine ⟨?_, directory, ?_⟩
  · have filled : location.path.isEmpty = false := by
      rw [← Bool.not_eq_true, String.isEmpty_iff]
      intro empty
      rw [empty, Path.pieces_single (by decide)] at cut
      exact inside (List.reverse_eq_nil_iff.1 (List.cons.inj cut).2.symm)
    rw [resolve, filled, start_eq, cut]
    exact walked
  · cases location with
    | nil => exact absurd rfl inside
    | cons name above =>
      refine ⟨"" :: above.reverse, name, ?_, (entries name List.mem_cons_self).moves⟩
      rw [cut, List.reverse_cons]
      rfl

end Tree

end IssueQuery
