import IssueQuery.Project.Basic
import IssueQuery.Proofs.Project.Leading
import IssueQuery.Proofs.Query.Valid

/-!
What actions make of a tree. Making directories adds directories and changes nothing; writing a file changes that file.
-/

namespace IssueQuery

/-! Running actions. -/

namespace TreeAction

variable {ε α β : Type} {action : TreeAction ε α} {next : α → TreeAction ε β} {tree after : Tree}

theorem run_bind (action : TreeAction ε α) (next : α → TreeAction ε β) (tree : Tree) :
    (action >>= next) tree = ExceptT.bindCont next (action tree).1 (action tree).2 :=
  rfl

theorem ok_of_bind {b : β} (run : (action >>= next) tree = (.ok b, after)) :
    ∃ a middle, action tree = (.ok a, middle) ∧ next a middle = (.ok b, after) := by
  rw [run_bind] at run
  cases first : action tree with
  | mk result middle =>
    rw [first] at run
    cases result with
    | error e => cases run
    | ok a => exact ⟨a, middle, rfl, run⟩

theorem bind_of_ok {a : α} (run : action tree = (.ok a, after)) : (action >>= next) tree = next a after := by
  rw [run_bind, run]
  rfl

theorem run_get (next : Tree → TreeAction ε α) (tree : Tree) : (get >>= next) tree = next tree tree :=
  rfl

theorem run_of (result : Tree → Except ε α) (tree : Tree) : of result tree = (result tree, tree) := by
  rw [of, run_get]
  cases result tree <;> rfl

end TreeAction

namespace Tree

/-- Directories have been added to a tree. -/
structure Grows (tree after : Tree) : Prop where
  keeps : tree.Keeps after
  proper : after.Proper
  added : ∀ {location}, tree.has location = false → after.has location = true → after.isDirectory location = true

variable {tree after : Tree} {base : Location} {pieces : List String}

theorem Proper.grows_self (proper : tree.Proper) : tree.Grows tree := by
  refine ⟨fun _ _ => id, proper, ?_⟩
  intro location free there
  rw [free] at there
  cases there

theorem Grows.trans {last : Tree} (first : tree.Grows after) (second : after.Grows last) : tree.Grows last := by
  refine ⟨first.keeps.trans second.keeps, second.proper, ?_⟩
  intro location free there
  cases between : after.has location with
  | true => exact second.keeps.directories _ (first.added free between)
  | false => exact second.added between there

theorem leadsToDirectory_iff : tree.leadsToDirectory base pieces = true ↔
    ∃ location, tree.walk base pieces = .ok location ∧ tree.isDirectory location = true := by
  unfold leadsToDirectory
  cases tree.walk base pieces <;> simp

theorem Proper.makeDirectory_ok (proper : tree.Proper) (start : tree.has base = true)
    (single : ∀ piece ∈ pieces, '/' ∉ piece.toList) (made : tree.makeDirectory base pieces = .ok after) :
    tree.Grows after ∧ after.leadsToDirectory base pieces = true := by
  unfold makeDirectory at made
  obtain ⟨location, walked, made⟩ := ok_of_bind made
  cases free : tree.has location with
  | true =>
    rw [free] at made
    cases made
  | false =>
    obtain ⟨name, above, rfl, member, moves, down, inside⟩ := proper.missing_of_walk start walked free
    have named : Path.IsEntry name := ⟨moves, down, single name member⟩
    rw [free, List.tail_cons, isDirectory_iff.1 inside] at made
    obtain rfl : tree.put (name :: above) .directory = after := Except.ok.inj made
    have writes := Writes.of_put (List.cons_ne_nil name above) (isDirectory_eq_false free) .directory
    refine ⟨⟨writes.keeps (fun _ _ => id) free, writes.proper proper named inside, ?_⟩, ?_⟩
    · intro location missing there
      by_cases same : location = name :: above
      · rw [same, isDirectory_iff, writes.content]
      · rw [has, writes.others location same] at there
        rw [has, there] at missing
        cases missing
    · rw [leadsToDirectory_iff]
      exact ⟨name :: above, writes.directories.walk walked, isDirectory_iff.2 writes.content⟩

end Tree

namespace TreeAction

variable {tree after : Tree} {base : Location} {pieces : List String}

theorem unless_ok {ε : Type} {there : Bool} {reason : ε}
    (run : (unless there do throw reason : TreeAction ε Unit) tree = (.ok (), after)) :
    there = true ∧ after = tree := by
  cases there with
  | true =>
    cases run
    exact ⟨rfl, rfl⟩
  | false => cases run

/-- Whatever directories are missing are made, and the path leads to a directory then. -/
theorem makeAll_ok (proper : tree.Proper) (start : tree.has base = true)
    (single : ∀ piece ∈ pieces, '/' ∉ piece.toList) (run : makeAll base pieces tree = (.ok (), after)) :
    tree.Grows after ∧ (pieces ≠ [] → after.leadsToDirectory base pieces.reverse = true) := by
  induction pieces generalizing after with
  | nil =>
    cases run
    exact ⟨proper.grows_self, fun none => absurd rfl none⟩
  | cons piece above ih =>
    have names : ∀ other ∈ (piece :: above).reverse, '/' ∉ other.toList :=
      fun other member => single other (List.mem_reverse.1 member)
    have settled : tree.leadsToDirectory base (piece :: above).reverse = true ∧ after = tree →
        tree.Grows after ∧ (piece :: above ≠ [] → after.leadsToDirectory base (piece :: above).reverse = true) := by
      rintro ⟨there, rfl⟩
      exact ⟨proper.grows_self, fun _ => there⟩
    rw [makeAll, run_get] at run
    cases made : tree.makeDirectory base (piece :: above).reverse with
    | ok grown =>
      rw [made] at run
      cases run
      obtain ⟨grows, there⟩ := proper.makeDirectory_ok start names made
      exact ⟨grows, fun _ => there⟩
    | error reason =>
      rw [made] at run
      cases reason with
      | notFound =>
        obtain ⟨_, middle, outer, run⟩ := ok_of_bind run
        rw [List.forall_mem_cons] at single
        obtain ⟨before, -⟩ := ih single.2 outer
        have stays := before.keeps.has start
        rw [run_get] at run
        cases again : middle.makeDirectory base (piece :: above).reverse with
        | ok grown =>
          rw [again] at run
          cases run
          obtain ⟨grows, there⟩ := before.proper.makeDirectory_ok stays names again
          exact ⟨before.trans grows, fun _ => there⟩
        | error reason =>
          rw [again] at run
          obtain ⟨there, rfl⟩ := unless_ok run
          exact ⟨before, fun _ => there⟩
      | alreadyThere | notDirectory | isDirectory | notText => exact settled (unless_ok run)

variable {here location project : Location} {path name : String}

theorem makeDirectories_join (entry : Path.IsEntry name) :
    (makeDirectories here (Path.join path name) : TreeAction FileError Unit) =
      makeAll (Tree.begins here (Path.outer path)).1
        (((Tree.begins here (Path.outer path)).2.filter fun piece => !Path.isIdle piece) ++ [name]).reverse := by
  rw [makeDirectories, Tree.start_eq, Path.pieces_join entry.single, Tree.begins_concat entry.ne_empty]
  dsimp only
  rw [List.filter_append, List.filter_cons_of_pos (by simp [entry.moves]), List.filter_nil]

theorem slash_not_mem_joined (entry : Path.IsEntry name) :
    ∀ piece ∈ (((Tree.begins here (Path.outer path)).2.filter fun piece => !Path.isIdle piece) ++ [name]).reverse,
      '/' ∉ piece.toList := by
  intro piece member
  rw [List.mem_reverse, List.mem_append, List.mem_singleton] at member
  rcases member with inside | rfl
  · have cut : Path.pieces (Path.join path name) = Path.outer path ++ [name] := Path.pieces_join entry.single
    apply Path.slash_not_mem_piece
    rw [cut]
    exact List.mem_append_left _ (Tree.mem_of_mem_begins (List.mem_of_mem_filter inside))
  · exact entry.single

/-- A path whose last directory could be made leads to a directory that has it. -/
theorem makeDirectories_ok (proper : tree.Proper) (start : tree.isDirectory here = true) (entry : Path.IsEntry name)
    (run : makeDirectories here (Path.join path name) tree = (.ok (), after)) :
    tree.Grows after ∧ ∃ project, after.base here path = .ok project ∧ after.isDirectory project = true ∧
      after.isDirectory (name :: project) = true := by
  rw [makeDirectories_join entry] at run
  have there := Tree.has_of_isDirectory (Tree.isDirectory_begins start (Path.outer path))
  obtain ⟨grows, leads⟩ := makeAll_ok proper there (slash_not_mem_joined entry) run
  replace leads := leads (by simp)
  rw [List.reverse_reverse, Tree.leadsToDirectory_iff] at leads
  obtain ⟨location, walked, directory⟩ := leads
  rw [Tree.walk_append] at walked
  obtain ⟨project, outer, last⟩ := IssueQuery.ok_of_bind walked
  obtain ⟨inside, rfl⟩ := (Tree.walk_name entry).1 last
  exact ⟨grows, project, (Tree.walk_filter inside).1 outer, inside, directory⟩

theorem makeDirectories_run (base : tree.base here path = .ok project) (inside : tree.isDirectory project = true)
    (entry : Path.IsEntry name) (free : tree.has (name :: project) = false) :
    ∃ after, makeDirectories here (Path.join path name) tree = (.ok (), after) ∧
      tree.Writes (name :: project) .directory after := by
  refine ⟨_, ?_, .of_put (List.cons_ne_nil name project) (Tree.isDirectory_eq_false free) _⟩
  have made : tree.makeDirectory (Tree.begins here (Path.outer path)).1
      (((Tree.begins here (Path.outer path)).2.filter fun piece => !Path.isIdle piece) ++ [name]) =
        .ok (tree.put (name :: project) .directory) := by
    have outer := (Tree.walk_filter inside).2 base
    have last := (Tree.walk_name entry).2 ⟨inside, rfl⟩
    rw [Tree.makeDirectory, Tree.walk_append, outer]
    simp only [bind, Except.bind]
    rw [last]
    simp only
    rw [free, List.tail_cons, Tree.isDirectory_iff.1 inside]
    rfl
  rw [makeDirectories_join entry, List.reverse_append, List.reverse_singleton, List.singleton_append, makeAll, run_get,
    List.reverse_cons, List.reverse_reverse, made]
  rfl

end TreeAction

variable {tree after : Tree} {here location : Location} {path name work : String}

theorem Tree.target_eq (resolved : tree.resolve here path = .ok (name :: location))
    (inside : tree.isDirectory location = true) : tree.target here path =
      if tree.isDirectory (name :: location) then .error .isDirectory else .ok (name :: location) := by
  rw [target, resolved, isDirectory]
  simp only [bind, Except.bind]
  cases found : tree.lookup? (name :: location) with
  | none =>
    rw [List.tail_cons, isDirectory_iff.1 inside]
    rfl
  | some entry => cases entry <;> rfl

theorem TreeAction.writeText_eq (content : String) (resolved : tree.resolve here path = .ok (name :: location))
    (inside : tree.isDirectory location = true) : TreeAction.writeText here path content tree =
      if tree.isDirectory (name :: location) then (.error .isDirectory, tree)
      else (.ok (), tree.put (name :: location) (.text content)) := by
  rw [TreeAction.writeText, change, run_bind, run_of, Tree.writeText, Tree.target_eq resolved inside]
  split <;> rfl

theorem TreeAction.writeText_run (content : String) (resolved : tree.resolve here path = .ok (name :: location))
    (inside : tree.isDirectory location = true) (free : tree.has (name :: location) = false) :
    ∃ after, TreeAction.writeText here path content tree = (.ok (), after) ∧
      tree.Writes (name :: location) (.text content) after := by
  have leaf := Tree.isDirectory_eq_false free
  refine ⟨_, ?_, .of_put (List.cons_ne_nil name location) leaf _⟩
  rw [TreeAction.writeText_eq content resolved inside, leaf]
  rfl

theorem TreeAction.writeText_ok {content : String} (resolved : tree.resolve here path = .ok (name :: location))
    (inside : tree.isDirectory location = true)
    (run : TreeAction.writeText here path content tree = (.ok (), after)) :
    tree.Writes (name :: location) (.text content) after := by
  rw [TreeAction.writeText_eq content resolved inside] at run
  split at run
  · cases run
  · next leaf =>
    cases run
    exact .of_put (List.cons_ne_nil name location) (Bool.eq_false_iff.2 leaf) _

namespace Database

theorem makeParent_run (reaches : tree.Reaches here work location) (entry : Path.IsEntry name) :
    makeParent here (Path.join work name) tree = (.ok (), tree) := by
  rw [makeParent, reaches.parent? entry]
  dsimp only
  rw [TreeAction.run_get, reaches.leadsSomewhere, Bool.or_true]
  rfl

def createAt (location : Location) : TreeAction CommandError Database :=
  fun tree => (.ok ⟨location, .empty⟩, tree.put location (.database .empty))

def openEntry (path : String) (location : Location) : Option Entry → TreeAction CommandError Database
  | none => createAt location
  | some .directory => throw (cannotOpen path)
  | some (.text content) =>
    if content.isEmpty then createAt location else throw (.failure (.database "file is not a database"))
  | some (.database store) => pure ⟨location, store⟩

theorem openAt_eq (reaches : tree.Reaches here work location) :
    openAt here (Path.join work databaseName) tree =
      openEntry (Path.join work databaseName) (databaseName :: location)
        (tree.lookup? (databaseName :: location)) tree := by
  have entry : Path.IsEntry databaseName := by decide
  have target := Tree.target_eq (reaches.resolve_join entry) reaches.directory
  rw [openAt, TreeAction.bind_of_ok (makeParent_run reaches entry), TreeAction.run_bind, TreeAction.run_of, target,
    Tree.isDirectory]
  cases found : tree.lookup? (databaseName :: location) with
  | none =>
    change (get >>= _ : TreeAction CommandError Database) tree = _
    rw [TreeAction.run_get, found]
    rfl
  | some entry =>
    cases entry with
    | directory => rfl
    | text content =>
      change (get >>= _ : TreeAction CommandError Database) tree = _
      rw [TreeAction.run_get, found, openEntry]
      dsimp only
      cases content.isEmpty <;> rfl
    | database store =>
      change (get >>= _ : TreeAction CommandError Database) tree = _
      rw [TreeAction.run_get, found]
      rfl

/-- A database that could be opened was there, or is an empty one in place of nothing or of an empty file. -/
theorem openAt_ok (reaches : tree.Reaches here work location) {database : Database}
    (run : openAt here (Path.join work databaseName) tree = (.ok database, after)) :
    tree.Writes (databaseName :: location) (.database database.store) after ∧
      (tree.lookup? (databaseName :: location) = some (.database database.store) ∨ database.store = .empty) := by
  rw [openAt_eq reaches] at run
  have leaf : tree.isDirectory (databaseName :: location) = false := by
    rw [← Bool.not_eq_true, Tree.isDirectory_iff]
    intro directory
    rw [directory] at run
    cases run
  have created : createAt (databaseName :: location) tree = (.ok database, after) →
      tree.Writes (databaseName :: location) (.database database.store) after ∧ database.store = .empty := by
    intro run
    cases run
    exact ⟨.of_put (List.cons_ne_nil _ _) leaf _, rfl⟩
  cases found : tree.lookup? (databaseName :: location) with
  | none =>
    rw [found] at run
    exact (created run).imp_right .inr
  | some entry =>
    rw [found] at run
    cases entry with
    | directory => cases run
    | text content =>
      rw [openEntry] at run
      split at run
      · exact (created run).imp_right .inr
      · cases run
    | database store =>
      cases run
      exact ⟨⟨leaf, found, fun _ _ => rfl⟩, .inl rfl⟩

theorem openAt_run (reaches : tree.Reaches here work location)
    (free : tree.has (databaseName :: location) = false) :
    ∃ after, openAt here (Path.join work databaseName) tree = (.ok ⟨databaseName :: location, .empty⟩, after) ∧
      tree.Writes (databaseName :: location) (.database .empty) after := by
  refine ⟨_, ?_, .of_put (List.cons_ne_nil _ _) (Tree.isDirectory_eq_false free) _⟩
  rw [openAt_eq reaches, Tree.lookup?_eq_none free]
  rfl

end Database

end IssueQuery
