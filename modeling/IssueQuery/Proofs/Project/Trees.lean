import IssueQuery.Proofs.Project.Paths
import Mathlib.Data.List.Basic

/-!
Trees as they lie on a disk, and where paths lead in them. A path that leads somewhere still does when something is
added.
-/

namespace IssueQuery

namespace Tree

theorem isDirectory_iff {tree : Tree} {location : Location} :
    tree.isDirectory location = true ↔ tree.lookup? location = some .directory := by
  rw [isDirectory, beq_iff_eq]

theorem has_of_lookup? {tree : Tree} {location : Location} {entry : Entry}
    (found : tree.lookup? location = some entry) : tree.has location = true :=
  Option.isSome_of_eq_some found

theorem has_of_isDirectory {tree : Tree} {location : Location} (directory : tree.isDirectory location = true) :
    tree.has location = true :=
  has_of_lookup? (isDirectory_iff.1 directory)

theorem isDirectory_eq_false {tree : Tree} {location : Location} (free : tree.has location = false) :
    tree.isDirectory location = false := by
  rw [← Bool.not_eq_true]
  intro directory
  rw [has_of_isDirectory directory] at free
  cases free

theorem lookup?_eq_none {tree : Tree} {location : Location} (free : tree.has location = false) :
    tree.lookup? location = none :=
  Option.isSome_eq_false_iff.1 free |> Option.isNone_iff_eq_none.1

theorem lookup_filter {key other : Location} (different : other ≠ key) (entries : List (Location × Entry)) :
    (entries.filter fun entry => entry.1 != key).lookup other = entries.lookup other := by
  induction entries with
  | nil => rfl
  | cons entry rest ih =>
    by_cases same : entry.1 = key
    · rw [List.filter_cons_of_neg (by simpa using same), ih, List.lookup_cons, beq_eq_false_iff_ne.2 (same ▸ different)]
    · rw [List.filter_cons_of_pos (by simpa using same), List.lookup_cons, List.lookup_cons, ih]

theorem lookup?_put {tree : Tree} {location : Location} (inside : location ≠ []) (entry : Entry) (other : Location) :
    (tree.put location entry).lookup? other = if other = location then some entry else tree.lookup? other := by
  cases other with
  | nil => rw [if_neg inside.symm, lookup?, lookup?]
  | cons name above =>
    by_cases same : name :: above = location
    · rw [if_pos same, lookup?, put, List.lookup_cons, beq_iff_eq.2 same]
      exact List.cons_ne_nil name above
    · rw [if_neg same, lookup?, lookup?, put, List.lookup_cons, beq_eq_false_iff_ne.2 same]
      · exact lookup_filter same tree.entries
      · exact List.cons_ne_nil name above
      · exact List.cons_ne_nil name above

structure Proper (tree : Tree) : Prop where
  named : ∀ {name above}, tree.has (name :: above) = true → Path.IsEntry name
  inside : ∀ {name above}, tree.has (name :: above) = true → tree.isDirectory above = true

theorem proper_of_entries {tree : Tree} (checked : ∀ entry ∈ tree.entries, ∀ name ∈ entry.1.head?,
    Path.IsEntry name ∧ tree.isDirectory entry.1.tail = true) : tree.Proper := by
  have both : ∀ {name above}, tree.has (name :: above) = true →
      Path.IsEntry name ∧ tree.isDirectory above = true := by
    intro name above there
    obtain ⟨entry, found⟩ := Option.isSome_iff_exists.1 there
    rw [lookup?, List.lookup_eq_some_iff] at found
    · obtain ⟨before, after, same, -⟩ := found
      exact checked _ (same ▸ List.mem_append_right before List.mem_cons_self) name rfl
    · exact List.cons_ne_nil name above
  exact ⟨fun there => (both there).1, fun there => (both there).2⟩

/-- Where nothing is, nothing lies below. -/
theorem Proper.absent {tree : Tree} (proper : tree.Proper) {above : Location} (free : tree.has above = false)
    (name : String) : tree.has (name :: above) = false := by
  rw [← Bool.not_eq_true]
  intro there
  rw [has_of_isDirectory (proper.inside there)] at free
  cases free

theorem Proper.isDirectory_of_suffix {tree : Tree} (proper : tree.Proper) {location above : Location}
    (suffix : above <:+ location) (directory : tree.isDirectory location = true) : tree.isDirectory above = true := by
  obtain ⟨names, rfl⟩ := suffix
  induction names with
  | nil => exact directory
  | cons name names ih => exact ih (proper.inside (has_of_isDirectory directory))

def KeepsDirectories (tree after : Tree) : Prop :=
  ∀ location, tree.isDirectory location = true → after.isDirectory location = true

def Keeps (tree after : Tree) : Prop :=
  ∀ location entry, tree.lookup? location = some entry → after.lookup? location = some entry

theorem Keeps.trans {first second third : Tree} (before : first.Keeps second) (after : second.Keeps third) :
    first.Keeps third :=
  fun location entry found => after location entry (before location entry found)

theorem Keeps.has {tree after : Tree} (keeps : tree.Keeps after) {location : Location}
    (there : tree.has location = true) : after.has location = true := by
  obtain ⟨entry, found⟩ := Option.isSome_iff_exists.1 there
  exact has_of_lookup? (keeps location entry found)

theorem Keeps.directories {tree after : Tree} (keeps : tree.Keeps after) : tree.KeepsDirectories after :=
  fun location directory => isDirectory_iff.2 (keeps location _ (isDirectory_iff.1 directory))

structure Writes (tree : Tree) (location : Location) (entry : Entry) (after : Tree) : Prop where
  leaf : tree.isDirectory location = false
  content : after.lookup? location = some entry
  others : ∀ other, other ≠ location → after.lookup? other = tree.lookup? other

namespace Writes

variable {tree after : Tree} {location : Location} {entry : Entry}

theorem of_put (inside : location ≠ []) (leaf : tree.isDirectory location = false) (entry : Entry) :
    tree.Writes location entry (tree.put location entry) := by
  refine ⟨leaf, ?_, fun other different => ?_⟩
  · rw [lookup?_put inside, if_pos rfl]
  · rw [lookup?_put inside, if_neg different]

theorem absent (writes : tree.Writes location entry after) {other : Location} (different : other ≠ location)
    (free : tree.has other = false) : after.has other = false := by
  rwa [has, writes.others other different]

theorem directories (writes : tree.Writes location entry after) : tree.KeepsDirectories after := by
  intro other directory
  have different : other ≠ location := by
    rintro rfl
    rw [writes.leaf] at directory
    cases directory
  rw [isDirectory_iff, writes.others other different]
  exact isDirectory_iff.1 directory

/-- What is written into a directory leaves a tree. -/
theorem proper {name : String} {above : Location} (writes : tree.Writes (name :: above) entry after)
    (proper : tree.Proper) (named : Path.IsEntry name) (inside : tree.isDirectory above = true) : after.Proper := by
  have either : ∀ {name' above'}, after.has (name' :: above') = true →
      name' :: above' = name :: above ∨ tree.has (name' :: above') = true := by
    intro name' above' there
    by_cases same : name' :: above' = name :: above
    · exact .inl same
    · rw [has, writes.others _ same] at there
      exact .inr there
  constructor
  · intro name' above' there
    rcases either there with same | before
    · rw [(List.cons.inj same).1]
      exact named
    · exact proper.named before
  · intro name' above' there
    rcases either there with same | before
    · rw [(List.cons.inj same).2]
      exact writes.directories above inside
    · exact writes.directories above' (proper.inside before)

theorem keeps (writes : tree.Writes location entry after) {first : Tree} (keeps : first.Keeps tree)
    (free : first.has location = false) : first.Keeps after := by
  intro other content found
  rw [writes.others other]
  · exact keeps other content found
  · rintro rfl
    rw [has_of_lookup? found] at free
    cases free

end Writes

/-! Following a path. -/

theorem walk_append (tree : Tree) (here : Location) (first second : List String) :
    tree.walk here (first ++ second) = tree.walk here first >>= fun next => tree.walk next second := by
  induction first generalizing here with
  | nil => rfl
  | cons piece rest ih =>
    rw [List.cons_append, walk, walk]
    cases tree.lookup? here with
    | none => rfl
    | some entry =>
      cases entry with
      | directory =>
        dsimp only
        split
        · exact ih here
        · split
          · exact ih here.tail
          · exact ih (piece :: here)
      | text content => rfl
      | database store => rfl

variable {tree : Tree} {here location : Location} {pieces : List String}

def step (here : Location) (piece : String) : Location :=
  if Path.isIdle piece then here else if piece = ".." then here.tail else piece :: here

theorem step_idle {piece : String} (idle : Path.isIdle piece = true) (here : Location) : step here piece = here :=
  if_pos idle

theorem step_down {piece : String} (moves : Path.isIdle piece = false) (down : piece ≠ "..") (here : Location) :
    step here piece = piece :: here := by
  rw [step, moves, if_neg Bool.false_ne_true, if_neg down]

theorem walk_cons {piece : String} : tree.walk here (piece :: pieces) = .ok location ↔
    tree.isDirectory here = true ∧ tree.walk (step here piece) pieces = .ok location := by
  rw [walk, isDirectory_iff]
  cases found : tree.lookup? here with
  | none => simp
  | some entry =>
    cases entry with
    | directory =>
      simp only [true_and, step, beq_iff_eq]
      split
      · rfl
      · split <;> rfl
    | text content => simp
    | database store => simp

/-- Where a path leads depends on the directories on its way. -/
theorem KeepsDirectories.walk {after : Tree} (keeps : tree.KeepsDirectories after)
    (walked : tree.walk here pieces = .ok location) : after.walk here pieces = .ok location := by
  induction pieces generalizing here with
  | nil => exact walked
  | cons piece rest ih =>
    rw [walk_cons] at walked ⊢
    exact ⟨keeps here walked.1, ih walked.2⟩

theorem walk_name {name : String} (entry : Path.IsEntry name) :
    tree.walk here [name] = .ok location ↔ tree.isDirectory here = true ∧ location = name :: here := by
  rw [walk_cons, step_down entry.moves entry.down, walk, Except.ok.injEq, @eq_comm _ location]

theorem walk_point : tree.walk here ["."] = .ok location ↔ tree.isDirectory here = true ∧ location = here := by
  rw [walk_cons, step_idle (by decide), walk, Except.ok.injEq, @eq_comm _ location]

/-- On the way to a directory idle pieces do not count. -/
theorem walk_filter (directory : tree.isDirectory location = true) :
    tree.walk here (pieces.filter fun piece => !Path.isIdle piece) = .ok location ↔
      tree.walk here pieces = .ok location := by
  induction pieces generalizing here with
  | nil => exact Iff.rfl
  | cons piece rest ih =>
    cases idle : Path.isIdle piece with
    | true =>
      rw [List.filter_cons_of_neg (by simp [idle]), walk_cons, step_idle idle, ih]
      refine ⟨fun walked => ⟨?_, walked⟩, And.right⟩
      cases rest with
      | nil =>
        cases walked
        exact directory
      | cons next rest => exact (walk_cons.1 walked).1
    | false => rw [List.filter_cons_of_pos (by simp [idle]), walk_cons, walk_cons, ih]

theorem Proper.has_step (proper : tree.Proper) (there : tree.has here = true) {piece : String}
    (leads : Path.isIdle piece = true ∨ piece = "..") : tree.has (step here piece) = true := by
  unfold step
  split
  · exact there
  · next moves =>
    rw [if_pos (leads.resolve_left moves)]
    cases here with
    | nil => exact there
    | cons name above => exact has_of_isDirectory (proper.inside there)

/-- A path that leads to nothing ends with a name for it in a directory. -/
theorem Proper.missing_of_walk (proper : tree.Proper) (start : tree.has here = true)
    (walked : tree.walk here pieces = .ok location) (missing : tree.has location = false) :
    ∃ name above, location = name :: above ∧ name ∈ pieces ∧ Path.isIdle name = false ∧ name ≠ ".." ∧
      tree.isDirectory above = true := by
  induction pieces generalizing here with
  | nil =>
    cases walked
    rw [start] at missing
    cases missing
  | cons piece rest ih =>
    obtain ⟨directory, walked⟩ := walk_cons.1 walked
    cases there : tree.has (step here piece) with
    | true =>
      obtain ⟨name, above, same, member, parts⟩ := ih there walked
      exact ⟨name, above, same, List.mem_cons_of_mem piece member, parts⟩
    | false =>
      have leads : ¬(Path.isIdle piece = true ∨ piece = "..") := by
        intro leads
        rw [proper.has_step start leads] at there
        cases there
      rw [not_or, Bool.not_eq_true] at leads
      rw [step_down leads.1 leads.2] at walked there
      cases rest with
      | nil => exact ⟨piece, here, (Except.ok.inj walked).symm, List.mem_cons_self, leads.1, leads.2, directory⟩
      | cons next rest =>
        rw [has_of_isDirectory (walk_cons.1 walked).1] at there
        cases there

def below (here : Location) (pieces : List String) : Location :=
  (pieces.filter fun piece => !Path.isIdle piece).reverse ++ here

theorem below_cons {piece : String} (down : piece ≠ "..") :
    below here (piece :: pieces) = below (step here piece) pieces := by
  cases idle : Path.isIdle piece with
  | true => rw [below, List.filter_cons_of_neg (by simp [idle]), step_idle idle, below]
  | false =>
    rw [below, List.filter_cons_of_pos (by simp [idle]), step_down idle down, List.reverse_cons, List.append_assoc]
    rfl

theorem walk_down (down : ".." ∉ pieces) (walked : tree.walk here pieces = .ok location) :
    location = below here pieces := by
  induction pieces generalizing here with
  | nil => exact (Except.ok.inj walked).symm
  | cons piece rest ih =>
    rw [List.mem_cons, not_or] at down
    rw [below_cons (Ne.symm down.1)]
    exact ih down.2 (walk_cons.1 walked).2

theorem Proper.walk_below (proper : tree.Proper) (down : ".." ∉ pieces)
    (directory : tree.isDirectory (below here pieces) = true) :
    tree.walk here pieces = .ok (below here pieces) := by
  induction pieces generalizing here with
  | nil => rfl
  | cons piece rest ih =>
    have start := proper.isDirectory_of_suffix (List.suffix_append _ here) directory
    rw [List.mem_cons, not_or] at down
    rw [below_cons (Ne.symm down.1)] at directory ⊢
    exact walk_cons.2 ⟨start, ih down.2 directory⟩

end Tree

end IssueQuery
