import IssueQuery.Proofs.Project.Growth

/-!
Finding projects and making them. A command works on the nearest project around it, and what has been made a project is
found from it and from below until another project is nearer.
-/

namespace IssueQuery

namespace Tree

/-- The nearest project around a location: any other one around it is around that project. -/
structure Nearest (tree : Tree) (here project : Location) : Prop where
  around : project <:+ here
  holds : tree.isDirectory (workName :: project) = true
  least : ∀ other, other <:+ here → tree.isDirectory (workName :: other) = true → other <:+ project

variable {tree after : Tree} {here work project : Location}

theorem nearest_self (holds : tree.isDirectory (workName :: project) = true) : tree.Nearest project project :=
  ⟨List.suffix_refl project, holds, fun _ around _ => around⟩

theorem Nearest.of_above {name : String} (nearest : tree.Nearest here project)
    (absent : tree.isDirectory (workName :: name :: here) = false) : tree.Nearest (name :: here) project := by
  refine ⟨nearest.around.trans (List.suffix_cons name here), nearest.holds, ?_⟩
  intro other around holds
  rcases List.suffix_cons_iff.1 around with rfl | above
  · rw [absent] at holds
    cases holds
  · exact nearest.least other above holds

/-- The search goes up until there is a work directory. -/
theorem workDirectory?_cases (tree : Tree) (here : Location) :
    (∃ project, tree.workDirectory? here = some (workName :: project) ∧ tree.Nearest here project) ∨
      tree.workDirectory? here = none ∧
        ∀ project, project <:+ here → tree.isDirectory (workName :: project) = false := by
  induction here with
  | nil =>
    rw [workDirectory?]
    cases holds : tree.isDirectory [workName] with
    | true => exact .inl ⟨[], rfl, nearest_self holds⟩
    | false =>
      refine .inr ⟨rfl, fun project around => ?_⟩
      rw [List.suffix_nil.1 around, holds]
  | cons name above ih =>
    rw [workDirectory?]
    cases holds : tree.isDirectory (workName :: name :: above) with
    | true => exact .inl ⟨name :: above, rfl, nearest_self holds⟩
    | false =>
      rcases ih with ⟨project, found, nearest⟩ | ⟨none, absent⟩
      · exact .inl ⟨project, found, nearest.of_above holds⟩
      · refine .inr ⟨none, fun project around => ?_⟩
        rcases List.suffix_cons_iff.1 around with rfl | outer
        · exact holds
        · exact absent project outer

theorem Nearest.unique {other : Location} (nearest : tree.Nearest here project) (second : tree.Nearest here other) :
    project = other := by
  have first := second.least project nearest.around nearest.holds
  have last := nearest.least other second.around second.holds
  exact first.eq_of_length (Nat.le_antisymm first.length_le last.length_le)

theorem workDirectory_eq_ok : tree.workDirectory here = .ok work ↔
    ∃ project, work = workName :: project ∧ tree.Nearest here project := by
  rw [workDirectory]
  rcases tree.workDirectory?_cases here with ⟨project, found, nearest⟩ | ⟨none, absent⟩
  · rw [found]
    constructor
    · intro same
      exact ⟨project, (Except.ok.inj same).symm, nearest⟩
    · rintro ⟨other, rfl, second⟩
      rw [nearest.unique second]
  · rw [none]
    constructor
    · intro same
      cases same
    · rintro ⟨project, -, nearest⟩
      have holds := nearest.holds
      rw [absent project nearest.around] at holds
      cases holds

theorem workDirectory_eq_error {e : CommandError} : tree.workDirectory here = .error e ↔
    e = .notInitialized ∧ ∀ project, project <:+ here → tree.isDirectory (workName :: project) = false := by
  rw [workDirectory]
  rcases tree.workDirectory?_cases here with ⟨project, found, nearest⟩ | ⟨none, absent⟩
  · rw [found]
    constructor
    · intro same
      cases same
    · rintro ⟨-, absent⟩
      have holds := nearest.holds
      rw [absent project nearest.around] at holds
      cases holds
  · rw [none]
    constructor
    · intro same
      exact ⟨(Except.error.inj same).symm, absent⟩
    · rintro ⟨rfl, -⟩
      rfl

structure IsProject (tree : Tree) (project : Location) (store : Store) : Prop where
  directory : tree.isDirectory (workName :: project) = true
  config : tree.lookup? (configName :: workName :: project) = some (.text Config.initial.written)
  database : tree.lookup? (databaseName :: workName :: project) = some (.database store)

theorem readConfig_initial {location : Location} {path : String} (reaches : tree.Reaches here path location)
    (config : tree.lookup? (configName :: location) = some (.text Config.initial.written)) :
    tree.readConfig here path = .ok Config.initial := by
  have entry : Path.IsEntry configName := by decide
  have text : tree.readText here (Path.join path configName) = .ok Config.initial.written := by
    rw [readText, find, reaches.resolve_join entry]
    simp only [bind, Except.bind, config]
  have read : Config.read? Config.initial.written = some Config.initial := by decide +kernel
  rw [readConfig, text]
  dsimp only
  rw [read]

/-- From around a project its database is opened, and nothing changes. -/
theorem IsProject.openFrom {store : Store} (is : tree.IsProject project store) (proper : tree.Proper)
    (nearest : tree.Nearest here project) :
    Project.openFrom here tree = (.ok (Config.initial, ⟨databaseName :: workName :: project, store⟩), tree) := by
  have reaches := proper.reaches_path (List.cons_ne_nil workName project) is.directory here
  have settings : Project.settings tree here =
      .ok (Config.initial, Path.join (Location.path (workName :: project)) databaseName) := by
    rw [Project.settings, workDirectory_eq_ok.2 ⟨project, rfl, nearest⟩]
    simp only [bind, Except.bind, readConfig_initial reaches is.config]
    rfl
  have opened := Database.openAt_eq reaches
  rw [is.database] at opened
  rw [Project.openFrom, TreeAction.run_bind, TreeAction.run_of, settings]
  change (Database.openAt here _ >>= _ : TreeAction CommandError _) tree = _
  rw [TreeAction.bind_of_ok opened]
  rfl

end Tree

end IssueQuery
