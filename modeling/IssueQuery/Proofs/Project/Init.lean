import IssueQuery.Proofs.Project.Discovery

/-!
Making a project. It is refused where there is one, and what it makes is found again.
-/

namespace IssueQuery

variable {tree after : Tree} {here location project : Location} {path name work : String}

theorem TreeAction.mapError_ok {ε ε' α : Type} {f : ε → ε'} {action : TreeAction ε α} {a : α}
    (run : action.mapError f tree = (.ok a, after)) : action tree = (.ok a, after) := by
  rw [mapError] at run
  obtain ⟨result, same⟩ := Prod.mk.inj run
  rw [← same, ← mapError_eq_ok.1 result]
  rfl

theorem TreeAction.mapError_run {ε ε' α : Type} {f : ε → ε'} {action : TreeAction ε α} {a : α}
    (run : action tree = (.ok a, after)) : action.mapError f tree = (.ok a, after) := by
  rw [mapError, run]
  rfl

theorem Location.apart {first second : String} (different : first ≠ second) {above : Location} :
    first :: above ≠ second :: above :=
  fun same => different (List.cons.inj same).1

namespace Project

theorem init_refused (found : tree.leadsSomewhere here (Path.join path workName) = true) :
    init here path tree = (.error (.alreadyInitialized (Path.join path workName)), tree) := by
  rw [init]
  dsimp only
  rw [TreeAction.run_get, found]
  rfl

theorem furnished {made configured opened : Tree} {store : Store} (proper : made.Proper)
    (directory : made.isDirectory (workName :: project) = true)
    (config : made.Writes (configName :: workName :: project) (.text Config.initial.written) configured)
    (database : configured.Writes (databaseName :: workName :: project) (.database store) opened)
    (ignored : opened.Writes (ignoreName :: workName :: project) (.text ignoreText) after) :
    after.Proper ∧ made.KeepsDirectories after ∧ after.IsProject project store := by
  have inConfigured := config.directories _ directory
  have inOpened := database.directories _ inConfigured
  have properConfigured := config.proper proper (by decide) directory
  have properOpened := database.proper properConfigured (by decide) inConfigured
  refine ⟨ignored.proper properOpened (by decide) inOpened, ?_, ignored.directories _ inOpened, ?_, ?_⟩
  · exact fun location there => ignored.directories _ (database.directories _ (config.directories _ there))
  · rw [ignored.others _ (Location.apart (by decide)), database.others _ (Location.apart (by decide)), config.content]
  · rw [ignored.others _ (Location.apart (by decide)), database.content]

theorem init_ok (proper : tree.Proper) (start : tree.isDirectory here = true)
    (run : init here path tree = (.ok work, after)) :
    work = Path.join path workName ∧ tree.leadsSomewhere here (Path.join path workName) = false ∧ after.Proper ∧
      tree.KeepsDirectories after ∧
      ∃ project store, after.base here path = .ok project ∧ after.isDirectory project = true ∧
        after.IsProject project store ∧
        (tree.has (workName :: project) = false → store = .empty ∧ tree.Keeps after) := by
  cases found : tree.leadsSomewhere here (Path.join path workName) with
  | true =>
    rw [init_refused found] at run
    cases run
  | false =>
    rw [init] at run
    dsimp only at run
    rw [TreeAction.run_get, found] at run
    obtain ⟨_, made, making, run⟩ := TreeAction.ok_of_bind run
    obtain ⟨grows, project, base, inside, directory⟩ :=
      TreeAction.makeDirectories_ok proper start (by decide) (TreeAction.mapError_ok making)
    have reaches := Tree.reaches_join base (by decide) inside directory
    obtain ⟨_, configured, writing, run⟩ := TreeAction.ok_of_bind run
    have config := TreeAction.writeText_ok (reaches.resolve_join (by decide)) directory (TreeAction.mapError_ok writing)
    replace reaches := reaches.mono config.directories
    obtain ⟨_, _, reading, run⟩ := TreeAction.ok_of_bind run
    rw [TreeAction.run_of, Tree.readConfig_initial reaches config.content] at reading
    cases reading
    obtain ⟨database, opened, opening, run⟩ := TreeAction.ok_of_bind run
    obtain ⟨database, old⟩ := Database.openAt_ok reaches opening
    replace reaches := reaches.mono database.directories
    obtain ⟨_, _, ignoring, run⟩ := TreeAction.ok_of_bind run
    have ignored := TreeAction.writeText_ok (reaches.resolve_join (by decide)) reaches.directory
      (TreeAction.mapError_ok ignoring)
    cases run
    obtain ⟨properAfter, keeps, is⟩ := furnished grows.proper directory config database ignored
    refine ⟨rfl, rfl, properAfter, ?_, project, _, keeps.walk base, keeps project inside, is, ?_⟩
    · exact fun location there => keeps location (grows.keeps.directories location there)
    intro free
    have absent := proper.absent free
    refine ⟨old.resolve_left fun found => ?_, ?_⟩
    -- only directories have been added before the database was opened
    · rw [config.others _ (Location.apart (by decide))] at found
      have added := grows.added (absent databaseName) (Tree.has_of_lookup? found)
      rw [Tree.isDirectory_iff, found] at added
      cases added
    · exact ignored.keeps (database.keeps (config.keeps grows.keeps (absent _)) (absent _)) (absent _)

/-- In a directory without a work directory a project is made. -/
theorem init_run (proper : tree.Proper) (base : tree.base here path = .ok project)
    (inside : tree.isDirectory project = true) (free : tree.has (workName :: project) = false) :
    ∃ after, init here path tree = (.ok (Path.join path workName), after) := by
  have entry : Path.IsEntry workName := by decide
  have found : tree.leadsSomewhere here (Path.join path workName) = false := by
    rw [Tree.leadsSomewhere_join base inside entry, free]
  have below : ∀ name, name :: workName :: project ≠ workName :: project :=
    fun name same => absurd (congrArg List.length same) (by simp)
  have absent := proper.absent free
  -- the work directory and then its files, each where nothing was
  obtain ⟨made, making, directory⟩ := TreeAction.makeDirectories_run base inside entry free
  have reaches := Tree.reaches_join (directory.directories.walk base) entry (directory.directories _ inside)
    (Tree.isDirectory_iff.2 directory.content)
  have free := fun name => directory.absent (below name) (absent name)
  obtain ⟨configured, configuring, config⟩ := TreeAction.writeText_run Config.initial.written
    (reaches.resolve_join (by decide)) reaches.directory (free configName)
  replace reaches := reaches.mono config.directories
  have reading : TreeAction.of (fun tree => tree.readConfig here (Path.join path workName)) configured =
      (.ok Config.initial, configured) := by
    rw [TreeAction.run_of, Tree.readConfig_initial reaches config.content]
  obtain ⟨opened, opening, database⟩ := Database.openAt_run reaches
    (config.absent (Location.apart (by decide)) (free databaseName))
  replace opening :
      Database.openAt here (Config.initial.databasePath (Path.join path workName)) configured = _ := opening
  replace reaches := reaches.mono database.directories
  obtain ⟨after, ignoring, -⟩ := TreeAction.writeText_run ignoreText (reaches.resolve_join (by decide))
    reaches.directory
      (database.absent (Location.apart (by decide)) (config.absent (Location.apart (by decide)) (free ignoreName)))
  refine ⟨after, ?_⟩
  rw [init]
  dsimp only
  rw [TreeAction.run_get, found, if_neg Bool.false_ne_true, TreeAction.bind_of_ok (TreeAction.mapError_run making),
    TreeAction.bind_of_ok (TreeAction.mapError_run configuring), TreeAction.bind_of_ok reading,
    TreeAction.bind_of_ok opening, TreeAction.bind_of_ok (TreeAction.mapError_run ignoring)]
  rfl

/-- Only a path that goes up from what is not there can take over a project. -/
theorem taken_over (proper : tree.Proper) (keeps : tree.KeepsDirectories after)
    (refused : tree.leadsSomewhere here (Path.join path workName) = false) (base : after.base here path = .ok project)
    (taken : tree.has (workName :: project) = true) :
    ".." ∈ Path.pieces path ∧ ∀ other, tree.directory here (Path.join path ".") ≠ .ok other := by
  have missing : ∀ other, tree.directory here (Path.join path ".") ≠ .ok other := by
    intro other found
    obtain ⟨before, inside⟩ := Tree.directory_point.1 found
    obtain rfl : other = project := Except.ok.inj ((keeps.walk before).symm.trans base)
    rw [Tree.leadsSomewhere_join before inside (by decide), taken] at refused
    cases refused
  refine ⟨?_, missing⟩
  by_contra down
  have below : ".." ∉ (Tree.begins here (Path.outer path)).2 :=
    fun member => down (Path.mem_of_mem_outer (Tree.mem_of_mem_begins member))
  have inside := proper.inside taken
  have location := Tree.walk_down below base
  have found := proper.walk_below below (location ▸ inside)
  rw [← location] at found
  exact missing project (Tree.directory_point.2 ⟨found, inside⟩)

/-- The search for a project finds the nearest one, or reports that there is none. A project is made of a directory
exactly if nothing there has the name of a work directory, and what was made is found from it and from below, with the
configuration that new projects have and its own database. Where a project was there before, it is refused and nothing
changes, unless the path goes up from what is not there. -/
theorem init_discovered (proper : tree.Proper) :
    (∀ here,
      (∀ work, tree.workDirectory here = .ok work ↔
        ∃ project, work = workName :: project ∧ tree.Nearest here project) ∧
      ∀ e, tree.workDirectory here = .error e ↔
        e = .notInitialized ∧ ∀ project, project <:+ here → tree.isDirectory (workName :: project) = false) ∧
    ∀ here path, tree.isDirectory here = true →
      (∀ project, tree.directory here (Path.join path ".") = .ok project →
        (tree.has (workName :: project) = true →
          init here path tree = (.error (.alreadyInitialized (Path.join path workName)), tree)) ∧
        (tree.has (workName :: project) = false →
          ∃ after, init here path tree = (.ok (Path.join path workName), after))) ∧
      ∀ work after, init here path tree = (.ok work, after) →
        work = Path.join path workName ∧ after.Proper ∧
        ∃ project store, after.directory here (Path.join path ".") = .ok project ∧ after.Nearest project project ∧
          (∀ inner, after.Nearest inner project → openFrom inner after =
            (.ok (Config.initial, ⟨databaseName :: workName :: project, store⟩), after)) ∧
          (tree.has (workName :: project) = false → store = .empty ∧ tree.Keeps after) ∧
          (tree.has (workName :: project) = true →
            ".." ∈ Path.pieces path ∧ ∀ other, tree.directory here (Path.join path ".") ≠ .ok other) := by
  refine ⟨fun here => ⟨fun work => Tree.workDirectory_eq_ok, fun e => Tree.workDirectory_eq_error⟩, ?_⟩
  intro here path start
  constructor
  · intro project found
    obtain ⟨base, inside⟩ := Tree.directory_point.1 found
    have leads := Tree.leadsSomewhere_join base inside (show Path.IsEntry workName by decide)
    exact ⟨fun taken => init_refused (leads.trans taken), init_run proper base inside⟩
  · intro work after run
    obtain ⟨named, refused, properAfter, keeps, project, store, base, inside, is, fresh⟩ := init_ok proper start run
    refine ⟨named, properAfter, project, store, Tree.directory_point.2 ⟨base, inside⟩, Tree.nearest_self is.directory,
      fun inner nearest => is.openFrom properAfter nearest, fresh, taken_over proper keeps refused base⟩

end Project

def nestedTree : Tree :=
  ⟨[(["a"], .directory), ([".jql", "a"], .directory), (["b", "a"], .directory), ([".jql", "b", "a"], .text ""),
    (["c", "b", "a"], .directory)]⟩

theorem nestedTree_discovered :
    nestedTree.Proper ∧ nestedTree.Nearest ["c", "b", "a"] ["a"] ∧
      (∀ project, project <:+ ["d"] → nestedTree.isDirectory (workName :: project) = false) ∧
      Project.init [] "a/b" nestedTree = (.error (.alreadyInitialized "a/b/.jql"), nestedTree) ∧
      ∃ after, Project.init ["b", "a"] "c" nestedTree = (.ok "c/.jql", after) ∧
        Project.openFrom ["d", "c", "b", "a"] after =
          (.ok (Config.initial, ⟨["issues.db", ".jql", "c", "b", "a"], .empty⟩), after) := by
  have proper : nestedTree.Proper := Tree.proper_of_entries (by decide +kernel)
  obtain ⟨search, make⟩ := Project.init_discovered proper
  refine ⟨proper, ?_, ?_, ?_, ?_⟩
  · have found : nestedTree.workDirectory ["c", "b", "a"] = .ok [".jql", "a"] := by decide +kernel
    obtain ⟨project, same, nearest⟩ := ((search _).1 _).1 found
    obtain rfl : ["a"] = project := (List.cons.inj same).2
    exact nearest
  · have missed : nestedTree.workDirectory ["d"] = .error .notInitialized := by decide +kernel
    exact (((search _).2 _).1 missed).2
  · exact ((make [] "a/b" (by decide +kernel)).1 ["b", "a"] (by decide +kernel)).1 (by decide +kernel)
  · obtain ⟨directory, made⟩ := make ["b", "a"] "c" (by decide +kernel)
    obtain ⟨after, run⟩ := (directory ["c", "b", "a"] (by decide +kernel)).2 (by decide +kernel)
    obtain ⟨-, -, project, store, leads, -, opens, fresh, -⟩ := made _ _ run
    have place : (Project.init ["b", "a"] "c" nestedTree).2.directory ["b", "a"] "c/." = .ok ["c", "b", "a"] ∧
        (Project.init ["b", "a"] "c" nestedTree).2.workDirectory ["d", "c", "b", "a"] =
          .ok [".jql", "c", "b", "a"] := by
      decide +kernel
    rw [run] at place
    obtain rfl : project = ["c", "b", "a"] := Except.ok.inj (leads.symm.trans place.1)
    obtain ⟨other, same, nearest⟩ := Tree.workDirectory_eq_ok.1 place.2
    obtain rfl : ["c", "b", "a"] = other := (List.cons.inj same).2
    rw [(fresh (by decide +kernel)).1] at opens
    exact ⟨after, run, opens _ nearest⟩

def settledTree : Tree :=
  ⟨[(["b"], .directory), ([".jql", "b"], .directory),
    (["config.toml", ".jql", "b"], .text "database = \"issues.db\"\n")]⟩

/-- Behind a directory that is yet to be made, the project is not seen and its configuration is lost. -/
theorem settledTree_taken :
    settledTree.has [".jql", "b"] = true ∧
      (Project.init [] "missing/../b" settledTree).1 = .ok "missing/../b/.jql" ∧
      (Project.init [] "missing/../b" settledTree).2.directory [] "missing/../b" = .ok ["b"] ∧
      (Project.init [] "missing/../b" settledTree).2.lookup? ["config.toml", ".jql", "b"] ≠
        settledTree.lookup? ["config.toml", ".jql", "b"] := by
  decide +kernel

end IssueQuery
