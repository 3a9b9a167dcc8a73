import IssueQuery.Proofs.Project.Growth
import IssueQuery.Proofs.Toml.Document

/-! Saved configurations. What was saved in a directory is what is loaded from there. -/

namespace IssueQuery

namespace Config

variable {config : Config}

def bindings (config : Config) : List Toml.Binding :=
  config.database.elim [] (fun path => [⟨databaseKey, Toml.written path.toList, .text path⟩]) ++
    config.timeout.elim [] (fun limit => [⟨timeoutKey, Nat.toDigits 10 limit, .integer limit⟩])

theorem written_eq (config : Config) : config.written = String.ofList (config.bindings.flatMap Toml.Binding.line) := by
  obtain ⟨database, timeout⟩ := config
  cases database <;> cases timeout <;> simp [written, bindings, Toml.Binding.line]

theorem sound_database (path : String) :
    Toml.Binding.Sound ⟨databaseKey, Toml.written path.toList, .text path⟩ := by
  have filled : databaseKey.toList ≠ [] := by decide
  have bare : databaseKey.toList.all Toml.isBareKey = true := by decide
  refine ⟨filled, List.all_eq_true.1 bare, fun c head => ?_, fun fuel rest => ?_⟩
  · obtain ⟨quote, more, front, rfl | rfl⟩ := Toml.written_starts path.toList
    all_goals
      rw [front] at head
      cases head
      rfl
  · have read := Toml.value?_written fuel path.toList rest
    rwa [String.ofList_toList] at read

theorem sound_timeout (limit : Nat) :
    Toml.Binding.Sound ⟨timeoutKey, Nat.toDigits 10 limit, .integer limit⟩ := by
  have filled : timeoutKey.toList ≠ [] := by decide
  have bare : timeoutKey.toList.all Toml.isBareKey = true := by decide
  refine ⟨filled, List.all_eq_true.1 bare, fun c head => ?_, fun fuel => Toml.value?_toDigits fuel limit⟩
  have digit : c.isDigit = true := Text.isDigit_toDigits (List.mem_of_mem_head? head)
  apply Toml.isBlank_of_isBareKey
  rw [Toml.isBareKey, Char.isAlphanum, digit, Bool.or_true]
  rfl

theorem sound_bindings (config : Config) : ∀ binding ∈ config.bindings, binding.Sound := by
  obtain ⟨database, timeout⟩ := config
  cases database <;> cases timeout <;> simp [bindings, sound_database, sound_timeout]

theorem nodup_keys (config : Config) : (config.bindings.map Toml.Binding.key).Nodup := by
  obtain ⟨database, timeout⟩ := config
  cases database <;> cases timeout <;> simp [bindings, databaseKey, timeoutKey]

theorem lookup_databaseKey (config : Config) :
    (config.bindings.map Toml.Binding.entry).lookup databaseKey = config.database.map Toml.Node.text := by
  have other : (databaseKey == timeoutKey) = false := by decide
  obtain ⟨database, timeout⟩ := config
  cases database <;> cases timeout <;> simp [bindings, Toml.Binding.entry, List.lookup_cons, other]

theorem lookup_timeoutKey (config : Config) :
    (config.bindings.map Toml.Binding.entry).lookup timeoutKey =
      config.timeout.map fun limit => Toml.Node.integer limit := by
  have other : (timeoutKey == databaseKey) = false := by decide
  obtain ⟨database, timeout⟩ := config
  cases database <;> cases timeout <;> simp [bindings, Toml.Binding.entry, List.lookup_cons, other]

theorem ofEntries?_bindings (bounded : ∀ limit ∈ config.timeout, limit < Nat.pow 2 64) :
    ofEntries? (config.bindings.map Toml.Binding.entry) = some config := by
  rw [ofEntries?, lookup_databaseKey, lookup_timeoutKey]
  obtain ⟨database, timeout⟩ := config
  cases timeout with
  | none => cases database <;> rfl
  | some limit =>
    have inside : 0 ≤ (limit : Int) ∧ (limit : Int).toNat < Nat.pow 2 64 :=
      ⟨Int.natCast_nonneg limit, bounded limit rfl⟩
    cases database
    all_goals
      dsimp only [Option.map, bind, Option.bind, pure]
      rw [if_pos inside]
      rfl

/-- The text of a configuration is read back as that configuration. -/
theorem read?_written (bounded : ∀ limit ∈ config.timeout, limit < Nat.pow 2 64) :
    read? config.written = some config := by
  rw [read?, written_eq, Toml.read?_lines config.sound_bindings config.nodup_keys]
  exact ofEntries?_bindings bounded

end Config

/-! Files. -/

variable {tree after : Tree} {here : Location} {path content : String}

theorem Tree.target_ok {location : Location} (written : tree.target here path = .ok location) :
    tree.resolve here path = .ok location ∧ tree.isDirectory location = false := by
  obtain ⟨place, resolved, chosen⟩ := ok_of_bind written
  cases found : tree.lookup? place with
  | none =>
    rw [found] at chosen
    dsimp only at chosen
    split at chosen <;> cases chosen
    exact ⟨resolved, isDirectory_eq_false (Option.isSome_eq_false_iff.2 (Option.isNone_iff_eq_none.2 found))⟩
  | some entry =>
    rw [found] at chosen
    cases entry with
    | directory => cases chosen
    | text content | database store =>
      cases chosen
      refine ⟨resolved, ?_⟩
      rw [isDirectory, found]
      rfl

theorem Tree.KeepsDirectories.resolve {location : Location} (keeps : tree.KeepsDirectories after)
    (resolved : tree.resolve here path = .ok location) : after.resolve here path = .ok location := by
  rw [Tree.resolve] at resolved ⊢
  split at resolved
  · cases resolved
  · next filled =>
    rw [if_neg filled]
    exact keeps.walk resolved

theorem TreeAction.readText_written (run : TreeAction.writeText here path content tree = (.ok (), after)) :
    after.readText here path = .ok content := by
  obtain ⟨made, middle, first, placed⟩ := ok_of_bind run
  rw [run_of] at first
  obtain ⟨wrote, rfl⟩ := Prod.mk.inj first
  obtain ⟨location, target, put⟩ := IssueQuery.ok_of_bind wrote
  obtain rfl : tree.put location (.text content) = made := Except.ok.inj put
  obtain rfl : tree.put location (.text content) = after := (Prod.mk.inj placed).2
  obtain ⟨resolved, leaf⟩ := Tree.target_ok target
  have inside : location ≠ [] := by
    rintro rfl
    cases leaf
  have writes := Tree.Writes.of_put inside leaf (.text content)
  rw [Tree.readText, Tree.find, writes.directories.resolve resolved]
  simp only [bind, Except.bind, writes.content]

/-- Saving a configuration in a directory and loading the configuration of that directory gives the same one, whatever
was there before. -/
theorem Config.readConfig_saved {config : Config} {work : String}
    (bounded : ∀ limit ∈ config.timeout, limit < Nat.pow 2 64)
    (saved : TreeAction.writeText here (Path.join work configName) config.written tree = (.ok (), after)) :
    ∃ loaded, after.readConfig here work = .ok loaded ∧ loaded = config ∧ loaded.timeLimit = config.timeLimit := by
  refine ⟨config, ?_, rfl, rfl⟩
  rw [Tree.readConfig, TreeAction.readText_written saved]
  dsimp only
  rw [Config.read?_written bounded]

def Config.awkward : Config where
  database := some "\n\"\"\"'''\\data\x01\r\n\"\""
  timeout := some 18446744073709551615

def configuredTree : Tree :=
  ⟨[([".jql"], .directory), (["config.toml", ".jql"], .text "query_timeout_ms = 250\n")]⟩

theorem Config.awkward_loaded :
    (∀ limit ∈ awkward.timeout, limit < Nat.pow 2 64) ∧
      ∃ after, TreeAction.writeText [] (Path.join ".jql" configName) awkward.written configuredTree = (.ok (), after) ∧
        ∃ loaded, after.readConfig [] ".jql" = .ok loaded ∧ loaded = awkward ∧
          loaded.timeLimit = awkward.timeLimit := by
  have bounded : ∀ limit ∈ awkward.timeout, limit < Nat.pow 2 64 := by
    intro limit same
    cases same
    decide
  have resolved : configuredTree.resolve [] (Path.join ".jql" configName) = .ok ["config.toml", ".jql"] := by
    decide +kernel
  have saved := (TreeAction.writeText_eq awkward.written resolved (by decide)).trans (if_neg (by decide))
  exact ⟨bounded, _, saved, readConfig_saved bounded saved⟩

end IssueQuery
