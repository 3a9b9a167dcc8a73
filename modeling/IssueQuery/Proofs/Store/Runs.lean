import IssueQuery.Command.Search
import IssueQuery.Proofs.Store.Chronology
import Mathlib.Data.List.Induction

/-!
Runs of a store. An insertion adds its issue under the next id, and nothing else changes the store, so that every
issue stays as it was inserted. It is given back with its times as their clocks show them.
-/

namespace IssueQuery

inductive Operation where
  | insert (issue : Issue)
  | create (draft : Draft) (now : Instant)
  | get (id : Int)
  | count
  | find (filter : Filter) (limit : Option Nat) (course : Course)
  | migrate

inductive Answer where
  | stored (id : Int)
  | failed (error : CommandError)
  | issue (issue : Issue)
  | count (count : Nat)
  | issues (issues : List Issue)
  | done
  deriving DecidableEq

def Answer.id? : Answer → Option Int
  | stored id => some id
  | _ => none

def Operation.issue? : Operation → Option Issue
  | insert issue => some issue
  | create draft now => (draft.toIssue now).toOption
  | _ => none

def Operation.inserted (operations : List Operation) : List Issue :=
  operations.filterMap issue?

theorem Operation.inserted_concat (operations : List Operation) (operation : Operation) :
    inserted (operations ++ [operation]) = inserted operations ++ operation.issue?.toList := by
  rw [inserted, List.filterMap_append, inserted]
  cases inserts : operation.issue? <;> simp [inserts]

namespace Store

def step (store : Store) : Operation → Answer × Store
  | .insert issue => (.stored (store.insert issue).1, (store.insert issue).2)
  | .create draft now =>
    match store.create draft now with
    | .ok (id, next) => (.stored id, next)
    | .error error => (.failed error, store)
  | .get id =>
    match store.get id with
    | .ok issue => (.issue issue, store)
    | .error error => (.failed (.failure error), store)
  | .count => (.count store.count, store)
  | .find filter limit course =>
    match store.findWithin filter limit course with
    | .ok issues => (.issues issues, store)
    | .error error => (.failed (.failure error), store)
  | .migrate => (.done, migrate (some store))

def run (operations : List Operation) (store : Store) : List Answer × Store :=
  match operations with
  | [] => ([], store)
  | operation :: rest =>
    let (answer, next) := store.step operation
    let (answers, last) := run rest next
    (answer :: answers, last)

theorem run_concat (operations : List Operation) (operation : Operation) (store : Store) :
    run (operations ++ [operation]) store =
      ((run operations store).1 ++ [((run operations store).2.step operation).1],
        ((run operations store).2.step operation).2) := by
  induction operations generalizing store with
  | nil => rfl
  | cons first rest ih =>
    simp only [List.cons_append, run, ih]

/-- An insertion is answered with the next id and adds its issue. -/
theorem step_inserts (issues : List Issue) {operation : Operation} {issue : Issue}
    (inserts : operation.issue? = some issue) :
    (holding issues).step operation = (.stored ((issues.length : Int) + 1), holding (issues ++ [issue])) := by
  cases operation with
  | insert given =>
    cases inserts
    rw [step, insert_holding]
  | create draft now =>
    rw [Operation.issue?] at inserts
    cases made : draft.toIssue now with
    | error e =>
      rw [made] at inserts
      cases inserts
    | ok given =>
      rw [made] at inserts
      cases inserts
      rw [step, create_holding, made]
      rfl
  | _ => cases inserts

/-- Whatever inserts nothing leaves the store as it is. -/
theorem step_reads (store : Store) {operation : Operation} (reads : operation.issue? = none) :
    (store.step operation).1.id? = none ∧ (store.step operation).2 = store := by
  cases operation with
  | insert given => cases reads
  | create draft now =>
    rw [Operation.issue?] at reads
    rw [step, create]
    cases made : draft.toIssue now with
    | error e => exact ⟨rfl, rfl⟩
    | ok given =>
      rw [made] at reads
      cases reads
  | get id =>
    rw [step]
    cases store.get id <;> exact ⟨rfl, rfl⟩
  | find filter limit course =>
    rw [step]
    cases store.findWithin filter limit course <;> exact ⟨rfl, rfl⟩
  | count | migrate => exact ⟨rfl, rfl⟩

/-- An operation of these has inserted an issue, which is at the place of this id. -/
def Placed (operations : List Operation) (i : Nat) (id : Int) : Prop :=
  ∃ operation issue, ∃ place : Nat, operations[i]? = some operation ∧ operation.issue? = some issue ∧
    (Operation.inserted operations)[place]? = some issue ∧ id = (place : Int) + 1

/-- The store holds what has been inserted, under the ids that were answered. -/
structure Kept (operations : List Operation) (answers : List Answer) (store : Store) : Prop where
  held : store = holding (Operation.inserted operations)
  answered : answers.length = operations.length
  ids : answers.filterMap Answer.id? =
    (List.range (Operation.inserted operations).length).map fun place : Nat => (place : Int) + 1
  placed : ∀ (i : Nat) (id : Int), answers[i]? = some (.stored id) → Placed operations i id

theorem Placed.concat {operations : List Operation} {i : Nat} {id : Int} (placed : Placed operations i id)
    (operation : Operation) : Placed (operations ++ [operation]) i id := by
  obtain ⟨earlier, issue, place, found, inserts, there, same⟩ := placed
  refine ⟨earlier, issue, place, ?_, inserts, ?_, same⟩
  · rw [List.getElem?_append_left (List.getElem?_eq_some_iff.1 found).1, found]
  · rw [Operation.inserted_concat, List.getElem?_append_left (List.getElem?_eq_some_iff.1 there).1, there]

theorem getElem?_concat_eq_some {α : Type} {list : List α} {last a : α} {i : Nat}
    (found : (list ++ [last])[i]? = some a) : list[i]? = some a ∨ i = list.length ∧ last = a := by
  rw [List.getElem?_append] at found
  split at found
  · exact .inl found
  · rw [List.getElem?_singleton] at found
    split at found
    · exact .inr ⟨by omega, Option.some.inj found⟩
    · cases found

/-- One more operation adds its issue, if it inserts one, and is answered by the id of the place. -/
theorem Kept.step {operations : List Operation} {answers : List Answer} {store : Store}
    (kept : Kept operations answers store) (operation : Operation) :
    Kept (operations ++ [operation]) (answers ++ [(store.step operation).1]) (store.step operation).2 := by
  obtain ⟨rfl, answered, ids, placed⟩ := kept
  have more := Operation.inserted_concat operations operation
  cases inserts : operation.issue? with
  | some issue =>
    rw [inserts] at more
    rw [step_inserts _ inserts]
    refine ⟨congrArg holding more.symm, by simp [answered], ?_, ?_⟩
    · rw [List.filterMap_append, ids, more, List.length_append, Option.toList_some, List.length_singleton,
        List.range_succ, List.map_append]
      rfl
    · intro i id answer
      rcases getElem?_concat_eq_some answer with earlier | ⟨rfl, same⟩
      · exact (placed i id earlier).concat operation
      · cases same
        refine ⟨operation, issue, (Operation.inserted operations).length, ?_, inserts, ?_, rfl⟩
        · rw [answered, List.getElem?_concat_length]
        · rw [more, Option.toList_some, List.getElem?_concat_length]
  | none =>
    obtain ⟨unnumbered, unchanged⟩ := step_reads (holding (Operation.inserted operations)) inserts
    rw [inserts, Option.toList_none, List.append_nil] at more
    rw [unchanged]
    refine ⟨congrArg holding more.symm, by simp [answered], ?_, ?_⟩
    · rw [List.filterMap_append, ids, more]
      simp [unnumbered]
    · intro i id answer
      rcases getElem?_concat_eq_some answer with earlier | ⟨_, same⟩
      · exact (placed i id earlier).concat operation
      · rw [same] at unnumbered
        cases unnumbered

theorem run_kept (operations : List Operation) :
    Kept operations (run operations (migrate none)).1 (run operations (migrate none)).2 := by
  induction operations using List.reverseRecOn with
  | nil => exact ⟨rfl, rfl, rfl, nofun⟩
  | append_singleton operations operation ih =>
    rw [run_concat]
    exact ih.step operation

theorem get_holding_missing {issues : List Issue} {id : Int}
    (missing : ∀ place : Nat, place < issues.length → id ≠ (place : Int) + 1) :
    (holding issues).get id = .error (.issueNotFound id) := by
  have absent : (holding issues).rows.find? (fun row => row.id == id) = none := by
    rw [List.find?_eq_none]
    intro row member
    obtain ⟨place, inside, rfl⟩ := List.mem_mapIdx.1 member
    exact fun same => missing place inside (beq_iff_eq.1 same).symm
  rw [get, absent]

/-- A store keeps every issue that any run of operations on a new database inserts, and what inserts nothing changes
nothing. An issue with years of four digits is given back with its times as their clocks show them, so without any
change exactly if its leap seconds are at the ends of minutes. All prefixes of a run are runs, so this holds at each of
its steps. -/
theorem run_keeps (operations : List Operation) {answers : List Answer} {store : Store}
    (ran : run operations (migrate none) = (answers, store)) :
    answers.filterMap Answer.id? = (List.range store.count).map (fun place : Nat => (place : Int) + 1) ∧
    (∀ (i : Nat) (id : Int), answers[i]? = some (.stored id) → ∃ operation issue,
      operations[i]? = some operation ∧ operation.issue? = some issue ∧
        (issue.Readable → store.get id = .ok { issue.settled with id := id }) ∧
        (issue.Readable → (store.get id = .ok { issue with id := id } ↔ issue.HasPlainSeconds))) ∧
    (∀ id, .stored id ∉ answers → store.get id = .error (.issueNotFound id)) ∧
    ∀ operation, run (operations ++ [operation]) (migrate none) =
        (answers ++ [(store.step operation).1], (store.step operation).2) ∧
      (operation.issue?.isSome → (store.step operation).1 = .stored ((store.count : Int) + 1)) ∧
      ((∀ id, (store.step operation).1 ≠ .stored id) → (store.step operation).2 = store) := by
  have kept := run_kept operations
  have longer := fun operation => run_concat operations operation (migrate none)
  rw [ran] at kept longer
  obtain ⟨rfl, _, ids, placed⟩ := kept
  have count : (holding (Operation.inserted operations)).count = (Operation.inserted operations).length := by
    simp [Store.count, holding]
  refine ⟨count ▸ ids, ?_, ?_, ?_⟩
  · intro i id answer
    obtain ⟨operation, issue, place, found, inserts, there, rfl⟩ := placed i id answer
    have given := (get_holding_iff there).1.2
    refine ⟨operation, issue, found, inserts, given, fun readable => ?_⟩
    rw [given readable, Except.ok.injEq]
    have same := @Issue.with_id_inj issue.settled issue ((place : Int) + 1) rfl
    exact same.trans Issue.settled_eq_self
  · intro id absent
    refine get_holding_missing fun place inside same => absent ?_
    have numbered : id ∈ answers.filterMap Answer.id? := by
      rw [ids]
      exact List.mem_map.2 ⟨place, List.mem_range.2 inside, same.symm⟩
    obtain ⟨answer, member, found⟩ := List.mem_filterMap.1 numbered
    cases answer with
    | stored other =>
      cases found
      exact member
    | _ => cases found
  · intro operation
    refine ⟨longer operation, ?_⟩
    cases inserts : operation.issue? with
    | none =>
      refine ⟨fun some => ?_, fun _ => (step_reads _ inserts).2⟩
      cases some
    | some issue =>
      rw [step_inserts _ inserts, count]
      exact ⟨fun _ => rfl, fun unnumbered => absurd rfl (unnumbered _)⟩

def leapIssue : Issue :=
  { Issue.new "a" (moment "2016-12-31T23:59:60.123456789Z") with id := 9, resolved := some newYear }

/-- A refused draft, a search that is too slow and a second migration, between two insertions. -/
def mixedRun : List Operation :=
  [.insert leapIssue, .create ⟨"b", none, " ", "low", none, none⟩ newYear, .get 1, .count,
    .find ⟨none, [], []⟩ (some 5000000) { unprepared := some .interrupted, expired := true }, .migrate,
    .create ⟨" c ", none, "open", "low", none, none⟩ newYear]

theorem mixedRun_keeps :
    (run mixedRun (migrate none)).1 =
        [.stored 1, .failed (.fieldEmpty "status"), .issue { leapIssue with id := 1 }, .count 1,
          .failed (.failure (.queryTimeout 5)), .done, .stored 2] ∧
      (run mixedRun (migrate none)).2.count = 2 ∧
      (run mixedRun (migrate none)).2.get 1 = .ok { leapIssue with id := 1 } ∧
      (run mixedRun (migrate none)).2.get 9 = .error (.issueNotFound 9) := by
  have answers : (run mixedRun (migrate none)).1 =
      [.stored 1, .failed (.fieldEmpty "status"), .issue { leapIssue with id := 1 }, .count 1,
        .failed (.failure (.queryTimeout 5)), .done, .stored 2] := by
    decide +kernel
  obtain ⟨ids, kept, missing, _⟩ :=
    @run_keeps mixedRun (run mixedRun (migrate none)).1 (run mixedRun (migrate none)).2 rfl
  rw [answers] at ids kept missing
  refine ⟨answers, ?_, ?_, missing 9 (by decide)⟩
  · have counted := congrArg List.length ids
    rw [List.length_map, List.length_range] at counted
    exact counted.symm
  · obtain ⟨operation, issue, found, inserts, _, back⟩ := kept 0 1 rfl
    cases found
    cases inserts
    exact (back ⟨by decide +kernel, by decide +kernel, by decide +kernel⟩).2
      ⟨by decide +kernel, by decide +kernel, by decide +kernel⟩

/-- What was created a second and a half past noon, counted in nanoseconds, is given back as created in a later
second. -/
theorem longNoon_moved :
    (Issue.new "a" longNoon).createdAt.HasPlainYear ∧
      (run [.insert (Issue.new "a" longNoon)] (migrate none)).1 = [.stored 1] ∧
      ∃ issue, (run [.insert (Issue.new "a" longNoon)] (migrate none)).2.get 1 = .ok issue ∧
        issue.createdAt = moment "2024-03-01T12:00:01.5Z" ∧ issue.createdAt ≠ longNoon := by
  refine ⟨by decide +kernel, by decide +kernel, { (Issue.new "a" longNoon).settled with id := 1 }, ?_⟩
  decide +kernel

end Store

end IssueQuery
