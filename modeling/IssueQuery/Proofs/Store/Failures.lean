import IssueQuery.Command.Explain
import IssueQuery.Command.Search
import IssueQuery.Proofs.Filter.Refusal
import IssueQuery.Proofs.Query.Client
import IssueQuery.Proofs.Store.Creation

/-!
Failures of searches. What is wrong with a query is found out before anything runs. Whatever fails from then on,
in the engine or in the rows, is reported as a failure of the execution, and no part of an answer is given.
-/

namespace IssueQuery
open EngineError (Handed)

/-! What comes through the engine. -/

theorem EngineError.execution_foreign (sql : String) (failure : EngineError String) :
    ∃ cause, failure.foreign.execution sql = .execution cause sql := by
  cases failure with
  | sql cause => exact ⟨cause, rfl⟩
  | conversion reason => exact ⟨.failed reason, rfl⟩

theorem fetchAll_append (first second : List (Except Handed Row)) :
    fetchAll (first ++ second) = (do
      let issues ← fetchAll first
      let others ← fetchAll second
      return issues ++ others) :=
  List.mapM_append

theorem fetchAll_ok (rows : List Row) :
    fetchAll (rows.map .ok) = (rows.mapM Row.read).mapError fun bad => .conversion (.inl bad.error) := by
  induction rows with
  | nil => rfl
  | cons row rest ih =>
    rw [fetchAll, List.map_cons, List.mapM_cons, List.mapM_cons, ← fetchAll, ih, Except.bind, Row.fetch]
    cases row.read with
    | error bad => rfl
    | ok issue => cases rest.mapM Row.read <;> rfl

theorem Row.fetch_error {row : Row} {error : Handed} (failed : row.fetch = .error error) :
    ∃ bad : BadTime, error = .conversion (.inl bad.error) := by
  obtain ⟨bad, _, rfl⟩ := mapError_eq_error.1 failed
  exact ⟨bad, rfl⟩

theorem fetchAll_error {served : List (Except Handed Row)} {error : Handed} (failed : fetchAll served = .error error) :
    .error error ∈ served ∨ ∃ bad : BadTime, error = .conversion (.inl bad.error) := by
  induction served with
  | nil => cases failed
  | cons row rest ih =>
    rw [fetchAll, List.mapM_cons] at failed
    rcases error_of_bind failed with first | ⟨issue, _, failed⟩
    · cases row with
      | error other =>
        cases first
        exact .inl List.mem_cons_self
      | ok row => exact .inr (Row.fetch_error first)
    · rcases error_of_bind failed with rest | ⟨issues, _, ended⟩
      · exact (ih rest).imp_left (List.mem_cons_of_mem row)
      · cases ended

namespace Course

/-- The engine hands out this many rows without a failure of its own. -/
structure Completes (course : Course) (count : Nat) : Prop where
  prepared : course.unprepared = none
  unbroken : ∀ place failure, course.broken = some (place, failure) → count < place

theorem fetchAll_serve {course : Course} {rows : List Row} {issues : List Issue} :
    fetchAll (course.serve rows) = .ok issues ↔ rows.mapM Row.read = .ok issues ∧
      ∀ place failure, course.broken = some (place, failure) → rows.length < place := by
  have whole : fetchAll (rows.map .ok) = .ok issues ↔ rows.mapM Row.read = .ok issues := by
    rw [fetchAll_ok, mapError_eq_ok]
  cases broken : course.broken with
  | none => simp [serve, broken, whole]
  | some ending =>
    obtain ⟨place, failure⟩ := ending
    simp only [serve, broken, Option.some.injEq, Prod.mk.injEq]
    by_cases reached : place ≤ rows.length
    · have spoiled : fetchAll ((rows.take place).map .ok ++ [.error failure.foreign]) ≠ .ok issues := by
        intro done
        rw [fetchAll_append] at done
        obtain ⟨_, _, done⟩ := ok_of_bind done
        obtain ⟨_, done, _⟩ := ok_of_bind done
        cases done
      rw [if_pos reached]
      exact ⟨fun done => absurd done spoiled, fun done => absurd (done.2 place failure ⟨rfl, rfl⟩) (by omega)⟩
    · rw [if_neg reached, List.append_nil, List.take_of_length_le (by omega), whole]
      refine ⟨fun done => ⟨done, ?_⟩, And.left⟩
      rintro _ _ ⟨rfl, -⟩
      omega

theorem serve_error {course : Course} {rows : List Row} {error : Handed} (handed : .error error ∈ course.serve rows) :
    ∃ failure : EngineError String, error = failure.foreign := by
  unfold serve at handed
  split at handed
  · simp at handed
  · next place failure _ =>
    rcases List.mem_append.1 handed with row | ending
    · obtain ⟨_, _, other⟩ := List.mem_map.1 row
      cases other
    · split at ending
      · exact ⟨failure, Except.error.inj (List.mem_singleton.1 ending)⟩
      · cases ending

end Course

def Failure.DuringExecution : Failure → Prop
  | execution _ _ | queryTimeout _ | corruptedData _ => True
  | _ => False

theorem Failure.DuringExecution.isClient {failure : Failure} (during : failure.DuringExecution) :
    failure.isClient = false := by
  cases failure <;> first | rfl | exact during.elim

theorem EngineError.execution_during (sql : String) {error : Handed}
    (source : (∃ failure : EngineError String, error = failure.foreign) ∨
      ∃ bad : BadTime, error = .conversion (.inl bad.error)) :
    (error.execution sql).DuringExecution := by
  rcases source with ⟨failure, rfl⟩ | ⟨bad, rfl⟩
  · obtain ⟨cause, same⟩ := execution_foreign sql failure
    rw [same]
    trivial
  · trivial

theorem length_of_mapM {rows : List Row} {issues : List Issue} (read : rows.mapM Row.read = .ok issues) :
    rows.length = issues.length := by
  simpa using (congrArg List.length (map_of_mapM read)).symm

namespace Store
variable {store : Store} {filter : Filter} {limit : Option Nat} {course : Course}

/-- A search succeeds exactly if the engine completes it and all rows that the filter selects can be read. -/
theorem select_ok {issues : List Issue} :
    store.select filter.select course = .ok issues ↔
      store.find filter = .ok issues ∧ course.Completes issues.length := by
  unfold select
  cases unprepared : course.unprepared with
  | some cause =>
    refine ⟨nofun, fun ⟨_, completes⟩ => ?_⟩
    rw [completes.prepared] at unprepared
    cases unprepared
  | none =>
    cases read : Sql.Select.ofSql filter.select.sql with
    | error cause =>
      refine ⟨nofun, fun ⟨found, _⟩ => ?_⟩
      rw [Store.find_execution.2 ⟨read, rfl⟩] at found
      cases found
    | ok select =>
      dsimp only
      rw [Course.fetchAll_serve, Store.find_select _ read, mapError_eq_ok]
      constructor
      · rintro ⟨whole, unbroken⟩
        exact ⟨whole, unprepared, length_of_mapM whole ▸ unbroken⟩
      · rintro ⟨whole, completes⟩
        exact ⟨whole, length_of_mapM whole ▸ completes.unbroken⟩

theorem select_error {statement : Statement} {error : Handed} (failed : store.select statement course = .error error) :
    (∃ failure : EngineError String, error = failure.foreign) ∨
      ∃ bad : BadTime, error = .conversion (.inl bad.error) := by
  unfold select at failed
  split at failed
  · next cause _ =>
    cases failed
    exact .inl ⟨.sql cause, rfl⟩
  · split at failed
    · next cause _ =>
      cases failed
      exact .inl ⟨.sql cause, rfl⟩
    · exact (fetchAll_error failed).imp_left Course.serve_error

theorem findWithin_ok {issues : List Issue} :
    store.findWithin filter limit course = .ok issues ↔
      store.find filter = .ok issues ∧ course.Completes issues.length := by
  rw [← select_ok, findWithin]
  cases store.select filter.select course with
  | ok found =>
    dsimp only
    rw [Except.ok.injEq, Except.ok.injEq]
  | error error =>
    dsimp only
    split <;> exact ⟨nofun, nofun⟩

theorem findWithin_error {error : Failure} (failed : store.findWithin filter limit course = .error error) :
    error.DuringExecution := by
  unfold findWithin at failed
  dsimp only at failed
  split at failed
  · cases failed
  · next other selected =>
    split at failed
    · cases failed
      trivial
    · cases failed
      exact EngineError.execution_during _ (select_error selected)

/-- Left alone by the engine, a search is that of the store. -/
theorem findWithin_undisturbed (store : Store) (filter : Filter) (limit : Option Nat) :
    store.findWithin filter limit {} = store.find filter := by
  unfold findWithin select find
  dsimp only
  cases Sql.Select.ofSql filter.select.sql with
  | error cause =>
    rw [Bool.and_false]
    rfl
  | ok select =>
    dsimp only [Course.serve]
    rw [fetchAll_ok, Bool.and_false]
    cases (select.run filter.select.bindings store.rows).mapM Row.read <;> rfl

theorem findByTextWithin_accepted {text : String} {prepared : Prepared} (accepted : Query.prepare text = .ok prepared) :
    store.findByTextWithin text limit course = (store.findWithin prepared.filter limit course).mapError .failure := by
  rw [findByTextWithin, accepted]

/-- Issues are found only for a text that is accepted, and then all of them. -/
theorem findByTextWithin_ok {text : String} {issues : List Issue} :
    store.findByTextWithin text limit course = .ok issues ↔
      ∃ prepared, Query.prepare text = .ok prepared ∧ store.find prepared.filter = .ok issues ∧
        course.Completes issues.length := by
  cases accepted : Query.prepare text with
  | error cause =>
    rw [findByTextWithin, accepted]
    simp
  | ok prepared =>
    rw [findByTextWithin_accepted accepted, mapError_eq_ok]
    simp only [Except.ok.injEq, exists_eq_left', findWithin_ok]

theorem findByTextWithin_undisturbed (store : Store) (text : String) (limit : Option Nat) :
    store.findByTextWithin text limit {} = store.findByText text := by
  unfold findByTextWithin findByText
  cases Query.prepare text with
  | error cause => rfl
  | ok prepared =>
    dsimp only
    rw [findWithin_undisturbed]

theorem queryWithin_undisturbed (store : Store) (config : Config) (text : String) (output : OutputFormat) :
    store.queryWithin config text output {} = store.query text output := by
  rw [queryWithin, query, findByTextWithin_undisturbed]

end Store

/-- The answer is a client's error exactly if the query is refused, and then it is that refusal. Any other error is
one of the execution. -/
structure Query.Classified {α : Type} (text : String) (answer : Except CommandError α) : Prop where
  client : ∀ error, answer = .error error ∧ error.isClient = true ↔
    ∃ cause, prepare text = .error cause ∧ error = .failure cause
  later : ∀ prepared error, prepare text = .ok prepared → answer = .error error →
    ∃ cause : Failure, error = .failure cause ∧ cause.DuringExecution ∧ error.exitCode = 1 ∧ error.status = "error"

namespace Query

theorem Classified.intro {α : Type} {text : String} {answer : Except CommandError α}
    (refused : ∀ cause, prepare text = .error cause → answer = .error (.failure cause))
    (executed : ∀ prepared error, prepare text = .ok prepared → answer = .error error →
      ∃ cause : Failure, error = .failure cause ∧ cause.DuringExecution) : Classified text answer := by
  constructor
  · intro error
    constructor
    · rintro ⟨failed, client⟩
      cases prepared : prepare text with
      | error cause =>
        rw [refused cause prepared, Except.error.injEq] at failed
        exact ⟨cause, rfl, failed.symm⟩
      | ok prepared =>
        obtain ⟨cause, rfl, during⟩ := executed _ error prepared failed
        rw [CommandError.isClient, during.isClient] at client
        cases client
    · rintro ⟨cause, prepared, rfl⟩
      exact ⟨refused cause prepared, prepare_blames text cause prepared⟩
  · intro prepared error accepted failed
    obtain ⟨cause, rfl, during⟩ := executed prepared error accepted failed
    refine ⟨cause, rfl, during, ?_⟩
    simp [CommandError.exitCode, CommandError.status, CommandError.isClient, during.isClient]

theorem classified_findByTextWithin (text : String) (store : Store) (limit : Option Nat) (course : Course) :
    Classified text (store.findByTextWithin text limit course) := by
  refine .intro ?_ ?_
  · intro cause refused
    rw [Store.findByTextWithin, refused]
  · intro prepared error accepted failed
    rw [Store.findByTextWithin_accepted accepted] at failed
    obtain ⟨cause, found, rfl⟩ := mapError_eq_error.1 failed
    exact ⟨cause, rfl, Store.findWithin_error found⟩

theorem Classified.map {α β : Type} {text : String} {answer : Except CommandError α} (f : α → β)
    (classified : Classified text answer) : Classified text (answer.map f) := by
  have same : ∀ error, answer.map f = .error error ↔ answer = .error error := by
    intro error
    cases answer <;> simp [Except.map]
  exact ⟨by simpa only [same] using classified.client, by simpa only [same] using classified.later⟩

theorem classified_explain (text : String) (output : OutputFormat) : Classified text (explain text output) := by
  refine .intro ?_ ?_
  · intro cause refused
    rw [explain, refused]
  · intro prepared error accepted failed
    rw [explain, accepted] at failed
    cases failed

/-- Whatever the store holds and whatever becomes of the engine, a client's error is a refusal of the text and the
same from everyone who prepares it. What is accepted fails only as an execution, and an answer is a whole one. -/
theorem client_errors_iff_refused (text : String) (store : Store) (limit : Option Nat) (config : Config)
    (output : OutputFormat) (course : Course) :
    (∀ cause, prepare text = .error cause →
      (cause = .emptyQuery ∨ (∃ field found, cause = .unknownOperator field found) ∨
        (∃ operator, cause = .missingValue operator) ∨ (∃ field, cause = .malformedIn field) ∨
        (∃ operator value, cause = .invalidLiteral operator value) ∨ ∃ fault, cause = .invalidQuery fault) ∧
      (CommandError.failure cause).exitCode = 2 ∧ (CommandError.failure cause).status = "fail") ∧
    Classified text (store.findByTextWithin text limit course) ∧
    Classified text (store.queryWithin config text output course) ∧
    Classified text (explain text output) ∧
    (∀ issues, store.findByTextWithin text limit course = .ok issues →
      ∃ prepared, prepare text = .ok prepared ∧ store.find prepared.filter = .ok issues ∧
        course.Completes issues.length) ∧
    (∀ printed, store.queryWithin config text output course = .ok printed →
      ∃ issues, store.findByText text = .ok issues ∧ course.Completes issues.length ∧
        printed = Issue.print output issues) ∧
    store.findByTextWithin text limit {} = store.findByText text ∧
    store.queryWithin config text output {} = store.query text output := by
  have classified := classified_findByTextWithin text store
  refine ⟨?_, classified limit course, (classified _ course).map _, classified_explain text output,
    fun issues => Store.findByTextWithin_ok.1, ?_, store.findByTextWithin_undisturbed text limit,
    store.queryWithin_undisturbed config text output⟩
  · intro cause refused
    have client := prepare_blames text cause refused
    refine ⟨Failure.isClient_iff.1 client, ?_⟩
    simp [CommandError.exitCode, CommandError.status, CommandError.isClient, client]
  · intro printed done
    rw [Store.queryWithin] at done
    cases found : store.findByTextWithin text (config.timeLimit.map (· * 1000000)) course with
    | error error =>
      rw [found] at done
      cases done
    | ok issues =>
      rw [found] at done
      obtain ⟨prepared, accepted, searched, completes⟩ := Store.findByTextWithin_ok.1 found
      refine ⟨issues, ?_, completes, (Except.ok.inj done).symm⟩
      rw [Store.findByText, accepted]
      dsimp only
      rw [searched]
      rfl

def tornStore : Store :=
  ⟨[⟨1, "a", "", "open", "", "low", none, "noon", "2024-01-01T00:00:00+00:00"⟩]⟩

def lateCourse : Course where
  unprepared := some .interrupted
  expired := true

theorem tornStore_failures :
    (∀ error, tornStore.query "id IN 1" .json = .error error ∧ error.isClient = true ↔
      error = .failure (.malformedIn "id")) ∧
    (∃ error : CommandError, tornStore.query "id = 1" .json = .error error ∧ error.exitCode = 1) ∧
    ∃ error : CommandError, tornStore.queryWithin { timeout := some 5 } "id = 1" .json lateCourse = .error error ∧
      error.message = "query exceeded timeout of 5ms" ∧ error.status = "error" := by
  refine ⟨?_, ?_⟩
  · have refused : (prepare "id IN 1").map Prepared.filter = .error (.malformedIn "id") := by decide +kernel
    obtain ⟨_, _, answer, _, _, _, _, same⟩ := client_errors_iff_refused "id IN 1" tornStore none {} .json {}
    intro error
    rw [← same, answer.client]
    cases found : prepare "id IN 1" with
    | ok prepared =>
      rw [found] at refused
      cases refused
    | error cause =>
      rw [found] at refused
      cases refused
      simp [eq_comm]
  · have accepted : ∃ prepared, prepare "id = 1" = .ok prepared := by
      have checked : (prepare "id = 1").toBool = true := by decide +kernel
      cases found : prepare "id = 1" with
      | ok prepared => exact ⟨prepared, rfl⟩
      | error cause =>
        rw [found] at checked
        cases checked
    obtain ⟨prepared, accepted⟩ := accepted
    have classified := client_errors_iff_refused "id = 1" tornStore none { timeout := some 5 } .json
    obtain ⟨_, _, torn, _, _, _, _, same⟩ := classified {}
    obtain ⟨_, _, late, _⟩ := classified lateCourse
    constructor
    · have failed : tornStore.query "id = 1" .json =
          .error (.failure (.corruptedData "invalid timestamp 'noon' in column 'created_at'")) := by
        decide +kernel
      obtain ⟨_, _, _, code, _⟩ := torn.later prepared _ accepted (same.trans failed)
      exact ⟨_, failed, code⟩
    · have failed : tornStore.queryWithin { timeout := some 5 } "id = 1" .json lateCourse =
          .error (.failure (.queryTimeout 5)) := by
        decide +kernel
      obtain ⟨_, _, _, _, status⟩ := late.later prepared _ accepted failed
      exact ⟨_, failed, by decide +kernel, status⟩

end Query

end IssueQuery
