import IssueQuery.Command.New
import IssueQuery.Proofs.Filter.Selection
import IssueQuery.Proofs.Issue.Settled
import IssueQuery.Proofs.Time.Read

/-!
Stores that issues are created in. Creating keeps what is stored and adds one row; a row can be read back exactly
if its times have years of four digits, and then as the settled issue.
-/

namespace IssueQuery
open Text

structure Issue.Readable (issue : Issue) : Prop where
  resolved : ∀ instant ∈ issue.resolved, instant.HasPlainYear
  createdAt : issue.createdAt.HasPlainYear
  updatedAt : issue.updatedAt.HasPlainYear

theorem Issue.readable_new (title : String) {t : Instant} (year : t.HasPlainYear) : (Issue.new title t).Readable := by
  refine ⟨?_, year, year⟩
  intro instant found
  cases found

theorem Issue.Readable.settled {issue : Issue} (readable : issue.Readable) : issue.settled.Readable := by
  refine ⟨?_, Instant.hasPlainYear_settled.2 readable.createdAt, Instant.hasPlainYear_settled.2 readable.updatedAt⟩
  intro instant found
  obtain ⟨origin, set, rfl⟩ := Option.map_eq_some_iff.1 found
  exact Instant.hasPlainYear_settled.2 (readable.resolved origin set)

theorem readTime_stored {instant : Instant} (plain : instant.HasPlainYear) (column : TimeColumn) :
    readTime column instant.stored = .ok instant.settled := by
  rw [readTime, readStrict?_stored plain]

theorem readTime_signed {instant : Instant} (signed : ¬instant.HasPlainYear) (column : TimeColumn) :
    readTime column instant.stored = .error ⟨column, instant.stored⟩ := by
  rw [readTime, Instant.stored, readStrict?_signed signed]

/-- The row of an issue is read back as the settled issue under its new id. -/
theorem Row.read_ofIssue {issue : Issue} (readable : issue.Readable) (id : Int) :
    (Row.ofIssue id issue).read = .ok { issue.settled with id := id } := by
  have resolved : readOptionalTime .resolved (issue.resolved.map Instant.stored) =
      .ok (issue.resolved.map Instant.settled) := by
    cases shape : issue.resolved with
    | none => rfl
    | some instant =>
      have plain := readable.resolved instant shape
      rw [Option.map_some, readOptionalTime, readTime_stored plain]
      rfl
  simp only [Row.read, Row.ofIssue, resolved, readTime_stored readable.createdAt,
    readTime_stored readable.updatedAt, bind, Except.bind, pure, Except.pure, Issue.settled]

theorem plainYear_of_readTime {instant back : Instant} {column : TimeColumn}
    (read : readTime column instant.stored = .ok back) : instant.HasPlainYear := by
  by_contra signed
  rw [readTime_signed signed] at read
  cases read

theorem Row.readable_of_read {issue back : Issue} {id : Int} (read : (Row.ofIssue id issue).read = .ok back) :
    issue.Readable := by
  obtain ⟨resolved, first, read⟩ := ok_of_bind read
  obtain ⟨createdAt, second, read⟩ := ok_of_bind read
  obtain ⟨updatedAt, third, _⟩ := ok_of_bind read
  refine ⟨?_, plainYear_of_readTime second, plainYear_of_readTime third⟩
  intro instant found
  have stored : (Row.ofIssue id issue).resolved = some instant.stored := by
    rw [Row.ofIssue, Option.mem_def.1 found]
    rfl
  rw [stored, readOptionalTime] at first
  cases back : readTime .resolved instant.stored with
  | ok resolved => exact plainYear_of_readTime back
  | error bad => rw [back] at first; cases first

namespace Store

def holding (issues : List Issue) : Store :=
  ⟨issues.mapIdx fun i issue => Row.ofIssue (i + 1) issue⟩

theorem insert_holding (issues : List Issue) (issue : Issue) :
    (holding issues).insert issue = ((issues.length : Int) + 1, holding (issues ++ [issue])) := by
  simp [insert, holding]

theorem create_holding (issues : List Issue) (draft : Draft) (now : Instant) :
    (holding issues).create draft now =
      (draft.toIssue now).map fun issue => ((issues.length : Int) + 1, holding (issues ++ [issue])) := by
  rw [create]
  cases draft.toIssue now with
  | error e => rfl
  | ok issue =>
    simp only [bind, Except.bind, pure, Except.pure, insert_holding, Except.map]

theorem get_holding {issues : List Issue} {place : Nat} {issue : Issue} (found : issues[place]? = some issue) :
    (holding issues).get (place + 1) = (Row.ofIssue (place + 1) issue).read.mapError BadTime.error := by
  have row : (holding issues).rows.find? (fun row => row.id == (place : Int) + 1) =
      some (Row.ofIssue (place + 1) issue) := by
    rw [List.find?_eq_some_iff_getElem]
    obtain ⟨inside, same⟩ := List.getElem?_eq_some_iff.1 found
    refine ⟨beq_self_eq_true _, place, by simpa [holding] using inside, ?_, ?_⟩
    · simp [holding, same]
    · intro j before
      simp only [holding, List.getElem_mapIdx, Row.ofIssue, Bool.not_eq_true', beq_eq_false_iff_ne]
      omega
  rw [get, row]

/-- A settled issue is given back under its id exactly if its times have years of four digits. -/
theorem get_holding_iff {issues : List Issue} {place : Nat} {issue : Issue} (found : issues[place]? = some issue) :
    ((holding issues).get (place + 1) = .ok { issue.settled with id := place + 1 } ↔ issue.Readable) ∧
      (¬issue.Readable → ∃ reason, (holding issues).get (place + 1) = .error (.corruptedData reason)) := by
  rw [get_holding found]
  cases read : (Row.ofIssue (place + 1) issue).read with
  | ok back =>
    have readable := Row.readable_of_read read
    rw [Row.read_ofIssue readable, Except.ok.injEq] at read
    rw [← read]
    exact ⟨⟨fun _ => readable, fun _ => rfl⟩, fun unreadable => absurd readable unreadable⟩
  | error bad =>
    have unreadable : ¬issue.Readable := by
      intro readable
      rw [Row.read_ofIssue readable] at read
      cases read
    refine ⟨⟨?_, fun readable => absurd readable unreadable⟩, fun _ => ⟨_, rfl⟩⟩
    intro same
    cases same

def createAll : List (Draft × Instant) → Store → List (Except CommandError Int) × Store
  | [], store => ([], store)
  | (draft, now) :: rest, store =>
    match store.create draft now with
    | .error e => (.error e :: (createAll rest store).1, (createAll rest store).2)
    | .ok (id, next) => (.ok id :: (createAll rest next).1, (createAll rest next).2)

def created (runs : List (Draft × Instant)) : List Issue :=
  runs.filterMap fun run => (run.1.toIssue run.2).toOption

theorem createAll_store (runs : List (Draft × Instant)) (issues : List Issue) :
    (createAll runs (holding issues)).2 = holding (issues ++ created runs) := by
  induction runs generalizing issues with
  | nil => rw [created, List.filterMap_nil, List.append_nil]; rfl
  | cons run rest ih =>
    obtain ⟨draft, now⟩ := run
    rw [createAll, create_holding, created, List.filterMap_cons]
    cases draft.toIssue now with
    | error e => exact ih issues
    | ok issue =>
      have later := ih (issues ++ [issue])
      rw [List.append_assoc] at later
      exact later

theorem createAll_answer {runs : List (Draft × Instant)} {issues : List Issue} {i : Nat} {id : Int}
    (answer : (createAll runs (holding issues)).1[i]? = some (.ok id)) :
    ∃ draft now issue, ∃ place : Nat, runs[i]? = some (draft, now) ∧ draft.toIssue now = .ok issue ∧
      (issues ++ created runs)[place]? = some issue ∧ id = (place : Int) + 1 := by
  induction runs generalizing issues i with
  | nil => cases answer
  | cons run rest ih =>
    obtain ⟨draft, now⟩ := run
    rw [createAll, create_holding] at answer
    cases made : draft.toIssue now with
    | error e =>
      rw [made] at answer
      have kept : created ((draft, now) :: rest) = created rest := by
        rw [created, List.filterMap_cons, made]
        rfl
      rw [kept]
      cases i with
      | zero => cases answer
      | succ i => exact ih answer
    | ok issue =>
      rw [made] at answer
      have more : issues ++ created ((draft, now) :: rest) = issues ++ [issue] ++ created rest := by
        rw [created, List.filterMap_cons, made, List.append_assoc]
        rfl
      rw [more]
      cases i with
      | zero =>
        cases answer
        refine ⟨draft, now, issue, issues.length, rfl, made, ?_, rfl⟩
        rw [List.append_assoc, List.getElem?_append_right (Nat.le_refl _), Nat.sub_self]
        rfl
      | succ i => exact ih answer

theorem mem_holding {issues : List Issue} {row : Row} (member : row ∈ (holding issues).rows) :
    ∃ issue ∈ issues, ∃ id, row = Row.ofIssue id issue := by
  obtain ⟨i, inside, same⟩ := List.mem_mapIdx.1 member
  exact ⟨issues[i], List.getElem_mem inside, _, same.symm⟩

theorem row_of_held {issues : List Issue} {issue : Issue} (member : issue ∈ issues) :
    ∃ id, Row.ofIssue id issue ∈ (holding issues).rows := by
  obtain ⟨i, inside, same⟩ := List.getElem_of_mem member
  exact ⟨i + 1, List.mem_mapIdx.2 ⟨i, inside, by rw [same]⟩⟩

/-- No search meets a row that it cannot read if and only if all issues that are held are readable. -/
theorem find_holding_iff (issues : List Issue) :
    (∀ filter reason, (holding issues).find filter ≠ .error (.corruptedData reason)) ↔
      ∀ issue ∈ issues, issue.Readable := by
  constructor
  · intro clean issue member
    have answerable : Query.Answerable {} := ⟨by decide, by decide, by decide, by decide⟩
    obtain ⟨filter, terms, _, _, found⟩ := Query.find_rows answerable (holding issues)
    have sorted := List.mergeSort_perm ((holding issues).rows.filter (Query.selects {})) fun a b =>
      Sql.SortTerm.compareAll terms a b != .gt
    cases read : (((holding issues).rows.filter (Query.selects {})).mergeSort fun a b =>
        Sql.SortTerm.compareAll terms a b != .gt).mapM Row.read with
    | error bad =>
      rw [read] at found
      exact absurd found (clean filter _)
    | ok back =>
      obtain ⟨id, inside⟩ := row_of_held member
      have chosen := sorted.mem_iff.2 (List.mem_filter.2 ⟨inside, rfl⟩)
      obtain ⟨issue, whole⟩ := read_of_mapM read _ chosen
      exact Row.readable_of_read whole
  · intro readable filter reason failed
    have rows : ∀ row ∈ (holding issues).rows, ∃ issue, row.read = .ok issue := by
      intro row member
      obtain ⟨issue, inside, id, rfl⟩ := mem_holding member
      exact ⟨_, Row.read_ofIssue (readable issue inside) id⟩
    cases read : Sql.Select.ofSql filter.select.sql with
    | error cause =>
      unfold Store.find at failed
      dsimp only at failed
      rw [read] at failed
      cases failed
    | ok select =>
      have sorted := List.mergeSort_perm ((holding issues).rows.filter (select.matchesRow filter.select.bindings))
        fun a b => Sql.SortTerm.compareAll select.ordering a b != .gt
      obtain ⟨back, whole, _⟩ := mapM_read fun row member =>
        rows row (List.mem_of_mem_filter (sorted.mem_iff.1 member))
      rw [Store.find_select _ read, Sql.Select.run, whole] at failed
      cases failed

end Store

/-- A draft that is accepted gives its own contents, the title trimmed. -/
theorem Draft.toIssue_ok {draft : Draft} {now : Instant} {issue : Issue} (made : draft.toIssue now = .ok issue) :
    ∃ resolved, draft.resolved.mapM readResolved = .ok resolved ∧
      issue = ⟨0, String.ofList (trim draft.title.toList), draft.description.getD "", draft.status,
        draft.assignee.getD "", draft.priority, resolved, now, now⟩ := by
  unfold Draft.toIssue at made
  cases status : blank draft.status.toList with
  | true => simp only [status, if_true] at made; cases made
  | false =>
    cases priority : blank draft.priority.toList with
    | true => simp only [status, priority, Bool.false_eq_true, if_false, if_true] at made; cases made
    | false =>
      simp only [status, priority, Bool.false_eq_true, if_false] at made
      obtain ⟨resolved, read, made⟩ := ok_of_bind made
      cases made
      exact ⟨resolved, read, rfl⟩

theorem hasPlainSecond_of_readResolved {text : String} {instant : Instant} (read : readResolved text = .ok instant) :
    instant.HasPlainSecond := by
  unfold readResolved at read
  split at read
  · next given =>
    cases read
    exact Instant.hasPlainSecond_of_readGiven? given
  · cases read

theorem Draft.settled_resolved {draft : Draft} {resolved : Option Instant}
    (read : draft.resolved.mapM readResolved = .ok resolved) : resolved.map Instant.settled = resolved := by
  cases shape : draft.resolved with
  | none =>
    rw [shape] at read
    cases read
    rfl
  | some text =>
    rw [shape] at read
    cases given : readResolved text with
    | error bad =>
      rw [Option.mapM_some, given] at read
      cases read
    | ok instant =>
      rw [Option.mapM_some, given] at read
      cases read
      exact congrArg some (Instant.settled_of_plain (hasPlainSecond_of_readResolved given))

/-- Every id that creating gives is that of a row with the contents of its draft. The row is read back exactly if
its times have years of four digits, and searches are free of corrupted rows exactly if all rows are like that. The
time of creation is read back as its clock shows it. -/
theorem Store.createAll_read_back (runs : List (Draft × Instant)) :
    (∀ (i : Nat) (id : Int), (createAll runs .empty).1[i]? = some (.ok id) →
      ∃ draft now resolved, runs[i]? = some (draft, now) ∧ draft.resolved.mapM readResolved = .ok resolved ∧
        ((createAll runs .empty).2.get id = .ok ⟨id, String.ofList (trim draft.title.toList),
            draft.description.getD "", draft.status, draft.assignee.getD "", draft.priority, resolved, now.settled,
            now.settled⟩ ↔
          now.HasPlainYear ∧ ∀ instant ∈ resolved, instant.HasPlainYear) ∧
        (¬(now.HasPlainYear ∧ ∀ instant ∈ resolved, instant.HasPlainYear) →
          ∃ reason, (createAll runs .empty).2.get id = .error (.corruptedData reason))) ∧
      ((∀ filter reason, (createAll runs .empty).2.find filter ≠ .error (.corruptedData reason)) ↔
        ∀ run ∈ runs, ∀ issue, run.1.toIssue run.2 = .ok issue → issue.Readable) := by
  have store : (createAll runs .empty).2 = holding (created runs) := createAll_store runs []
  rw [store]
  constructor
  · intro i id answer
    have start : (createAll runs (holding [])).1[i]? = some (.ok id) := answer
    obtain ⟨draft, now, issue, place, run, made, found, rfl⟩ := createAll_answer start
    obtain ⟨resolved, read, rfl⟩ := Draft.toIssue_ok made
    obtain ⟨back, lost⟩ := get_holding_iff found
    have plain : Issue.Readable ⟨0, String.ofList (trim draft.title.toList), draft.description.getD "",
        draft.status, draft.assignee.getD "", draft.priority, resolved, now, now⟩ ↔
          now.HasPlainYear ∧ ∀ instant ∈ resolved, instant.HasPlainYear :=
      ⟨fun readable => ⟨readable.createdAt, readable.resolved⟩, fun both => ⟨both.2, both.1, both.1⟩⟩
    rw [plain, Issue.settled, Draft.settled_resolved read] at back
    rw [plain] at lost
    exact ⟨draft, now, resolved, run, read, back, lost⟩
  · rw [find_holding_iff]
    constructor
    · intro readable run member issue made
      exact readable issue (List.mem_filterMap.2 ⟨run, member, by rw [made]; rfl⟩)
    · intro readable issue member
      obtain ⟨run, inside, made⟩ := List.mem_filterMap.1 member
      cases shape : run.1.toIssue run.2 with
      | error e => rw [shape] at made; cases made
      | ok other =>
        rw [shape] at made
        cases made
        exact readable run inside _ shape

def newYear : Instant :=
  .midnight ⟨2024, 1, 1, by decide, by decide, by decide, by decide, by decide, by decide⟩

def mixedDrafts : List (Draft × Instant) :=
  [(⟨" a ", none, "open", "low", none, some "2024-02-29T23:30:00-01:00"⟩, newYear),
    (⟨"b", none, " ", "low", none, none⟩, newYear),
    (⟨"c", none, "open", "low", none, some "9999-12-31T23:59:59-01:00"⟩, newYear)]

theorem mixedDrafts_read_back :
    (Store.createAll mixedDrafts .empty).1 = [.ok 1, .error (.fieldEmpty "status"), .ok 2] ∧
      (∃ issue, (Store.createAll mixedDrafts .empty).2.get 1 = .ok issue ∧ issue.title = "a") ∧
      ∃ reason, (Store.createAll mixedDrafts .empty).2.get 2 = .error (.corruptedData reason) := by
  have answers : (Store.createAll mixedDrafts .empty).1 = [.ok 1, .error (.fieldEmpty "status"), .ok 2] := by
    decide +kernel
  obtain ⟨rows, _⟩ := Store.createAll_read_back mixedDrafts
  refine ⟨answers, ?_, ?_⟩
  · obtain ⟨draft, now, resolved, run, read, back, _⟩ := rows 0 1 (by rw [answers]; rfl)
    cases run
    have checked : ((Option.mapM readResolved (some "2024-02-29T23:30:00-01:00")).map fun resolved =>
        decide (∀ instant ∈ resolved, instant.HasPlainYear)) = .ok true := by decide +kernel
    rw [show Option.mapM readResolved (some "2024-02-29T23:30:00-01:00") = .ok resolved from read, Except.map,
      Except.ok.injEq, decide_eq_true_eq] at checked
    refine ⟨_, back.2 ⟨by decide, checked⟩, ?_⟩
    change String.ofList (trim " a ".toList) = "a"
    decide +kernel
  · obtain ⟨draft, now, resolved, run, read, _, lost⟩ := rows 2 2 (by rw [answers]; rfl)
    cases run
    have checked : ((Option.mapM readResolved (some "9999-12-31T23:59:59-01:00")).map fun resolved =>
        decide (∀ instant ∈ resolved, instant.HasPlainYear)) = .ok false := by decide +kernel
    rw [show Option.mapM readResolved (some "9999-12-31T23:59:59-01:00") = .ok resolved from read, Except.map,
      Except.ok.injEq, decide_eq_false_iff_not] at checked
    exact lost fun both => checked both.2

/-- A time whose offset leads out of the year 9999 is accepted, but what is stored for it cannot be read. -/
theorem created_corrupted :
    (Store.createAll (mixedDrafts.drop 2) .empty).1 = [.ok 1] ∧
      (Store.createAll (mixedDrafts.drop 2) .empty).2.get 1 =
        .error (.corruptedData "invalid timestamp '+10000-01-01T00:59:59+00:00' in column 'resolved'") := by
  decide +kernel

end IssueQuery
