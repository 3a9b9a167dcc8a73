import IssueQuery.Proofs.Store.Failures
import IssueQuery.Proofs.Store.Ordering
import IssueQuery.Proofs.Store.Runs

/-!
Searches among rows with times that cannot be read. What a row stores decides whether and where it is found, and only
then are its times read. One that cannot be read is reported in place of all issues; a row that is not found has no say.
-/

namespace IssueQuery
open Sql

def TimeColumn.order : List TimeColumn :=
  [resolved, createdAt, updatedAt]

namespace Row
variable {row : Row}

def time? (row : Row) : TimeColumn → Option String
  | .resolved => row.resolved
  | .createdAt => some row.createdAt
  | .updatedAt => some row.updatedAt

def ReadableIn (row : Row) (columns : List TimeColumn) : Prop :=
  ∀ column ∈ columns, ∀ text ∈ row.time? column, (Instant.readStrict? text).isSome

/-- A time that cannot be read, while all that are read before it can. -/
structure FirstBad (row : Row) (bad : BadTime) : Prop where
  stored : row.time? bad.column = some bad.value
  unread : Instant.readStrict? bad.value = none
  first : ∃ before after, TimeColumn.order = before ++ bad.column :: after ∧ row.ReadableIn before

def bad? (row : Row) (column : TimeColumn) : Option BadTime :=
  (row.time? column).bind fun text =>
    match Instant.readStrict? text with
    | some _ => none
    | none => some ⟨column, text⟩

theorem bad?_eq_some {column : TimeColumn} {bad : BadTime} :
    row.bad? column = some bad ↔
      column = bad.column ∧ row.time? bad.column = some bad.value ∧ Instant.readStrict? bad.value = none := by
  rw [bad?, Option.bind_eq_some_iff]
  constructor
  · rintro ⟨text, stored, found⟩
    split at found
    · cases found
    · next unread =>
      cases found
      exact ⟨rfl, stored, unread⟩
  · rintro ⟨rfl, stored, unread⟩
    exact ⟨bad.value, stored, by rw [unread]⟩

theorem bad?_eq_none {column : TimeColumn} :
    row.bad? column = none ↔ ∀ text ∈ row.time? column, (Instant.readStrict? text).isSome := by
  rw [bad?, Option.bind_eq_none_iff]
  refine forall₂_congr fun text _ => ?_
  cases Instant.readStrict? text <;> simp

theorem findSome?_bad {columns : List TimeColumn} : columns.findSome? row.bad? = none ↔ row.ReadableIn columns := by
  rw [List.findSome?_eq_none_iff]
  exact forall₂_congr fun column _ => bad?_eq_none

/-- A row fails for the first of its times that fails. -/
theorem read_eq_error {bad : BadTime} :
    row.read = .error bad ↔ TimeColumn.order.findSome? row.bad? = some bad := by
  obtain ⟨_, _, _, _, _, _, resolved, createdAt, updatedAt⟩ := row
  simp only [TimeColumn.order, List.findSome?_cons, List.findSome?_nil, read, bad?, time?, readTime, readOptionalTime,
    Option.bind_some]
  cases resolved with
  | none =>
    cases Instant.readStrict? createdAt <;> cases Instant.readStrict? updatedAt <;>
      simp [bind, Except.bind, pure, Except.pure]
  | some text =>
    cases given : Instant.readStrict? text <;> cases Instant.readStrict? createdAt <;>
      cases Instant.readStrict? updatedAt <;> simp [bind, Except.bind, pure, Except.pure, Except.map, given]

theorem read_eq_error_iff {bad : BadTime} : row.read = .error bad ↔ row.FirstBad bad := by
  rw [read_eq_error, List.findSome?_eq_some_iff]
  constructor
  · rintro ⟨before, column, after, order, found, passed⟩
    obtain ⟨rfl, stored, unread⟩ := bad?_eq_some.1 found
    exact ⟨stored, unread, before, after, order, fun column member => bad?_eq_none.1 (passed column member)⟩
  · rintro ⟨stored, unread, before, after, order, readable⟩
    exact ⟨before, bad.column, after, order, bad?_eq_some.2 ⟨rfl, stored, unread⟩,
      fun column member => bad?_eq_none.2 (readable column member)⟩

theorem exists_read : (∃ issue, row.read = .ok issue) ↔ row.ReadableIn TimeColumn.order := by
  rw [← findSome?_bad]
  cases read : row.read with
  | ok issue =>
    refine iff_of_true ⟨issue, rfl⟩ (Option.eq_none_iff_forall_ne_some.2 fun bad found => ?_)
    cases read.symm.trans (read_eq_error.2 found)
  | error bad =>
    refine iff_of_false (fun ⟨_, done⟩ => ?_) fun passed => ?_
    · cases done
    · cases passed.symm.trans (read_eq_error.1 read)

end Row

theorem exists_mapM_read {rows : List Row} :
    (∃ issues, rows.mapM Row.read = .ok issues) ↔ ∀ row ∈ rows, row.ReadableIn TimeColumn.order := by
  simp only [← Row.exists_read]
  constructor
  · rintro ⟨issues, read⟩
    exact read_of_mapM read
  · intro readable
    obtain ⟨issues, read, _⟩ := mapM_read readable
    exact ⟨issues, read⟩

/-- Reading row after row ends with the first that fails. -/
theorem mapM_read_error {rows : List Row} {bad : BadTime} (failed : rows.mapM Row.read = .error bad) :
    ∃ before row after, rows = before ++ row :: after ∧
      (∀ other ∈ before, other.ReadableIn TimeColumn.order) ∧ row.FirstBad bad := by
  induction rows with
  | nil => cases failed
  | cons row rest ih =>
    rw [List.mapM_cons] at failed
    rcases error_of_bind failed with first | ⟨issue, read, failed⟩
    · exact ⟨[], row, rest, rfl, List.forall_mem_nil _, Row.read_eq_error_iff.1 first⟩
    · rcases error_of_bind failed with later | ⟨issues, _, ended⟩
      · obtain ⟨before, torn, after, rfl, readable, failed⟩ := ih later
        exact ⟨row :: before, torn, after, rfl, List.forall_mem_cons.2 ⟨Row.exists_read.1 ⟨issue, read⟩, readable⟩,
          failed⟩
      · cases ended

/-- The answer to a search that finds these rows: all of their issues if their times can be read, and otherwise the
first time that cannot, of the first row that has one. -/
structure Row.Reported (rows : List Row) (answer : Except Failure (List Issue)) : Prop where
  given : (∃ issues, answer = .ok issues) ↔ ∀ row ∈ rows, row.ReadableIn TimeColumn.order
  whole : ∀ issues, answer = .ok issues → issues.map Except.ok = rows.map Row.read
  spoiled : ∀ error, answer = .error error → ∃ before row after bad,
    rows = before ++ row :: after ∧ (∀ other ∈ before, other.ReadableIn TimeColumn.order) ∧ row.FirstBad bad ∧
      error = .corruptedData s!"invalid timestamp '{bad.value}' in column '{bad.column.name}'"

theorem Row.reported (rows : List Row) : Row.Reported rows ((rows.mapM Row.read).mapError BadTime.error) := by
  constructor
  · simp only [mapError_eq_ok]
    exact exists_mapM_read
  · intro issues done
    exact map_of_mapM (mapError_eq_ok.1 done)
  · intro error failed
    obtain ⟨bad, read, rfl⟩ := mapError_eq_error.1 failed
    obtain ⟨before, row, after, placed, readable, torn⟩ := mapM_read_error read
    exact ⟨before, row, after, bad, placed, readable, torn, rfl⟩

namespace Store

/-- A statement that the engine accepts and serves to its end is not timed out, even if the time is up by then. -/
theorem findWithin_served {filter : Filter} {select : Select} (accepted : Select.ofSql filter.select.sql = .ok select)
    (store : Store) (limit : Option Nat) (expired : Bool) :
    store.findWithin filter limit { expired := expired } = store.find filter := by
  unfold findWithin Store.select find
  dsimp only
  rw [accepted]
  dsimp only [Course.serve]
  rw [fetchAll_ok]
  cases (select.run filter.select.bindings store.rows).mapM Row.read with
  | ok issues => rfl
  | error bad =>
    have running : ¬(limit.isSome && expired && false) = true := by simp
    exact if_neg running

theorem accepted_of_answerable {query : Query} {filter : Filter} (answerable : query.Answerable)
    (compiled : query.compile = .ok filter) : ∃ select, Select.ofSql filter.select.sql = .ok select := by
  obtain ⟨⟨other, again, found⟩, _⟩ := Query.find_sortedRows answerable .empty
  cases compiled.symm.trans again
  cases accepted : Select.ofSql filter.select.sql with
  | ok select => exact ⟨select, rfl⟩
  | error cause =>
    obtain ⟨bad, _, other⟩ := mapError_eq_error.1 (found.symm.trans (find_execution.2 ⟨accepted, rfl⟩))
    cases other

/-- Overwriting rows that are not found, neither before nor after, changes nothing of what is found. -/
theorem overwrite_unselected {store next : Store} {id : Int} {column : TimeColumn} {value : Option String}
    {count : Nat} (done : store.overwrite id column value = .ok (count, next)) {selects : Row → Bool}
    (unseen : ∀ row ∈ store.rows, row.id = id → selects row = false ∧ selects (setTime column value row) = false) :
    next.rows.filter selects = store.rows.filter selects := by
  unfold overwrite at done
  dsimp only at done
  split at done
  · cases done
  · cases done
    have kept : ∀ row ∈ store.rows,
        (selects ∘ fun row => if row.id == id then setTime column value row else row) row = selects row := by
      intro row member
      by_cases hit : row.id = id
      · obtain ⟨before, after⟩ := unseen row member hit
        simp [hit, before, after]
      · simp [hit]
    dsimp only
    rw [List.filter_map, List.filter_congr kept]
    refine (List.map_congr_left fun row member => ?_).trans (List.map_id _)
    obtain ⟨inside, seen⟩ := List.mem_filter.1 member
    have other : row.id ≠ id := fun hit => by simp [(unseen row inside hit).1] at seen
    simp [other]

/-- A search gives the issues of all rows that it finds, or reports one of them and gives nothing, whether or not there
is a limit of time. What it does not find has no influence, whatever becomes of it, and the store stays as it is. -/
theorem find_corrupted {query : Query} (answerable : query.Answerable) (store : Store) (limit : Option Nat)
    (expired : Bool) :
    ∃ filter, ∃ rows : List Row, query.compile = .ok filter ∧ rows.Perm (store.rows.filter query.selects) ∧
      rows.Pairwise (SortKey.InOrder query.ordering) ∧
      Row.Reported rows (store.findWithin filter limit { expired := expired }) ∧
      (∀ other : Store, other.rows.filter query.selects = store.rows.filter query.selects →
        other.findWithin filter limit { expired := expired } = store.findWithin filter limit { expired := expired }) ∧
      (∀ id column value count next, store.overwrite id column value = .ok (count, next) →
        (∀ row ∈ store.rows, row.id = id →
          query.selects row = false ∧ query.selects (setTime column value row) = false) →
        next.findWithin filter limit { expired := expired } = store.findWithin filter limit { expired := expired }) ∧
      (store.step (.find filter limit { expired := expired })).2 = store := by
  obtain ⟨⟨filter, compiled, found⟩, sorted⟩ := Query.find_sortedRows answerable store
  obtain ⟨select, accepted⟩ := accepted_of_answerable answerable compiled
  have answer := (findWithin_served accepted store limit expired).trans found
  have seen : ∀ other : Store, other.rows.filter query.selects = store.rows.filter query.selects →
      other.findWithin filter limit { expired := expired } = store.findWithin filter limit { expired := expired } := by
    intro other same
    obtain ⟨⟨again, recompiled, searched⟩, _⟩ := Query.find_sortedRows answerable other
    cases compiled.symm.trans recompiled
    rw [answer, findWithin_served accepted other, searched, Query.sortedRows, Query.sortedRows, same]
  refine ⟨filter, query.sortedRows store, compiled, query.sortedRows_perm store, sorted, ?_, seen, ?_, ?_⟩
  · rw [answer]
    exact Row.reported _
  · intro id column value count next done unseen
    exact seen next (overwrite_unselected done unseen)
  · exact (store.step_reads rfl).2

def defacedStore : Store where
  rows := [busyRow 1 "high" none, { busyRow 2 "low" none with updatedAt := "" },
    { busyRow 3 "high" (some "soon") with createdAt := "noon" }]

def urgentIssues : Query where
  conditions := [.predicate ⟨"priority", .eq, ["high"]⟩]
  ordering := [⟨"resolved", .desc⟩]

def urgentUnresolved : Query where
  conditions := urgentIssues.conditions ++ [.predicate ⟨"resolved", .is, ["null"]⟩]
  ordering := []

theorem defacedStore_searched :
    (∃ filter, urgentIssues.compile = .ok filter ∧
      defacedStore.findWithin filter (some 5) { expired := true } =
        .error (.corruptedData "invalid timestamp 'soon' in column 'resolved'")) ∧
    ∃ filter issues, urgentUnresolved.compile = .ok filter ∧
      defacedStore.findWithin filter none { expired := false } = .ok issues ∧
      issues.map Except.ok = [(busyRow 1 "high" none).read] := by
  constructor
  · have answerable : urgentIssues.Answerable :=
      ⟨by decide +kernel, by decide +kernel, by decide +kernel, by decide +kernel⟩
    obtain ⟨filter, rows, compiled, perm, _, reported, _⟩ := find_corrupted answerable defacedStore (some 5) true
    refine ⟨filter, compiled, ?_⟩
    have found : rows.Perm [busyRow 1 "high" none, { busyRow 3 "high" (some "soon") with createdAt := "noon" }] :=
      perm.trans (by decide +kernel)
    cases answer : defacedStore.findWithin filter (some 5) { expired := true } with
    | ok issues =>
      have readable := reported.given.1 ⟨issues, answer⟩ _ (found.mem_iff.2 (List.mem_cons_of_mem _ List.mem_cons_self))
      have read := readable .resolved (by decide) "soon" rfl
      exact absurd read (by decide +kernel)
    | error error =>
      obtain ⟨before, row, after, bad, rfl, _, first, rfl⟩ := reported.spoiled error answer
      have failed := Row.read_eq_error_iff.2 first
      have member := found.mem_iff.1 (List.mem_append_right before List.mem_cons_self)
      simp only [List.mem_cons, List.not_mem_nil, or_false] at member
      rcases member with rfl | rfl
      · have sound : (busyRow 1 "high" none).read.isOk = true := by decide +kernel
        rw [failed] at sound
        cases sound
      · have torn : ({ busyRow 3 "high" (some "soon") with createdAt := "noon" } : Row).read =
            .error ⟨.resolved, "soon"⟩ := by decide +kernel
        cases failed.symm.trans torn
        rfl
  · have answerable : urgentUnresolved.Answerable :=
      ⟨by decide +kernel, by decide +kernel, by decide +kernel, by decide +kernel⟩
    obtain ⟨filter, rows, compiled, perm, _, reported, _⟩ := find_corrupted answerable defacedStore none false
    have found : rows.Perm [busyRow 1 "high" none] := perm.trans (by decide +kernel)
    cases List.perm_singleton.1 found
    have sound : ∀ row ∈ [busyRow 1 "high" none], row.ReadableIn TimeColumn.order := by
      simp only [← Row.exists_read]
      exact @readable_of_isOk ⟨[busyRow 1 "high" none]⟩ (by decide +kernel)
    obtain ⟨issues, answer⟩ := reported.given.2 sound
    exact ⟨filter, issues, compiled, answer, reported.whole issues answer⟩

end Store

end IssueQuery
