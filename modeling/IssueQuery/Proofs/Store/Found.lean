import IssueQuery.Proofs.Filter.Selection
import IssueQuery.Proofs.Sql.Sorting

/-!
What a search gives back: the issues of the rows for which its query is true, each row once, in the order that the
query asks for.
-/

namespace IssueQuery
open Sql

theorem SortTerm.compare_said {term : SortTerm} {key : SortKey} (said : term.said = (key.field, key.direction == .desc))
    (a b : Row) : term.compare a b = key.compare a b := by
  obtain ⟨name, way⟩ := Prod.mk.inj said
  rw [SortTerm.compare, SortKey.compare, ColumnName.value, ColumnName.value, name, way]
  cases Column.ofName? key.field <;> cases key.direction <;> rfl

theorem SortTerm.compareAll_said {terms : List SortTerm} {keys : List SortKey}
    (said : terms.map SortTerm.said = keys.map fun key => (key.field, key.direction == .desc)) (a b : Row) :
    SortTerm.compareAll terms a b = SortKey.compareAll keys a b := by
  induction keys generalizing terms with
  | nil =>
    rw [List.map_eq_nil_iff.1 said]
    rfl
  | cons key keys ih =>
    cases terms with
    | nil => cases said
    | cons term terms =>
      obtain ⟨first, others⟩ := List.cons.inj said
      have rest := ih others
      rw [SortTerm.compareAll, SortKey.compareAll] at rest ⊢
      rw [List.foldr_cons, List.foldr_cons, rest, SortTerm.compare_said first]

/-- An answerable query finds the issues of the rows for which it is true, in its order. -/
theorem Query.finds {query : Query} {store : Store} (answerable : query.Answerable)
    (readable : ∀ row ∈ store.rows, ∃ issue, row.read = .ok issue) :
    ∃ filter, ∃ rows : List Row, ∃ issues : List Issue, query.compile = .ok filter ∧ store.find filter = .ok issues ∧
      issues.map Except.ok = rows.map Row.read ∧ rows.Perm (store.rows.filter query.selects) ∧
      rows.Pairwise fun a b => SortKey.compareAll query.ordering a b ≠ .gt := by
  obtain ⟨filter, terms, compiled, said, found⟩ := query.find_rows answerable store
  have perm := List.mergeSort_perm (store.rows.filter query.selects) fun a b =>
    SortTerm.compareAll terms a b != .gt
  have sorted := SortTerm.sorted terms (store.rows.filter query.selects)
  obtain ⟨issues, read, same⟩ := mapM_read fun row member =>
    readable row (List.mem_of_mem_filter (perm.mem_iff.1 member))
  refine ⟨filter, _, issues, compiled, ?_, same, perm, sorted.imp ?_⟩
  · rw [found, read]
    rfl
  · intro a b ordered after
    rw [SortTerm.compareAll_said said] at ordered
    exact ordered after

theorem Row.read_id {row : Row} {issue : Issue} (read : row.read = .ok issue) : issue.id = row.id := by
  obtain ⟨resolved, _, read⟩ := ok_of_bind read
  obtain ⟨createdAt, _, read⟩ := ok_of_bind read
  obtain ⟨updatedAt, _, read⟩ := ok_of_bind read
  cases read
  rfl

namespace Store

def Finds (store : Store) (conditions : List Element) (issues : List Issue) : Prop :=
  ∃ filter, Query.compile ⟨conditions, []⟩ = .ok filter ∧ store.find filter = .ok issues

/-- The issue is read from a row that passes a test. -/
def Shows (store : Store) (test : Row → Bool) (issue : Issue) : Prop :=
  ∃ row ∈ store.rows, test row = true ∧ row.read = .ok issue

theorem exists_finds {conditions : List Element} {store : Store} (answerable : Query.Answerable ⟨conditions, []⟩)
    (readable : ∀ row ∈ store.rows, ∃ issue, row.read = .ok issue) :
    ∃ issues, store.Finds conditions issues ∧
      ∀ issue, issue ∈ issues ↔ store.Shows (Query.selects ⟨conditions, []⟩) issue := by
  obtain ⟨filter, rows, issues, compiled, found, same, perm, _⟩ := Query.finds answerable readable
  refine ⟨issues, ⟨filter, compiled, found⟩, ?_⟩
  intro issue
  have member : issue ∈ issues ↔ .ok issue ∈ rows.map Row.read := by
    rw [← same]
    simp
  rw [member, List.mem_map]
  constructor
  · rintro ⟨row, inside, read⟩
    obtain ⟨stored, chosen⟩ := List.mem_filter.1 (perm.mem_iff.1 inside)
    exact ⟨row, stored, chosen, read⟩
  · rintro ⟨row, stored, chosen, read⟩
    exact ⟨row, perm.mem_iff.2 (List.mem_filter.2 ⟨stored, chosen⟩), read⟩

def Keyed (store : Store) : Prop :=
  (store.rows.map Row.id).Nodup

instance (store : Store) : Decidable store.Keyed :=
  inferInstanceAs (Decidable (List.Nodup _))

/-- A store that inserting and overwriting lead to. -/
inductive Reached : Store → Prop
  | empty : Reached .empty
  | insert {store : Store} (before : Reached store) (issue : Issue) : Reached (store.insert issue).2
  | overwrite {store next : Store} {id : Int} {column : TimeColumn} {value : Option String} {count : Nat}
      (before : Reached store) (done : store.overwrite id column value = .ok (count, next)) : Reached next

theorem setTime_id (column : TimeColumn) (value : Option String) (row : Row) :
    (setTime column value row).id = row.id := by
  cases column <;> rfl

theorem overwrite_ids {store next : Store} {id : Int} {column : TimeColumn} {value : Option String} {count : Nat}
    (done : store.overwrite id column value = .ok (count, next)) : next.rows.map Row.id = store.rows.map Row.id := by
  unfold overwrite at done
  dsimp only at done
  split at done
  · cases done
  · cases done
    rw [List.map_map]
    apply List.map_congr_left
    intro row _
    simp only [Function.comp_apply]
    split
    · exact setTime_id column value row
    · rfl

theorem Reached.ids {store : Store} (reached : store.Reached) :
    store.rows.map Row.id = (List.range store.rows.length).map fun place : Nat => (place : Int) + 1 := by
  induction reached with
  | empty => rfl
  | @insert store before issue ih =>
    rw [Store.insert, List.map_append, ih, List.length_append, List.length_singleton, List.range_succ, List.map_append]
    rfl
  | overwrite before done ih =>
    have ids := overwrite_ids done
    have length := congrArg List.length ids
    rw [List.length_map, List.length_map] at length
    rw [ids, ih, length]

theorem Reached.keyed {store : Store} (reached : store.Reached) : store.Keyed := by
  rw [Keyed, reached.ids]
  apply List.nodup_range.map
  intro a b same
  dsimp only at same
  omega

theorem Keyed.row_eq {store : Store} (keyed : store.Keyed) {a b : Row} {issue : Issue} (inside : a ∈ store.rows)
    (member : b ∈ store.rows) (first : a.read = .ok issue) (second : b.read = .ok issue) : a = b :=
  List.inj_on_of_nodup_map keyed inside member ((Row.read_id first).symm.trans (Row.read_id second))

variable {store : Store} {p q : Row → Bool} {issue : Issue}

theorem readable_of_isOk (ok : ∀ row ∈ store.rows, row.read.isOk = true) :
    ∀ row ∈ store.rows, ∃ issue, row.read = .ok issue := by
  intro row member
  have some := ok row member
  cases read : row.read with
  | ok issue => exact ⟨issue, rfl⟩
  | error bad => rw [read] at some; cases some

theorem shows_or : store.Shows (fun row => p row || q row) issue ↔ store.Shows p issue ∨ store.Shows q issue := by
  constructor
  · rintro ⟨row, inside, passed, read⟩
    exact (Bool.or_eq_true_iff.1 passed).imp (fun left => ⟨row, inside, left, read⟩)
      fun right => ⟨row, inside, right, read⟩
  · rintro (⟨row, inside, passed, read⟩ | ⟨row, inside, passed, read⟩)
    · exact ⟨row, inside, Bool.or_eq_true_iff.2 (.inl passed), read⟩
    · exact ⟨row, inside, Bool.or_eq_true_iff.2 (.inr passed), read⟩

theorem Keyed.shows_and (keyed : store.Keyed) :
    store.Shows (fun row => p row && q row) issue ↔ store.Shows p issue ∧ store.Shows q issue := by
  constructor
  · rintro ⟨row, inside, passed, read⟩
    obtain ⟨left, right⟩ := Bool.and_eq_true_iff.1 passed
    exact ⟨⟨row, inside, left, read⟩, row, inside, right, read⟩
  · rintro ⟨⟨row, inside, left, read⟩, other, member, right, again⟩
    cases keyed.row_eq inside member read again
    exact ⟨row, inside, Bool.and_eq_true_iff.2 ⟨left, right⟩, read⟩

/-- The other issues are those of all rows that are left. -/
theorem Keyed.shows_not (keyed : store.Keyed) :
    store.Shows (fun row => !p row) issue ↔ (∃ row ∈ store.rows, row.read = .ok issue) ∧ ¬store.Shows p issue := by
  constructor
  · rintro ⟨row, inside, failed, read⟩
    refine ⟨⟨row, inside, read⟩, ?_⟩
    rintro ⟨other, member, passed, again⟩
    cases keyed.row_eq inside member read again
    rw [Bool.not_eq_true', passed] at failed
    cases failed
  · rintro ⟨⟨row, inside, read⟩, absent⟩
    refine ⟨row, inside, ?_, read⟩
    rw [Bool.not_eq_true', Bool.eq_false_iff]
    exact fun passed => absent ⟨row, inside, passed, read⟩

end Store

end IssueQuery
