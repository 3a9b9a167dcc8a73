import IssueQuery.Proofs.Store.Creation
import IssueQuery.Proofs.Store.Found
import Mathlib.Data.List.Perm.Basic

/-!
Searching among issues that were stored one after the other: what is found are issues again, as the store numbers
them, with their times settled.
-/

namespace IssueQuery
open Sql

namespace Issue

def row (issue : Issue) : Row :=
  Row.ofIssue issue.id issue

def numbered (issues : List Issue) : List Issue :=
  issues.mapIdx fun i issue => { issue with id := i + 1 }

theorem Readable.numbered {issues : List Issue} (readable : ∀ issue ∈ issues, issue.Readable) :
    ∀ issue ∈ numbered issues, issue.Readable := by
  intro issue member
  obtain ⟨place, inside, rfl⟩ := List.mem_mapIdx.1 member
  have origin := readable _ (List.getElem_mem inside)
  exact ⟨origin.resolved, origin.createdAt, origin.updatedAt⟩

theorem HasPlainSeconds.numbered {issues : List Issue} (plain : ∀ issue ∈ issues, issue.HasPlainSeconds) :
    ∀ issue ∈ Issue.numbered issues, issue.HasPlainSeconds := by
  intro issue member
  obtain ⟨place, inside, rfl⟩ := List.mem_mapIdx.1 member
  have origin := plain _ (List.getElem_mem inside)
  exact ⟨origin.resolved, origin.createdAt, origin.updatedAt⟩

theorem read_row {issue : Issue} (readable : issue.Readable) : issue.row.read = .ok issue.settled :=
  Row.read_ofIssue readable issue.id

@[simp] theorem row_of_settled (issue : Issue) : issue.settled.row = issue.row :=
  row_settled issue.id issue

theorem settled_mem_map {issues : List Issue} {issue : Issue} (member : issue ∈ issues) (selects : Row → Bool) :
    issue.settled ∈ (issues.filter fun issue => selects issue.row).map settled ↔ selects issue.row = true := by
  constructor
  · intro found
    obtain ⟨other, inside, same⟩ := List.mem_map.1 found
    rw [← issue.row_of_settled, ← same, row_of_settled]
    exact (List.mem_filter.1 inside).2
  · intro selected
    exact List.mem_map_of_mem (List.mem_filter.2 ⟨member, selected⟩)

theorem map_row {issues : List Issue} {rows : List Row} (same : issues.map Except.ok = rows.map Row.read)
    (back : ∀ row ∈ rows, ∃ issue : Issue, row.read = .ok issue ∧ issue.row = row) : issues.map row = rows := by
  induction rows generalizing issues with
  | nil =>
    rw [List.map_eq_nil_iff.1 same]
    rfl
  | cons row rest ih =>
    cases issues with
    | nil => cases same
    | cons issue others =>
      obtain ⟨first, later⟩ := List.cons.inj same
      obtain ⟨origin, read, stored⟩ := back row List.mem_cons_self
      cases first.trans read
      rw [List.map_cons, stored, ih later fun row member => back row (List.mem_cons_of_mem _ member)]

end Issue

namespace Store

def insertAll (store : Store) (issues : List Issue) : Store :=
  issues.foldl (fun store issue => (store.insert issue).2) store

theorem insertAll_holding (before issues : List Issue) :
    (holding before).insertAll issues = holding (before ++ issues) := by
  induction issues generalizing before with
  | nil => rw [List.append_nil]; rfl
  | cons issue rest ih =>
    rw [insertAll, List.foldl_cons, insert_holding]
    have later := ih (before ++ [issue])
    rw [List.append_assoc] at later
    exact later

theorem rows_insertAll (issues : List Issue) :
    (empty.insertAll issues).rows = (Issue.numbered issues).map Issue.row := by
  have same : empty.insertAll issues = holding issues := insertAll_holding [] issues
  rw [same]
  apply List.ext_getElem
  · simp [holding, Issue.numbered]
  · intro place _ _
    simp [holding, Issue.numbered, Issue.row, Row.ofIssue]

end Store

/-- What an answerable query finds among issues that were stored in an empty store. -/
theorem Query.finds_inserted {query : Query} (answerable : query.Answerable) {issues : List Issue}
    (readable : ∀ issue ∈ issues, issue.Readable) :
    ∃ filter found, query.compile = .ok filter ∧ (Store.empty.insertAll issues).find filter = .ok found ∧
      found.Perm (((Issue.numbered issues).filter fun issue => query.selects issue.row).map Issue.settled) ∧
      found.Pairwise fun a b => SortKey.compareAll query.ordering a.row b.row ≠ .gt := by
  have back : ∀ issue ∈ Issue.numbered issues, issue.row.read = .ok issue.settled :=
    fun issue member => Issue.read_row (Issue.Readable.numbered readable issue member)
  have rows := Store.rows_insertAll issues
  have readableRows : ∀ row ∈ (Store.empty.insertAll issues).rows, ∃ issue, row.read = .ok issue := by
    intro row member
    rw [rows] at member
    obtain ⟨issue, inside, rfl⟩ := List.mem_map.1 member
    exact ⟨issue.settled, back issue inside⟩
  obtain ⟨filter, chosen, found, compiled, answer, same, perm, sorted⟩ := Query.finds answerable readableRows
  rw [rows, List.filter_map] at perm
  refine ⟨filter, found, compiled, answer, ?_, ?_⟩
  · have reads : (found.map Except.ok).Perm
        ((((Issue.numbered issues).filter fun issue => query.selects issue.row).map Issue.settled).map
          (Except.ok (ε := BadTime))) := by
      rw [same]
      refine (perm.map Row.read).trans (.of_eq ?_)
      rw [List.map_map, List.map_map]
      exact List.map_congr_left fun issue member => back issue (List.mem_of_mem_filter member)
    exact (List.map_perm_map_iff fun _ _ => Except.ok.inj).1 reads
  · have stored : found.map Issue.row = chosen := by
      apply Issue.map_row same
      intro row member
      obtain ⟨issue, inside, rfl⟩ := List.mem_map.1 (perm.mem_iff.1 member)
      exact ⟨issue.settled, back issue (List.mem_of_mem_filter inside), issue.row_of_settled⟩
    rw [← stored] at sorted
    exact List.pairwise_map.1 sorted

end IssueQuery
