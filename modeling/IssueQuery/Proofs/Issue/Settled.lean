import IssueQuery.Proofs.Time.Stored
import IssueQuery.Store.Row

/-!
Issues with settled times. A row has the times of an issue as their clocks show them, so that of the settled issue is
the same.
-/

namespace IssueQuery

namespace Issue

/-- All times of the issue have their leap seconds at the ends of minutes. -/
structure HasPlainSeconds (issue : Issue) : Prop where
  resolved : ∀ instant ∈ issue.resolved, instant.HasPlainSecond
  createdAt : issue.createdAt.HasPlainSecond
  updatedAt : issue.updatedAt.HasPlainSecond

/-- The issue with its times as their clocks show them. -/
def settled (issue : Issue) : Issue :=
  { issue with
    resolved := issue.resolved.map Instant.settled
    createdAt := issue.createdAt.settled
    updatedAt := issue.updatedAt.settled }

theorem with_id_inj {a b : Issue} {id : Int} (same : a.id = b.id) :
    ({ a with id := id } : Issue) = { b with id := id } ↔ a = b := by
  obtain ⟨id, title, description, status, assignee, priority, resolved, createdAt, updatedAt⟩ := a
  obtain ⟨id', title', description', status', assignee', priority', resolved', createdAt', updatedAt'⟩ := b
  cases same
  simp only [Issue.mk.injEq, true_and]

theorem map_settled_eq_self {resolved : Option Instant} :
    resolved.map Instant.settled = resolved ↔ ∀ instant ∈ resolved, instant.HasPlainSecond := by
  cases resolved <;> simp [Instant.settled_eq_self]

theorem settled_eq_self {issue : Issue} : issue.settled = issue ↔ issue.HasPlainSeconds := by
  constructor
  · intro same
    exact ⟨map_settled_eq_self.1 (congrArg Issue.resolved same),
      Instant.settled_eq_self.1 (congrArg Issue.createdAt same),
      Instant.settled_eq_self.1 (congrArg Issue.updatedAt same)⟩
  · intro plain
    rw [settled, map_settled_eq_self.2 plain.resolved, Instant.settled_of_plain plain.createdAt,
      Instant.settled_of_plain plain.updatedAt]

theorem settled_settled (issue : Issue) : issue.settled.settled = issue.settled := by
  refine settled_eq_self.2 ⟨?_, Instant.hasPlainSecond_settled _, Instant.hasPlainSecond_settled _⟩
  intro instant found
  obtain ⟨origin, _, rfl⟩ := Option.map_eq_some_iff.1 found
  exact Instant.hasPlainSecond_settled origin

theorem map_settled {issues : List Issue} (plain : ∀ issue ∈ issues, issue.HasPlainSeconds) :
    issues.map settled = issues :=
  calc issues.map settled
    _ = issues.map fun issue => issue := List.map_congr_left fun issue member => settled_eq_self.2 (plain issue member)
    _ = issues := List.map_id' issues

theorem row_settled (id : Int) (issue : Issue) : Row.ofIssue id issue.settled = Row.ofIssue id issue := by
  simp [Row.ofIssue, settled, Function.comp_def]

end Issue

end IssueQuery
