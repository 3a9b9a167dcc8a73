import IssueQuery.Issue.Json
import IssueQuery.Proofs.Issue.Settled
import IssueQuery.Proofs.Json.Reading
import IssueQuery.Proofs.Time.Loose

/-!
Issues as JSON text. An issue is read back with its times as their clocks show them if its id is one that can be read;
when it was resolved stands in the text only where it is known.
-/

namespace IssueQuery
open Json

namespace Issue

def IsId (n : Int) : Prop :=
  -9223372036854775808 ≤ n ∧ n ≤ 9223372036854775807

instance (n : Int) : Decidable (IsId n) :=
  inferInstanceAs (Decidable (_ ∧ _))

theorem all_isDigit_toDigits (n : Nat) : (Nat.toDigits 10 n).all Char.isDigit = true :=
  List.all_eq_true.2 fun _ => Text.isDigit_toDigits

theorem idOfJson?_int (n : Int) : idOfJson? (.int n) = if IsId n then some n else none := by
  have power : Nat.pow 2 63 = 9223372036854775808 := rfl
  rw [Value.int, idOfJson?]
  cases n with
  | ofNat n =>
    rw [toList_int_ofNat]
    split
    · next digits same =>
      have digit : ('-').isDigit = true := Text.isDigit_toDigits (same ▸ List.mem_cons_self)
      exact absurd digit (by decide)
    · rw [all_isDigit_toDigits, Text.digitsValue_toDigits, power]
      refine if_congr ?_ rfl rfl
      simp only [IsId, Int.ofNat_eq_natCast, true_and]
      omega
  | negSucc n =>
    rw [toList_int_negSucc]
    change (if (Nat.toDigits 10 (n + 1)).all Char.isDigit = true ∧ 0 < Text.digitsValue (Nat.toDigits 10 (n + 1)) ∧
      Text.digitsValue (Nat.toDigits 10 (n + 1)) ≤ Nat.pow 2 63 then
        some (-(Text.digitsValue (Nat.toDigits 10 (n + 1)) : Int)) else none) = _
    rw [all_isDigit_toDigits, Text.digitsValue_toDigits, power]
    refine if_congr ?_ rfl rfl
    simp only [IsId, Int.negSucc_eq, true_and]
    omega

theorem ofJson?_toJson (issue : Issue) : ofJson? issue.toJson =
    ofValues? (.int issue.id) (.string issue.title) (.string issue.description) (.string issue.status)
      (.string issue.assignee) (.string issue.priority) (issue.resolved.elim .null fun time => .string time.json)
      (.string issue.createdAt.json) (.string issue.updatedAt.json) := by
  obtain ⟨id, title, description, status, assignee, priority, resolved, createdAt, updatedAt⟩ := issue
  cases resolved with
  | none => rfl
  | some time => rfl

theorem ofValues?_written (issue : Issue) :
    ofValues? (.int issue.id) (.string issue.title) (.string issue.description) (.string issue.status)
      (.string issue.assignee) (.string issue.priority) (issue.resolved.elim .null fun time => .string time.json)
      (.string issue.createdAt.json) (.string issue.updatedAt.json) =
    if IsId issue.id then some issue.settled else none := by
  have resolved : resolvedOfJson? (issue.resolved.elim .null fun time => .string time.json) =
      some (issue.resolved.map Instant.settled) := by
    cases issue.resolved with
    | none => rfl
    | some time => rw [Option.elim_some, resolvedOfJson?, instantOfJson?, Instant.readLoose?_json]; rfl; exact nofun
  rw [ofValues?, idOfJson?_int]
  split
  · rw [resolved, instantOfJson?, instantOfJson?, Instant.readLoose?_json, Instant.readLoose?_json]
    rfl
  · rfl

theorem plain_toJson (issue : Issue) : issue.toJson.Plain := by
  refine .object fun member inside => ?_
  obtain ⟨id, title, description, status, assignee, priority, resolved, createdAt, updatedAt⟩ := issue
  cases resolved with
  | none =>
    simp only [List.append_nil, List.cons_append, List.nil_append, List.mem_cons, List.not_mem_nil, or_false] at inside
    rcases inside with rfl | rfl | rfl | rfl | rfl | rfl | rfl | rfl
    · exact .int id
    all_goals exact .string _
  | some time =>
    simp only [List.cons_append, List.nil_append, List.mem_cons, List.not_mem_nil, or_false] at inside
    rcases inside with rfl | rfl | rfl | rfl | rfl | rfl | rfl | rfl | rfl
    · exact .int id
    all_goals exact .string _

def keys (issue : Issue) : List String :=
  ["id", "title", "description", "status", "assignee", "priority"] ++
    (if issue.isResolved then ["resolved"] else []) ++ ["created_at", "updated_at"]

theorem read?_writtenJson (issue : Issue) : Value.read? issue.writtenJson = some issue.toJson :=
  (plain_toJson issue).read?_compact

theorem readJson?_written (issue : Issue) :
    readJson? issue.writtenJson = if IsId issue.id then some issue.settled else none := by
  rw [readJson?, read?_writtenJson]
  exact (ofJson?_toJson issue).trans (ofValues?_written issue)

/-- The text of an issue is read as an object with the keys of the issue, of which `resolved` is one exactly if that is
known, and as the settled issue exactly if the id is a number that can be read. That is the issue itself exactly if
its leap seconds are at the ends of minutes. -/
theorem readJson?_writtenJson (issue : Issue) :
    (∃ members, Value.read? issue.writtenJson = some (.object members) ∧ members.map Prod.fst = issue.keys) ∧
      issue.keys.Nodup ∧ ("resolved" ∈ issue.keys ↔ issue.isResolved = true) ∧
      (readJson? issue.writtenJson = if IsId issue.id then some issue.settled else none) ∧
      (readJson? issue.writtenJson = some issue ↔ IsId issue.id ∧ issue.HasPlainSeconds) := by
  refine ⟨⟨_, read?_writtenJson issue, ?_⟩, ?_, ?_, readJson?_written issue, ?_⟩
  · unfold keys isResolved
    cases issue.resolved <;> rfl
  · unfold keys
    split <;> decide
  · unfold keys
    split
    · next known => exact iff_of_true (by decide) known
    · next unknown => exact iff_of_false (by decide) unknown
  · rw [readJson?_written, ← settled_eq_self]
    split
    · next known => rw [Option.some.injEq, and_iff_right known]
    · next unknown => exact iff_of_false (by simp) fun both => unknown both.1

/-- An issue that was created at noon with so many nanoseconds that the clock shows the next second. -/
def longNoonIssue : Issue :=
  .new "a" ((Instant.ofParts? ((Date.ofParts? 2024 3 1).get (by decide)) 43200 1500000000).get (by decide))

/-- The issue is read back as one that was created in the next second. -/
theorem longNoonIssue_reread :
    longNoonIssue.createdAt.json = "2024-03-01T12:00:01.500Z" ∧
      ∃ back, readJson? longNoonIssue.writtenJson = some back ∧ back ≠ longNoonIssue ∧
        back.createdAt.second = 43201 ∧ longNoonIssue.createdAt.second = 43200 := by
  refine ⟨by decide +kernel, longNoonIssue.settled, ?_, by decide, by decide, by decide⟩
  rw [readJson?_written, if_pos (by decide)]

end Issue
end IssueQuery
