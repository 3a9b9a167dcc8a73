import IssueQuery.Command.Error
import IssueQuery.Text.CharClass

/-! Creating an issue from what a user has given. -/

namespace IssueQuery

open Text

structure Draft where
  title : String
  description : Option String := none
  status : String := Issue.defaultStatus
  priority : String := Issue.defaultPriority
  assignee : Option String := none
  resolved : Option String := none
  deriving DecidableEq, Repr

def readResolved (text : String) : Except CommandError Instant :=
  match Instant.readGiven? text with
  | some instant => .ok instant
  | none => .error (.invalidTimestamp s!"'{text}' is not a date or RFC 3339 timestamp")

namespace Draft

def toIssue (draft : Draft) (now : Instant) : Except CommandError Issue := do
  if blank draft.status.toList then throw (.fieldEmpty "status")
  if blank draft.priority.toList then throw (.fieldEmpty "priority")
  let resolved ← draft.resolved.mapM readResolved
  return {
    Issue.new (String.ofList (trim draft.title.toList)) now with
    description := draft.description.getD ""
    status := draft.status
    priority := draft.priority
    assignee := draft.assignee.getD ""
    resolved := resolved }

end Draft

def Store.create (store : Store) (draft : Draft) (now : Instant) :
    Except CommandError (Int × Store) := do
  return store.insert (← draft.toIssue now)

end IssueQuery
