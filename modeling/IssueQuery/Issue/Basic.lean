import IssueQuery.Time.Instant

/-! Issues: tracked pieces of work. Status, priority and assignee are free text; no assignee is the empty
text. -/

namespace IssueQuery

structure Issue where
  id : Int
  title : String
  description : String
  status : String
  assignee : String
  priority : String
  resolved : Option Instant
  createdAt : Instant
  updatedAt : Instant
  deriving DecidableEq

namespace Issue

def defaultStatus : String := "open"

def defaultPriority : String := "medium"

def new (title : String) (createdAt : Instant) : Issue where
  id := 0
  title := title
  description := ""
  status := defaultStatus
  assignee := ""
  priority := defaultPriority
  resolved := none
  createdAt := createdAt
  updatedAt := createdAt

def isResolved (issue : Issue) : Bool :=
  issue.resolved.isSome

def line (issue : Issue) : String :=
  s!"#{toString issue.id} [{issue.status}] [{issue.priority}] {issue.title}" ++
    if issue.assignee.isEmpty then "" else s!" (@{issue.assignee})"

end Issue

end IssueQuery
