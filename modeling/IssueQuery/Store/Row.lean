import IssueQuery.Issue.Basic
import IssueQuery.Time.Reader
import IssueQuery.Time.Written

/-! Stored issues. A row keeps its times as text; they are read back only when the row is. -/

namespace IssueQuery

inductive Column where
  | id | title | description | status | assignee | priority | resolved | createdAt | updatedAt
  deriving DecidableEq, Repr

namespace Column

def name : Column → String
  | id => "id"
  | title => "title"
  | description => "description"
  | status => "status"
  | assignee => "assignee"
  | priority => "priority"
  | resolved => "resolved"
  | createdAt => "created_at"
  | updatedAt => "updated_at"

def all : List Column :=
  [id, title, description, status, assignee, priority, resolved, createdAt, updatedAt]

/-- Names that mean the row id without being a column's. -/
def idAliases : List String :=
  ["rowid", "oid", "_rowid_"]

def ofName? (name : String) : Option Column :=
  let lower := String.ofList (name.toList.map Char.toLower)
  match all.find? fun column => column.name == lower with
  | some column => some column
  | none => if lower ∈ idAliases then some id else none

end Column

inductive TimeColumn where
  | resolved | createdAt | updatedAt
  deriving DecidableEq, Repr

def TimeColumn.name : TimeColumn → String
  | resolved => "resolved"
  | createdAt => "created_at"
  | updatedAt => "updated_at"

inductive Cell where
  | null
  | integer (n : Int)
  | text (text : String)
  deriving DecidableEq, Repr

structure Row where
  id : Int
  title : String
  description : String
  status : String
  assignee : String
  priority : String
  resolved : Option String
  createdAt : String
  updatedAt : String
  deriving DecidableEq, Repr

namespace Row

def value (row : Row) : Column → Cell
  | .id => .integer row.id
  | .title => .text row.title
  | .description => .text row.description
  | .status => .text row.status
  | .assignee => .text row.assignee
  | .priority => .text row.priority
  | .resolved =>
    match row.resolved with
    | none => .null
    | some text => .text text
  | .createdAt => .text row.createdAt
  | .updatedAt => .text row.updatedAt

def ofIssue (id : Int) (issue : Issue) : Row where
  id := id
  title := issue.title
  description := issue.description
  status := issue.status
  assignee := issue.assignee
  priority := issue.priority
  resolved := issue.resolved.map Instant.stored
  createdAt := issue.createdAt.stored
  updatedAt := issue.updatedAt.stored

end Row

structure BadTime where
  column : TimeColumn
  value : String
  deriving DecidableEq, Repr

def readTime (column : TimeColumn) (text : String) : Except BadTime Instant :=
  match Instant.readStrict? text with
  | some instant => .ok instant
  | none => .error ⟨column, text⟩

def readOptionalTime (column : TimeColumn) : Option String → Except BadTime (Option Instant)
  | none => .ok none
  | some text => (readTime column text).map some

/-- Of several unreadable times, `resolved` is reported first and `updated_at` last. -/
def Row.read (row : Row) : Except BadTime Issue := do
  let resolved ← readOptionalTime .resolved row.resolved
  let createdAt ← readTime .createdAt row.createdAt
  let updatedAt ← readTime .updatedAt row.updatedAt
  return {
    id := row.id
    title := row.title
    description := row.description
    status := row.status
    assignee := row.assignee
    priority := row.priority
    resolved := resolved
    createdAt := createdAt
    updatedAt := updatedAt }

end IssueQuery
