import IssueQuery.Issue.Basic
import IssueQuery.Json.Reader
import IssueQuery.Json.Writer
import IssueQuery.Time.Reader
import IssueQuery.Time.Written

/-! Issues as JSON. An unset `resolved` is left out when an issue is written. When one is read, unknown
keys are passed over and a known key may stand only once; a plain list of the nine values will do too. -/

namespace IssueQuery

open Json

namespace Issue

def toJson (issue : Issue) : Value :=
  .object <|
    [("id", .int issue.id),
      ("title", .string issue.title),
      ("description", .string issue.description),
      ("status", .string issue.status),
      ("assignee", .string issue.assignee),
      ("priority", .string issue.priority)] ++
    (match issue.resolved with
      | none => []
      | some instant => [("resolved", .string instant.json)]) ++
    [("created_at", .string issue.createdAt.json),
      ("updated_at", .string issue.updatedAt.json)]

def idOfJson? : Value → Option Int
  | .number literal =>
    match literal.toList with
    | '-' :: digits =>
      if digits.all Char.isDigit ∧ 0 < Text.digitsValue digits ∧ Text.digitsValue digits ≤ Nat.pow 2 63 then
        some (-(Text.digitsValue digits : Int))
      else none
    | digits =>
      if digits.all Char.isDigit ∧ Text.digitsValue digits < Nat.pow 2 63 then
        some (Text.digitsValue digits)
      else none
  | _ => none

def textOfJson? : Value → Option String
  | .string text => some text
  | _ => none

def instantOfJson? : Value → Option Instant
  | .string text => Instant.readLoose? text
  | _ => none

def resolvedOfJson? : Value → Option (Option Instant)
  | .null => some none
  | value => (instantOfJson? value).map some

def ofValues? (id title description status assignee priority resolved createdAt updatedAt : Value) :
    Option Issue := do
  return {
    id := ← idOfJson? id
    title := ← textOfJson? title
    description := ← textOfJson? description
    status := ← textOfJson? status
    assignee := ← textOfJson? assignee
    priority := ← textOfJson? priority
    resolved := ← resolvedOfJson? resolved
    createdAt := ← instantOfJson? createdAt
    updatedAt := ← instantOfJson? updatedAt }

def member? (members : List (String × Value)) (key : String) : Option (Option Value) :=
  match members.filter fun member => member.1 == key with
  | [] => some none
  | [member] => some (some member.2)
  | _ => none

def required? (members : List (String × Value)) (key : String) : Option Value := do
  ← member? members key

def ofJson? : Value → Option Issue
  | .array [id, title, description, status, assignee, priority, resolved, createdAt, updatedAt] =>
    ofValues? id title description status assignee priority resolved createdAt updatedAt
  | .object members => do
    ofValues? (← required? members "id") (← required? members "title")
      (← required? members "description") (← required? members "status")
      (← required? members "assignee") (← required? members "priority")
      ((← member? members "resolved").getD .null)
      (← required? members "created_at") (← required? members "updated_at")
  | _ => none

def readJson? (text : String) : Option Issue := do
  ofJson? (← Value.read? text)

def writtenJson (issue : Issue) : String :=
  issue.toJson.compact

end Issue

end IssueQuery
