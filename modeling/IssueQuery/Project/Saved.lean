import IssueQuery.Issue.Json
import IssueQuery.Project.Tree

/-! Files as they lie on disk. A database is a line that says so and the rows of its store as JSON. -/

namespace IssueQuery

open Json

namespace Row

def optionalText : Option String → Json.Value
  | none => .null
  | some text => .string text

def toJson (row : Row) : Json.Value :=
  .array
    [.int row.id, .string row.title, .string row.description, .string row.status,
      .string row.assignee, .string row.priority, optionalText row.resolved,
      .string row.createdAt, .string row.updatedAt]

def optionalTextOf? : Json.Value → Option (Option String)
  | .null => some none
  | .string text => some (some text)
  | _ => none

def ofJson? : Json.Value → Option Row
  | .array
      [id, .string title, .string description, .string status, .string assignee, .string priority,
        resolved, .string createdAt, .string updatedAt] => do
    return {
      id := ← Issue.idOfJson? id
      title := title
      description := description
      status := status
      assignee := assignee
      priority := priority
      resolved := ← optionalTextOf? resolved
      createdAt := createdAt
      updatedAt := updatedAt }
  | _ => none

end Row

namespace Store

def heading : String := "issue database, version 1\n"

def written (store : Store) : String :=
  heading ++ (Json.Value.array (store.rows.map Row.toJson)).compact ++ "\n"

def read? (text : String) : Option Store :=
  if !heading.toList.isPrefixOf text.toList then none
  else
    match Json.Value.read? (String.ofList (text.toList.drop heading.length)) with
    | some (.array rows) => (rows.mapM Row.ofJson?).map Store.mk
    | _ => none

end Store

namespace Entry

def ofContent (content : String) : Entry :=
  match Store.read? content with
  | some store => .database store
  | none => .text content

def content? : Entry → Option String
  | directory => none
  | text content => some content
  | database store => some store.written

end Entry

end IssueQuery
