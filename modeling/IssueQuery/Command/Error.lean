import IssueQuery.Store.Basic

/-! Everything that can go wrong in a command, its wording and its exit code. -/

namespace IssueQuery

inductive CommandError where
  | notInitialized
  | alreadyInitialized (path : String)
  | invalidTimestamp (reason : String)
  | fieldEmpty (field : String)
  | failure (cause : Failure)
  | io (reason : String)
  | json (reason : String)
  | config (reason : String)
  deriving DecidableEq, Repr

namespace CommandError

def message : CommandError → String
  | notInitialized => "not initialized: run 'jql init' first"
  | alreadyInitialized path => s!"already initialized at {path}"
  | invalidTimestamp reason =>
    s!"invalid timestamp: {reason}\n" ++
      "  hint: use RFC 3339 (2024-03-01T12:00:00Z) or a date (2024-03-01)"
  | fieldEmpty field => s!"{field} cannot be empty"
  | failure cause => cause.message
  | io reason => s!"io error: {reason}"
  | json reason => s!"json error: {reason}"
  | config reason => s!"config error: {reason}"

def isClient : CommandError → Bool
  | failure cause => cause.isClient
  | _ => false

def exitCode (error : CommandError) : Nat :=
  if error.isClient then 2 else 1

def status (error : CommandError) : String :=
  if error.isClient then "fail" else "error"

end CommandError

end IssueQuery
