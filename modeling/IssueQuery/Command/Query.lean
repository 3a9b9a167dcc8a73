import IssueQuery.Command.Error
import IssueQuery.Issue.Json
import IssueQuery.Query.Prepare

/-! Running a query and printing what it finds. -/

namespace IssueQuery

inductive OutputFormat where
  | text | json
  deriving DecidableEq, Repr

def Store.findByText (store : Store) (text : String) : Except CommandError (List Issue) :=
  match Query.prepare text with
  | .error cause => .error (.failure cause)
  | .ok prepared => (store.find prepared.filter).mapError .failure

namespace Issue

def listing (issues : List Issue) : String :=
  String.join (issues.map fun issue => issue.line ++ "\n")

def envelope (issues : List Issue) : Json.Value :=
  .object
    [("status", .string "success"), ("results", .int issues.length),
      ("data", .array (issues.map toJson))]

def print (output : OutputFormat) (issues : List Issue) : String :=
  match output with
  | .text => listing issues
  | .json => (envelope issues).pretty ++ "\n"

end Issue

def Store.query (store : Store) (text : String) (output : OutputFormat) :
    Except CommandError String :=
  (store.findByText text).map (Issue.print output)

def CommandError.envelope (error : CommandError) : Json.Value :=
  .object [("status", .string error.status), ("message", .string error.message)]

end IssueQuery
