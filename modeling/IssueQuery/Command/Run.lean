import IssueQuery.Command.Arguments
import IssueQuery.Command.Report
import IssueQuery.Project.Basic

/-!
Running commands. A command works on a tree of files and leaves behind what it prints, what it reports to
the log and how it ended.
-/

namespace IssueQuery

open Log

structure Transcript where
  output : String := ""
  records : List Record := []
  deriving DecidableEq, Repr

/-- A command at work: it writes a transcript, changes the tree, and may fail. What it has written before it
fails stays written. -/
abbrev Running := ExceptT CommandError (StateT Transcript (StateM Tree))

namespace Running

def print (text : String) : Running Unit :=
  modify fun transcript => { transcript with output := transcript.output ++ text }

def report (records : List Record) : Running Unit :=
  modify fun transcript => { transcript with records := transcript.records ++ records }

def onTree {α : Type} (action : TreeAction CommandError α) : Running α :=
  fun transcript tree =>
    let (result, tree) := action tree
    ((result, transcript), tree)

def withEnvelope (output : OutputFormat) (action : Running Unit) : Running Unit :=
  tryCatch action fun error => do
    if output = .json then print (error.envelope.pretty ++ "\n")
    throw error

end Running

open Running

def openProject (here : Location) : Running Database := do
  let (_, path) ← onTree (TreeAction.of fun tree => Project.settings tree here)
  report [openingRecord path]
  onTree (Database.openAt here path)

def runInit (here : Location) (path : Option String) : Running Unit := do
  let work ← onTree (Project.init here (path.getD here.path))
  print s!"Initialized issue database at {work}\n"

def runNew (here : Location) (draft : Draft) (now : Instant) : Running Unit := do
  let database ← openProject here
  match database.store.create draft now with
  | .error error => throw error
  | .ok (id, store) =>
    onTree { database with store }.save
    report [createdRecord id]
    print s!"Created issue #{toString id}\n"

def runQuery (here : Location) (text : String) (output : OutputFormat) : Running Unit :=
  withEnvelope output do
    let database ← openProject here
    report (database.store.records text)
    match database.store.query text output with
    | .error error => throw error
    | .ok printed => print printed

def runExplain (text : String) (output : OutputFormat) : Running Unit :=
  withEnvelope output do
    report (Query.records text)
    match Query.explain text output with
    | .error error => throw error
    | .ok printed => print printed

namespace Command

def run (here : Location) (now : Instant) : Command → Running Unit
  | .init path => runInit here path
  | .new draft => runNew here draft now
  | .query text output => runQuery here text output
  | .explain text output => runExplain text output
  | .completion _ => pure ()

end Command

structure Outcome where
  exitCode : Nat
  output : String
  errors : String
  deriving DecidableEq, Repr

def asLines (lines : List String) : String :=
  String.join (lines.map (· ++ "\n"))

namespace Invocation

/-- Runs a command in its directory. The log comes before the failure that ends it. -/
def run (invocation : Invocation) (directives : Directives) (here : Location) (now : Instant)
    (tree : Tree) : Outcome × Tree :=
  let directory := invocation.directory.map fun path => (path, tree.directory here path)
  match directory with
  | some (path, .error reason) =>
    (⟨1, "", s!"error: cannot change to directory '{path}': {reason.message}\n"⟩, tree)
  | some (_, .ok inside) => finish (invocation.command.run inside now {} tree)
  | none => finish (invocation.command.run here now {} tree)
where
  finish : (Except CommandError Unit × Transcript) × Tree → Outcome × Tree
    | ((result, transcript), tree) =>
      let log := asLines (directives.lines transcript.records)
      match result with
      | .ok _ => (⟨0, transcript.output, log⟩, tree)
      | .error error =>
        (⟨error.exitCode, transcript.output, log ++ s!"error: {error.message}\n"⟩, tree)

end Invocation

end IssueQuery
