import IssueQuery.Command.Query
import IssueQuery.Config.Basic

/-!
Searches that may be broken off. The engine can fail on a statement or at any of its rows, and a watchdog interrupts
it when the time is up. What a row holds is reported through the engine as well and told apart afterwards.
-/

namespace IssueQuery

/-- A failure that the engine hands on. A cell that does not convert comes with the reason of its reader. -/
inductive EngineError (Reason : Type) where
  | sql (cause : SqlError)
  | conversion (reason : Reason)
  deriving DecidableEq, Repr

namespace EngineError

abbrev Handed := EngineError (Failure ⊕ String)

def foreign : EngineError String → Handed
  | sql cause => .sql cause
  | conversion reason => .conversion (.inr reason)

def unwrap : Handed → Except (EngineError String) Failure
  | sql cause => .error (.sql cause)
  | conversion (.inl inner) => .ok inner
  | conversion (.inr reason) => .error (.conversion reason)

def isInterrupt : Handed → Bool
  | sql .interrupted => true
  | _ => false

def execution (sql : String) (error : Handed) : Failure :=
  match error.unwrap with
  | .ok inner => inner
  | .error (.sql cause) => .execution cause sql
  | .error (.conversion reason) => .execution (.failed reason) sql

end EngineError

open EngineError (Handed)

/-- How the engine serves a statement: what keeps it from being prepared, what breaks it off and after how many
rows, a cell of the wrong kind for example, and whether the watchdog has interrupted it. -/
structure Course where
  unprepared : Option SqlError := none
  broken : Option (Nat × EngineError String) := none
  expired : Bool := false
  deriving DecidableEq, Repr

def Course.serve (course : Course) (rows : List Row) : List (Except Handed Row) :=
  match course.broken with
  | none => rows.map .ok
  | some (place, failure) =>
    (rows.take place).map .ok ++ if place ≤ rows.length then [.error failure.foreign] else []

def Row.fetch (row : Row) : Except Handed Issue :=
  row.read.mapError fun bad => .conversion (.inl bad.error)

def fetchAll (served : List (Except Handed Row)) : Except Handed (List Issue) :=
  served.mapM fun row => row.bind Row.fetch

def milliseconds (nanoseconds : Nat) : Nat :=
  min (nanoseconds / 1000000) (Nat.pow 2 64 - 1)

namespace Store

def select (store : Store) (statement : Statement) (course : Course) : Except Handed (List Issue) :=
  match course.unprepared with
  | some cause => .error (.sql cause)
  | none =>
    match Sql.Select.ofSql statement.sql with
    | .error cause => .error (.sql cause)
    | .ok select => fetchAll (course.serve (select.run statement.bindings store.rows))

def findWithin (store : Store) (filter : Filter) (limit : Option Nat) (course : Course) :
    Except Failure (List Issue) :=
  let statement := filter.select
  match store.select statement course with
  | .ok issues => .ok issues
  | .error error =>
    if limit.isSome && course.expired && error.isInterrupt then
      .error (.queryTimeout (milliseconds (limit.getD 0)))
    else .error (error.execution statement.sql)

def findByTextWithin (store : Store) (text : String) (limit : Option Nat) (course : Course) :
    Except CommandError (List Issue) :=
  match Query.prepare text with
  | .error cause => .error (.failure cause)
  | .ok prepared => (store.findWithin prepared.filter limit course).mapError .failure

def queryWithin (store : Store) (config : Config) (text : String) (output : OutputFormat) (course : Course) :
    Except CommandError String :=
  (store.findByTextWithin text (config.timeLimit.map (· * 1000000)) course).map (Issue.print output)

end Store

end IssueQuery
