import IssueQuery.Sql.Parser

/-! The issue store: rows in the order in which they were inserted, numbered from one without gaps. -/

namespace IssueQuery

def BadTime.error (bad : BadTime) : Failure :=
  .corruptedData s!"invalid timestamp '{bad.value}' in column '{bad.column.name}'"

structure Store where
  rows : List Row := []
  deriving DecidableEq, Repr

namespace Store

def empty : Store := {}

def migrate (store : Option Store) : Store :=
  store.getD empty

def insert (store : Store) (issue : Issue) : Int × Store :=
  let id : Int := store.rows.length + 1
  (id, ⟨store.rows ++ [Row.ofIssue id issue]⟩)

def count (store : Store) : Nat :=
  store.rows.length

def get (store : Store) (id : Int) : Except Failure Issue :=
  match store.rows.find? fun row => row.id == id with
  | none => .error (.issueNotFound id)
  | some row => row.read.mapError BadTime.error

def setTime (column : TimeColumn) (value : Option String) (row : Row) : Row :=
  match column with
  | .resolved => { row with resolved := value }
  | .createdAt => { row with createdAt := value.getD row.createdAt }
  | .updatedAt => { row with updatedAt := value.getD row.updatedAt }

/-- Overwrites the stored text of a time; gives the number of rows changed. Only `resolved` may be unset. -/
def overwrite (store : Store) (id : Int) (column : TimeColumn) (value : Option String) :
    Except Failure (Nat × Store) :=
  let hit := store.rows.filter fun row => row.id == id
  if !hit.isEmpty && value.isNone && column != .resolved then
    .error (.database s!"NOT NULL constraint failed: issues.{column.name}")
  else
    .ok (hit.length,
      ⟨store.rows.map fun row => if row.id == id then setTime column value row else row⟩)

/-- The issues that a filter selects, in its order. One row that cannot be read spoils the result. -/
def find (store : Store) (filter : Filter) : Except Failure (List Issue) :=
  let statement := filter.select
  match Sql.Select.ofSql statement.sql with
  | .error cause => .error (.execution cause statement.sql)
  | .ok select =>
    ((select.run statement.bindings store.rows).mapM Row.read).mapError BadTime.error

end Store

end IssueQuery
