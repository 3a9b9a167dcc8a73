import IssueQuery.Sql.Comparison

/-! The part of SQL that filters are written in, and what it selects. The limits that an engine sets are left aside:
on how deep an expression may be nested, on how many placeholders a statement may have and on how long a LIKE pattern
may be. A statement that goes beyond one fails like any other that the engine does not run. -/

namespace IssueQuery.Sql

structure ColumnName where
  name : String
  offset : Nat
  deriving DecidableEq, Repr

inductive Test where
  | compare (comparison : Comparison) (placeholder : String)
  | isIn (placeholders : List String)
  | is (literal : Literal)
  | isNot (literal : Literal)
  deriving DecidableEq, Repr

inductive Expr where
  | test (column : ColumnName) (test : Test)
  | not (inner : Expr)
  | and (left right : Expr)
  | or (left right : Expr)
  deriving DecidableEq, Repr

structure SortTerm where
  column : ColumnName
  descending : Bool
  deriving DecidableEq, Repr

structure Select where
  condition : Option Expr
  ordering : List SortTerm
  deriving DecidableEq, Repr

/-- Values by placeholder. A placeholder without a value is NULL. -/
abbrev Bindings := List (String × String)

namespace Test

def evaluate (bindings : Bindings) (value : Cell) : Test → Truth
  | compare comparison placeholder =>
    match bindings.lookup placeholder with
    | none => .unknown
    | some operand => comparison.test value operand
  | isIn placeholders =>
    .any <| placeholders.map fun placeholder =>
      match bindings.lookup placeholder with
      | none => .unknown
      | some operand => Comparison.eq.test value operand
  | is literal => .ofBool (isLiteral value literal)
  | isNot literal => .ofBool (!isLiteral value literal)

end Test

def ColumnName.value (column : ColumnName) (row : Row) : Cell :=
  match Column.ofName? column.name with
  | some c => row.value c
  | none => .null

def ColumnName.unknown? (column : ColumnName) : Option ColumnName :=
  if (Column.ofName? column.name).isNone then some column else none

namespace Expr

def evaluate (bindings : Bindings) (row : Row) : Expr → Truth
  | test column t => t.evaluate bindings (column.value row)
  | not inner => (inner.evaluate bindings row).not
  | and left right => (left.evaluate bindings row).and (right.evaluate bindings row)
  | or left right => (left.evaluate bindings row).or (right.evaluate bindings row)

/-- It is false by its form alone: membership of an empty list, joined with anything. -/
def alwaysFalse : Expr → Bool
  | test _ (.isIn []) => true
  | and left right => left.alwaysFalse || right.alwaysFalse
  | _ => false

end Expr

/-- How far the search for names that are no columns has come: the one to report so far, and whether the
search is done. -/
structure Search where
  fault : Option ColumnName := none
  done : Bool := false
  deriving DecidableEq, Repr

namespace Search

def settle (search : Search) : Search :=
  { search with done := search.done || search.fault.isSome }

/-- A test of NULL reports its column in place of an earlier one and lets the search go on. LIKE lets it go on
but reports only the first. Any other test ends it, and so does every test but these after a fault; `IS TRUE`
and `IS FALSE` still report their column then. -/
def test (search : Search) (column : ColumnName) : Test → Search
  | .is .null | .isNot .null => { search with fault := column.unknown? <|> search.fault }
  | .is _ | .isNot _ => { search with fault := column.unknown? <|> search.fault }.settle
  | .compare .like _ => { search with fault := search.fault <|> column.unknown? }
  | .compare _ _ => { search with fault := search.fault <|> column.unknown? }.settle
  | .isIn [] => search.settle
  | .isIn _ => { search with fault := search.fault <|> column.unknown? }.settle

/-- Looks at an expression from left to right. What is always false names no column. -/
def expr (search : Search) (e : Expr) : Search :=
  if search.done then search
  else if e.alwaysFalse then search.settle
  else
    match e with
    | .test column t => search.test column t
    | .not inner => if search.fault.isSome then search.settle else search.expr inner
    | .and left right | .or left right =>
      if search.fault.isSome then search.settle else (search.expr left).expr right

end Search

namespace SortTerm

def compare (term : SortTerm) (a b : Row) : Ordering :=
  let ordering := compareValues (term.column.value a) (term.column.value b)
  if term.descending then ordering.swap else ordering

def compareAll (terms : List SortTerm) (a b : Row) : Ordering :=
  terms.foldr (fun term rest => (term.compare a b).then rest) .eq

end SortTerm

namespace Select

def unknownColumn? (select : Select) : Option ColumnName :=
  (select.condition.elim {} fun condition => ({} : Search).expr condition).fault <|>
    (select.ordering.map SortTerm.column).findSome? ColumnName.unknown?

def matchesRow (select : Select) (bindings : Bindings) (row : Row) : Bool :=
  match select.condition with
  | none => true
  | some condition => condition.evaluate bindings row == .yes

/-- The rows for which the condition is true, sorted. In which order rows come that are equal in all entries is the
engine's choice; here they stay as they were stored. -/
def run (select : Select) (bindings : Bindings) (rows : List Row) : List Row :=
  (rows.filter (select.matchesRow bindings)).mergeSort fun a b =>
    SortTerm.compareAll select.ordering a b != .gt

end Select

end IssueQuery.Sql
