import IssueQuery.Sql.Like
import IssueQuery.Sql.Numeric
import IssueQuery.Sql.Truth
import IssueQuery.Store.Row

/-! The tests that a column's value is put to. Text compares by code points. The id is a number: a text
that looks like one is taken as a number beside it, and any other text is greater than every id. -/

namespace IssueQuery.Sql

inductive Comparison where
  | eq | ne | lt | gt | le | ge | like
  deriving DecidableEq, Repr

inductive Literal where
  | null | isTrue | isFalse
  deriving DecidableEq, Repr

def order? (value : Cell) (operand : String) : Option Ordering :=
  match value with
  | .null => none
  | .integer n =>
    match Decimal.read? operand with
    | some decimal => some (compareInt n decimal.toDyadic)
    | none => some .lt
  | .text text => some (Ord.compare text operand)

def likeText? : Cell → Option String
  | .null => none
  | .integer n => some (toString n)
  | .text text => some text

def Comparison.accepts (comparison : Comparison) (ordering : Ordering) : Bool :=
  match comparison with
  | eq => ordering == .eq
  | ne => ordering != .eq
  | lt => ordering == .lt
  | gt => ordering == .gt
  | le => ordering != .gt
  | ge => ordering != .lt
  | like => false

def Comparison.test (comparison : Comparison) (value : Cell) (operand : String) : Truth :=
  match comparison with
  | like =>
    match likeText? value with
    | none => .unknown
    | some text => .ofBool (Sql.like operand text)
  | _ =>
    match order? value operand with
    | none => .unknown
    | some ordering => .ofBool (comparison.accepts ordering)

def truth : Cell → Truth
  | .null => .unknown
  | .integer n => .ofBool (n != 0)
  | .text text => .ofBool (textIsTrue text)

def isLiteral (value : Cell) : Literal → Bool
  | .null => value == .null
  | .isTrue => truth value == .yes
  | .isFalse => truth value == .no

def compareValues : Cell → Cell → Ordering
  | .null, .null => .eq
  | .null, _ => .lt
  | _, .null => .gt
  | .integer a, .integer b => Ord.compare a b
  | .integer _, .text _ => .lt
  | .text _, .integer _ => .gt
  | .text a, .text b => Ord.compare a b

end IssueQuery.Sql
