import IssueQuery.Query.Normal
import IssueQuery.Sql.Comparison

/-!
What a query means, said without SQL text: the truth of its conditions for a row, and the order of two rows.
OR binds weaker than AND, so a level is the disjunction of the runs that AND holds together, and truth has
three values because a time may be unset.
-/

namespace IssueQuery

open Sql

namespace Operator

def comparison? : Operator → Option Comparison
  | eq => some .eq
  | ne => some .ne
  | gt => some .gt
  | lt => some .lt
  | ge => some .ge
  | le => some .le
  | contains => some .like
  | isIn | is | isNot => none

end Operator

def literalOf? (text : String) : Option Literal :=
  match String.ofList (text.toList.map Char.toUpper) with
  | "NULL" => some .null
  | "TRUE" => some .isTrue
  | "FALSE" => some .isFalse
  | _ => none

def Operator.truth (operator : Operator) (value : Cell) (operands : List String) : Truth :=
  match operator, operands with
  | isIn, operands => .any (operands.map fun operand => Comparison.eq.test value operand)
  | is, operand :: _ =>
    (literalOf? operand).elim .unknown fun literal => .ofBool (isLiteral value literal)
  | isNot, operand :: _ =>
    (literalOf? operand).elim .unknown fun literal => .ofBool (!isLiteral value literal)
  | operator, operand :: _ =>
    operator.comparison?.elim .unknown fun comparison => comparison.test value operand
  | _, [] => .unknown

/-- The truth of a predicate for a row. A field that is no column is neither true nor false. -/
def Predicate.truth (row : Row) (predicate : Predicate) : Truth :=
  (Column.ofName? predicate.field).elim .unknown fun column =>
    predicate.operator.truth (row.value column) predicate.values

def Joint.apply (joint : Joint) (truth : Truth) : Truth :=
  if joint.negated then truth.not else truth

/-- The runs of a level: AND holds a part to the one before it, OR starts a new run. -/
def runs {α : Type} : List (Connector × α) → List (List α)
  | [] => []
  | (_, a) :: rest =>
    match rest, runs rest with
    | (.and, _) :: _, run :: others => (a :: run) :: others
    | _, others => [a] :: others

def levelTruth (parts : List (Connector × Truth)) : Truth :=
  .any ((runs parts).map .all)

mutual

def Part.truth (row : Row) : Part → Connector × Truth
  | .predicate joint p => (joint.connector, joint.apply (p.truth row))
  | .group joint parts => (joint.connector, joint.apply (levelTruth (truths row parts)))

def Part.truths (row : Row) : List Part → List (Connector × Truth)
  | [] => []
  | part :: rest => part.truth row :: truths row rest

end

namespace Query

def truth (query : Query) (row : Row) : Truth :=
  match query.normal.parts with
  | [] => .yes
  | parts => levelTruth (Part.truths row parts)

def selects (query : Query) (row : Row) : Bool :=
  query.truth row == .yes

end Query

def SortKey.compare (key : SortKey) (a b : Row) : Ordering :=
  (Column.ofName? key.field).elim .eq fun column =>
    let ordering := compareValues (a.value column) (b.value column)
    match key.direction with
    | .asc => ordering
    | .desc => ordering.swap

def SortKey.compareAll (keys : List SortKey) (a b : Row) : Ordering :=
  keys.foldr (fun key rest => (key.compare a b).then rest) .eq

end IssueQuery
