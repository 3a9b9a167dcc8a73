import IssueQuery.Filter.Basic
import IssueQuery.Query.Error

/-! Compiling a query tree into a filter. Values are never written into the SQL: each predicate gets a
placeholder named for its place in reading order, except that `IS` takes one of three keywords. -/

namespace IssueQuery

def tableAlias : String := "issue"

def column (field : String) : String :=
  tableAlias ++ "." ++ field

def Operator.sql : Operator → String
  | ne => "<>"
  | contains => "LIKE"
  | operator => operator.text

namespace Predicate

def scalar (predicate : Predicate) : Except Failure String :=
  match predicate.values with
  | [] => .error (.missingValue predicate.operator.text)
  | value :: _ => .ok value

def keyword (operator : Operator) (value : String) : Except Failure String :=
  let upper := String.ofList (value.toList.map Char.toUpper)
  if upper ∈ ["NULL", "TRUE", "FALSE"] then .ok upper
  else .error (.invalidLiteral operator.text value)

def compile (predicate : Predicate) (index : Nat) : Except Failure Condition :=
  let subject := column predicate.field ++ " " ++ predicate.operator.sql
  match predicate.operator with
  | .isIn =>
    let name := "values" ++ toString index
    .ok ⟨subject ++ " (:..." ++ name ++ ")", [⟨name, .list predicate.values⟩]⟩
  | .is | .isNot => do
    let value ← predicate.scalar
    let literal ← keyword predicate.operator value
    return ⟨subject ++ " " ++ literal, []⟩
  | _ => do
    let name := "value" ++ toString index
    let value ← predicate.scalar
    return ⟨subject ++ " :" ++ name, [⟨name, .scalar value⟩]⟩

end Predicate

def Filter.join (filter : Filter) (ambient : Marker) (condition : Condition) : Filter :=
  match ambient with
  | .and => filter.andWhere condition
  | .or => filter.orWhere condition
  | .not => filter.andWhere condition.negated

def Filter.joinIfAny (filter : Filter) (ambient : Marker) : Option Condition → Filter
  | none => filter
  | some condition => filter.join ambient condition

mutual

def Element.compile : Element → Nat → Except Failure (Option Condition × Nat)
  | .marker _, index => .ok (none, index)
  | .group elements, index => do
    let (inner, next) ← compileLevel elements .and .empty index
    return (inner.bracketed, next)
  | .predicate p, index => do
    let condition ← p.compile index
    return (some condition, index + 1)

/-- Adds the conditions of a level to a filter, with the given marker in force and the given index next. -/
def Element.compileLevel :
    List Element → Marker → Filter → Nat → Except Failure (Filter × Nat)
  | [], _, filter, index => .ok (filter, index)
  | element :: rest, ambient, filter, index => do
    let (condition, next) ← element.compile index
    compileLevel rest (element.ambient ambient) (filter.joinIfAny ambient condition) next

end

def SortKey.sql (key : SortKey) : String :=
  column key.field ++ " " ++ key.direction.text

namespace Query

/-- Adds the query to a filter. Placeholders are numbered from zero again. -/
def compileInto (query : Query) (filter : Filter) : Except Failure Filter := do
  let (filter, _) ← Element.compileLevel query.conditions .and filter 0
  return (query.ordering.map SortKey.sql).foldl Filter.addOrdering filter

def compile (query : Query) : Except Failure Filter :=
  query.compileInto .empty

end Query

end IssueQuery
