/-! The three truth values of SQL. A comparison with NULL is unknown, and unknown spreads as far as the
other side does not settle the answer. -/

namespace IssueQuery.Sql

inductive Truth where
  | yes | no | unknown
  deriving DecidableEq, Repr

namespace Truth

def ofBool : Bool → Truth
  | true => yes
  | false => no

def not : Truth → Truth
  | yes => no
  | no => yes
  | unknown => unknown

def and : Truth → Truth → Truth
  | no, _ => no
  | _, no => no
  | yes, yes => yes
  | _, _ => unknown

def or : Truth → Truth → Truth
  | yes, _ => yes
  | _, yes => yes
  | no, no => no
  | _, _ => unknown

def any (truths : List Truth) : Truth :=
  truths.foldr or no

def all (truths : List Truth) : Truth :=
  truths.foldr and yes

theorem and_assoc (a b c : Truth) : (a.and b).and c = a.and (b.and c) := by
  cases a <;> cases b <;> cases c <;> rfl

theorem or_assoc (a b c : Truth) : (a.or b).or c = a.or (b.or c) := by
  cases a <;> cases b <;> cases c <;> rfl

end Truth

end IssueQuery.Sql
