import IssueQuery.Sql.Select

/-!
The order of a sort. Cells, single entries and whole orderings are total preorders, so what a statement selects
comes out sorted by them.
-/

namespace IssueQuery.Sql
open Std

instance : OrientedCmp compareValues where
  eq_swap {a b} := by
    cases a with
    | null => cases b <;> rfl
    | integer n =>
      cases b with
      | integer m => exact OrientedOrd.eq_swap
      | _ => rfl
    | text t =>
      cases b with
      | text other => exact OrientedOrd.eq_swap
      | _ => rfl

instance : TransCmp compareValues where
  isLE_trans {a b c} first second := by
    cases a with
    | null => cases c <;> rfl
    | integer n =>
      cases b with
      | null => cases first
      | integer m =>
        cases c with
        | null => cases second
        | integer k => exact TransOrd.isLE_trans first second
        | text text => rfl
      | text other =>
        cases c with
        | null => cases second
        | integer k => cases second
        | text text => rfl
    | text t =>
      cases b with
      | null => cases first
      | integer m => cases first
      | text other =>
        cases c with
        | null => cases second
        | integer k => cases second
        | text text => exact TransOrd.isLE_trans first second

instance (term : SortTerm) : TransCmp term.compare := by
  have values : TransCmp fun a b => compareValues (term.column.value a) (term.column.value b) :=
    { eq_swap := OrientedCmp.eq_swap
      isLE_trans := TransCmp.isLE_trans }
  cases way : term.descending with
  | false =>
    have same : term.compare = fun a b => compareValues (term.column.value a) (term.column.value b) := by
      funext a b
      rw [SortTerm.compare, way]
      rfl
    rw [same]
    exact values
  | true =>
    have same : term.compare = fun a b => compareValues (term.column.value b) (term.column.value a) := by
      funext a b
      rw [SortTerm.compare, way]
      exact OrientedCmp.eq_swap.symm
    rw [same]
    exact TransCmp.opposite

instance (terms : List SortTerm) : TransCmp (SortTerm.compareAll terms) := by
  induction terms with
  | nil =>
    exact
      { eq_swap := rfl
        isLE_trans := fun _ _ => rfl }
  | cons term rest ih =>
    have lexical : SortTerm.compareAll (term :: rest) = compareLex term.compare (SortTerm.compareAll rest) := rfl
    rw [lexical]
    infer_instance

theorem SortTerm.sorted (terms : List SortTerm) (rows : List Row) :
    (rows.mergeSort fun a b => compareAll terms a b != .gt).Pairwise fun a b => compareAll terms a b ≠ .gt := by
  have trans : ∀ a b c : Row, (compareAll terms a b != .gt) = true → (compareAll terms b c != .gt) = true →
      (compareAll terms a c != .gt) = true := by
    simp only [bne_iff_ne, ne_eq, Ordering.ne_gt_iff_isLE]
    exact fun a b c => TransCmp.isLE_trans
  have total : ∀ a b : Row, (compareAll terms a b != .gt || compareAll terms b a != .gt) = true := by
    intro a b
    rw [@OrientedCmp.eq_swap _ (compareAll terms) _ a]
    cases compareAll terms b a <;> rfl
  exact (List.pairwise_mergeSort trans total rows).imp bne_iff_ne.1

end IssueQuery.Sql
