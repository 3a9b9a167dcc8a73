import IssueQuery.Query.Validate

/-! Which query trees validation accepts. -/

namespace IssueQuery

theorem ok_of_bind {α β ε : Type} {first : Except ε α} {next : α → Except ε β} {b : β}
    (both : first >>= next = .ok b) : ∃ a, first = .ok a ∧ next a = .ok b := by
  cases first with
  | error e => cases both
  | ok a => exact ⟨a, rfl, both⟩

theorem error_of_bind {α β ε : Type} {first : Except ε α} {next : α → Except ε β} {e : ε}
    (both : first >>= next = .error e) : first = .error e ∨ ∃ a, first = .ok a ∧ next a = .error e := by
  cases first with
  | error other =>
    cases both
    exact .inl rfl
  | ok a => exact .inr ⟨a, rfl, both⟩

theorem mapError_eq_ok {ε ε' α : Type} {result : Except ε α} {f : ε → ε'} {a : α} :
    result.mapError f = .ok a ↔ result = .ok a := by
  constructor
  · intro done
    cases result with
    | error cause => cases done
    | ok value => exact congrArg Except.ok (Except.ok.inj done)
  · rintro rfl
    rfl

theorem mapError_eq_error {ε ε' α : Type} {result : Except ε α} {f : ε → ε'} {e : ε'} :
    result.mapError f = .error e ↔ ∃ cause, result = .error cause ∧ f cause = e := by
  constructor
  · intro failed
    cases result with
    | error cause => exact ⟨cause, rfl, Except.error.inj failed⟩
    | ok value => cases failed
  · rintro ⟨cause, rfl, rfl⟩
    rfl

theorem Predicate.validate_ok {predicate : Predicate} :
    predicate.validate = .ok () ↔
      isIdentifier predicate.field = true ∧ predicate.operator.takes predicate.values.length = true := by
  unfold Predicate.validate
  cases isIdentifier predicate.field <;>
    cases predicate.operator.takes predicate.values.length <;> simp

theorem Operator.single_of_takes {operator : Operator} {values : List String} (plain : operator ≠ .isIn)
    (takes : operator.takes values.length = true) : ∃ value, values = [value] := by
  rw [← List.length_eq_one_iff]
  cases operator with
  | isIn => exact absurd rfl plain
  | _ => exact beq_iff_eq.1 takes

theorem SortKey.validate_ok {key : SortKey} : key.validate = .ok () ↔ isIdentifier key.field = true := by
  unfold SortKey.validate
  cases isIdentifier key.field <;> simp

mutual

theorem Element.validate_ok (element : Element) :
    element.validate = .ok () ↔ ∀ p ∈ element.predicates, p.validate = .ok () := by
  cases element with
  | marker m => simp [Element.validate, Element.predicates]
  | predicate p => simp [Element.validate, Element.predicates]
  | group elements => exact Element.validateLevel_ok elements

theorem Element.validateLevel_ok (elements : List Element) :
    Element.validateLevel elements = .ok () ↔
      ∀ p ∈ Element.levelPredicates elements, p.validate = .ok () := by
  cases elements with
  | nil => simp [Element.validateLevel, Element.levelPredicates]
  | cons element rest =>
    have first := Element.validate_ok element
    have others := Element.validateLevel_ok rest
    rw [Element.validateLevel, Element.levelPredicates]
    simp only [List.mem_append, or_imp, forall_and]
    rw [← first, ← others]
    cases element.validate with
    | error e => simp [bind, Except.bind]
    | ok u => simp [bind, Except.bind]

end

theorem Query.validate_ok {query : Query} :
    query.validate = .ok () ↔
      (∀ p ∈ query.predicates, p.validate = .ok ()) ∧ ∀ key ∈ query.ordering, key.validate = .ok () := by
  have keys : ∀ list : List SortKey,
      list.forM SortKey.validate = .ok () ↔ ∀ key ∈ list, key.validate = .ok () := by
    intro list
    induction list with
    | nil => simp [pure, Except.pure]
    | cons key rest ih =>
      rw [List.forM_eq_forM, List.forM_cons, List.forall_mem_cons, ← ih]
      cases key.validate with
      | error e => simp [bind, Except.bind]
      | ok u => simp [bind, Except.bind]
  rw [Query.validate, Query.predicates, ← Element.validateLevel_ok, ← keys]
  cases Element.validateLevel query.conditions with
  | error e => simp [bind, Except.bind]
  | ok u => simp [bind, Except.bind]

end IssueQuery
