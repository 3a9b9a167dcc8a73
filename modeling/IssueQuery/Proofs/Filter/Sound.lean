import IssueQuery.Proofs.Filter.Parts
import IssueQuery.Proofs.Query.Valid

/-!
What validation and compilation leave of a query. Every field can name a column, every operator has the
values it takes, and `IS` has one of its keywords.
-/

namespace IssueQuery

structure Predicate.Sound (predicate : Predicate) : Prop where
  field : isIdentifier predicate.field = true
  count : predicate.operator.takes predicate.values.length = true
  keyword : predicate.operator.takesKeyword = true →
    predicate.values.headD "" ∈ ["NULL", "TRUE", "FALSE"]

theorem Predicate.sound_normal {predicate : Predicate} (valid : predicate.validate = .ok ())
    (compiles : predicate.Compiles) : predicate.normal.Sound := by
  obtain ⟨identifier, count⟩ := Predicate.validate_ok.1 valid
  obtain ⟨field, operator, values⟩ := predicate
  cases keyword : operator.takesKeyword with
  | false =>
    have same : (⟨field, operator, values⟩ : Predicate).normal = ⟨field, operator, values⟩ := by
      simp [Predicate.normal, keyword]
    rw [same]
    exact ⟨identifier, count, fun takes => by rw [keyword] at takes; cases takes⟩
  | true =>
    have some : ∃ value ∈ values.head?,
        String.ofList (value.toList.map Char.toUpper) ∈ ["NULL", "TRUE", "FALSE"] := by
      cases operator with
      | is | isNot => exact compiles
      | _ => cases keyword
    obtain ⟨value, head, known⟩ := some
    cases values with
    | nil => cases head
    | cons first rest =>
      cases head
      rw [Predicate.normal, if_pos keyword]
      exact ⟨identifier, by simpa using count, fun _ => known⟩

/-- The normal form of a valid query that compiles. -/
structure NormalQuery.Sound (query : NormalQuery) : Prop where
  predicates : ∀ p ∈ query.predicates, p.Sound
  ordering : ∀ key ∈ query.ordering, isIdentifier key.field = true

theorem Query.normal_predicates (query : Query) :
    query.normal.predicates = query.predicates.map Predicate.normal := by
  rw [NormalQuery.predicates, Query.normal, Part.listPredicates_level, Element.parts_predicates]
  rfl

theorem Query.sound_normal {query : Query} (valid : query.validate = .ok ())
    (compiles : ∀ p ∈ query.predicates, p.Compiles) : query.normal.Sound := by
  obtain ⟨predicates, keys⟩ := Query.validate_ok.1 valid
  constructor
  · rw [Query.normal_predicates]
    intro p member
    obtain ⟨origin, inside, rfl⟩ := List.mem_map.1 member
    exact Predicate.sound_normal (predicates origin inside) (compiles origin inside)
  · exact fun key member => SortKey.validate_ok.1 (keys key member)

end IssueQuery
