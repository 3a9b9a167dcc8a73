import IssueQuery.Proofs.Store.Found

/-!
Groups as sets of issues. A group keeps its conditions to itself, so two groups joined by AND find what both find,
joined by OR what either finds. A negated group finds the rest where no condition is unknown for a row.
-/

namespace IssueQuery
open Sql

namespace Sql.Truth

theorem not_known {a : Truth} (known : a ≠ unknown) : a.not ≠ unknown := by
  cases a <;> simp_all [Truth.not]

theorem and_known {a b : Truth} (first : a ≠ unknown) (second : b ≠ unknown) : a.and b ≠ unknown := by
  cases a <;> cases b <;> simp_all [Truth.and]

theorem or_known {a b : Truth} (first : a ≠ unknown) (second : b ≠ unknown) : a.or b ≠ unknown := by
  cases a <;> cases b <;> simp_all [Truth.or]

theorem ofBool_known (b : Bool) : ofBool b ≠ unknown := by
  cases b <;> simp [ofBool]

theorem any_known {truths : List Truth} (known : ∀ a ∈ truths, a ≠ unknown) : any truths ≠ unknown := by
  induction truths with
  | nil => simp [any]
  | cons a rest ih =>
    rw [List.forall_mem_cons] at known
    exact or_known known.1 (ih known.2)

theorem and_eq_yes {a b : Truth} : a.and b = yes ↔ a = yes ∧ b = yes := by
  cases a <;> cases b <;> simp [Truth.and]

theorem or_eq_yes {a b : Truth} : a.or b = yes ↔ a = yes ∨ b = yes := by
  cases a <;> cases b <;> simp [Truth.or]

theorem not_eq_yes {a : Truth} (known : a ≠ unknown) : a.not = yes ↔ a ≠ yes := by
  cases a <;> simp_all [Truth.not]

end Sql.Truth

/-! Which conditions are never unknown. -/

theorem levelTruth_known {parts : List (Connector × Truth)} (known : ∀ part ∈ parts, part.2 ≠ .unknown) :
    levelTruth parts ≠ .unknown := by
  cases parts with
  | nil => decide
  | cons first rest =>
    obtain ⟨connector, a⟩ := first
    rw [List.forall_mem_cons] at known
    obtain ⟨start, known⟩ := known
    induction rest generalizing connector a with
    | nil =>
      rw [levelTruth_singleton]
      exact start
    | cons next rest ih =>
      obtain ⟨joint, b⟩ := next
      rw [List.forall_mem_cons] at known
      obtain ⟨second, known⟩ := known
      cases joint with
      | and =>
        rw [levelTruth_and]
        exact ih _ _ (Truth.and_known start second) known
      | or =>
        rw [levelTruth_or]
        exact Truth.or_known start (ih _ _ second known)

theorem Joint.apply_known (joint : Joint) {truth : Truth} (known : truth ≠ .unknown) :
    joint.apply truth ≠ .unknown := by
  unfold Joint.apply
  split
  · exact Truth.not_known known
  · exact known

mutual

theorem Part.truth_known (part : Part) {row : Row} (known : ∀ p ∈ part.predicates, p.truth row ≠ .unknown) :
    (part.truth row).2 ≠ .unknown := by
  cases part with
  | predicate joint p => exact joint.apply_known (known p (List.mem_singleton.2 rfl))
  | group joint parts => exact joint.apply_known (levelTruth_known (Part.truths_known parts known))

theorem Part.truths_known (parts : List Part) {row : Row}
    (known : ∀ p ∈ Part.listPredicates parts, p.truth row ≠ .unknown) :
    ∀ part ∈ Part.truths row parts, part.2 ≠ .unknown := by
  cases parts with
  | nil => exact fun _ member => absurd member List.not_mem_nil
  | cons part rest =>
    rw [Part.truths, List.forall_mem_cons]
    exact ⟨part.truth_known fun p member => known p (List.mem_append_left _ member),
      Part.truths_known rest fun p member => known p (List.mem_append_right _ member)⟩

end

/-- Only the time of resolving can be unset. -/
theorem Row.value_ne_null (row : Row) {column : Column} (other : column ≠ .resolved) : row.value column ≠ .null := by
  cases column <;> simp_all [Row.value]

theorem Sql.Comparison.test_known (comparison : Comparison) {value : Cell} (set : value ≠ .null) (operand : String) :
    comparison.test value operand ≠ .unknown := by
  have ordered : ∃ ordering, order? value operand = some ordering := by
    cases value with
    | null => exact absurd rfl set
    | text text => exact ⟨_, rfl⟩
    | integer n =>
      unfold order?
      cases Decimal.read? operand with
      | none => exact ⟨_, rfl⟩
      | some decimal => exact ⟨_, rfl⟩
  have read : ∃ text, likeText? value = some text := by
    cases value with
    | null => exact absurd rfl set
    | _ => exact ⟨_, rfl⟩
  obtain ⟨ordering, ordered⟩ := ordered
  obtain ⟨text, read⟩ := read
  cases comparison <;> simp only [Comparison.test, ordered, read] <;> exact Truth.ofBool_known _

theorem Predicate.normal_operator (predicate : Predicate) : predicate.normal.operator = predicate.operator := by
  unfold Predicate.normal
  split <;> rfl

theorem Operator.truth_compared {operator : Operator} {comparison : Comparison}
    (compares : operator.comparison? = some comparison) (value : Cell) (operand : String) :
    operator.truth value [operand] = comparison.test value operand := by
  cases operator <;> cases compares <;> rfl

/-- A predicate about a column that is always set, or that `IS` tests, is true or false of every row. -/
theorem Predicate.Sound.truth_known {predicate : Predicate} (sound : predicate.Sound)
    (column : (Column.ofName? predicate.field).isSome)
    (decided : Column.ofName? predicate.field = some .resolved → predicate.operator.takesKeyword = true) (row : Row) :
    predicate.truth row ≠ .unknown := by
  obtain ⟨identifier, count, keyword⟩ := sound
  obtain ⟨field, operator, values⟩ := predicate
  obtain ⟨column, found⟩ := Option.isSome_iff_exists.1 column
  have compared : operator.takesKeyword = false → row.value column ≠ .null := by
    intro plain
    apply row.value_ne_null
    rintro rfl
    rw [decided found] at plain
    cases plain
  simp only [Predicate.truth, found, Option.elim_some]
  cases operator with
  | isIn =>
    apply Truth.any_known
    intro truth member
    obtain ⟨operand, _, rfl⟩ := List.mem_map.1 member
    exact Comparison.test_known .eq (compared rfl) operand
  | is | isNot =>
    obtain ⟨value, rfl⟩ := Operator.single_of_takes (by simp) count
    obtain ⟨literal, known⟩ := literalOf_known (keyword rfl)
    rw [List.headD_cons] at known
    simp only [Operator.truth, known, Option.elim_some]
    exact Truth.ofBool_known _
  | _ =>
    obtain ⟨value, rfl⟩ := Operator.single_of_takes (by simp) count
    rw [Operator.truth_compared rfl]
    exact Comparison.test_known _ (compared rfl) value

/-! Levels of one or two groups. -/

theorem Element.parts_ne_nil {elements : List Element} (filled : Element.levelPredicates elements ≠ [])
    (ambient : Marker) : Element.parts ambient elements ≠ [] := by
  intro none
  have predicates := Element.parts_predicates ambient elements
  rw [none, Part.listPredicates, eq_comm, List.map_eq_nil_iff] at predicates
  exact filled predicates

theorem Element.part?_group {elements : List Element} (filled : Element.levelPredicates elements ≠ [])
    (ambient : Marker) :
    (Element.group elements).part? ambient = some (.group ambient.joint (Part.level (Element.parts .and elements))) := by
  have some := Element.parts_ne_nil filled .and
  rw [Element.part?]
  split
  · next none => exact absurd none some
  · rfl

namespace Query

theorem truth_filled {elements : List Element} (filled : Element.levelPredicates elements ≠ []) (row : Row) :
    truth ⟨elements, []⟩ row = levelTruth (Part.truths row (Part.level (Element.parts .and elements))) := by
  have some := Element.parts_ne_nil filled .and
  rw [truth, normal]
  cases shape : Element.parts .and elements with
  | nil => exact absurd shape some
  | cons part rest => rfl

variable {first second : List Element}

theorem selects_and (filled : Element.levelPredicates first ≠ []) (other : Element.levelPredicates second ≠ []) :
    selects ⟨[.group first, .marker .and, .group second], []⟩ =
      fun row => selects ⟨first, []⟩ row && selects ⟨second, []⟩ row := by
  have parts : Element.parts .and [.group first, .marker .and, .group second] =
      [.group ⟨.and, false⟩ (Part.level (Element.parts .and first)),
        .group ⟨.and, false⟩ (Part.level (Element.parts .and second))] := by
    simp only [Element.parts, Element.part?_group filled, Element.part?_group other, Element.ambient]
    rfl
  funext row
  have truth : truth ⟨[.group first, .marker .and, .group second], []⟩ row =
      (truth ⟨first, []⟩ row).and (truth ⟨second, []⟩ row) := by
    rw [truth_filled filled, truth_filled other, Query.truth, normal, parts]
    exact (levelTruth_and .and _ _ []).trans (levelTruth_singleton .and _)
  rw [selects, truth, Bool.eq_iff_iff, beq_iff_eq, Truth.and_eq_yes, Bool.and_eq_true_iff, selects, selects,
    beq_iff_eq, beq_iff_eq]

theorem selects_or (filled : Element.levelPredicates first ≠ []) (other : Element.levelPredicates second ≠ []) :
    selects ⟨[.group first, .marker .or, .group second], []⟩ =
      fun row => selects ⟨first, []⟩ row || selects ⟨second, []⟩ row := by
  have parts : Element.parts .and [.group first, .marker .or, .group second] =
      [.group ⟨.and, false⟩ (Part.level (Element.parts .and first)),
        .group ⟨.or, false⟩ (Part.level (Element.parts .and second))] := by
    simp only [Element.parts, Element.part?_group filled, Element.part?_group other, Element.ambient]
    rfl
  funext row
  have truth : truth ⟨[.group first, .marker .or, .group second], []⟩ row =
      (truth ⟨first, []⟩ row).or (truth ⟨second, []⟩ row) := by
    rw [truth_filled filled, truth_filled other, Query.truth, normal, parts]
    exact (levelTruth_or .and _ _ []).trans (congrArg _ (levelTruth_singleton .or _))
  rw [selects, truth, Bool.eq_iff_iff, beq_iff_eq, Truth.or_eq_yes, Bool.or_eq_true_iff, selects, selects,
    beq_iff_eq, beq_iff_eq]

/-- Conditions that test the time of resolving by `IS` alone are true or false of every row. -/
theorem truth_known {elements : List Element} (answerable : Answerable ⟨elements, []⟩)
    (filled : Element.levelPredicates elements ≠ [])
    (decided : ∀ p ∈ Element.levelPredicates elements,
      Column.ofName? p.field = some .resolved → p.operator.takesKeyword = true) (row : Row) :
    truth ⟨elements, []⟩ row ≠ .unknown := by
  have sound := (sound_normal answerable.valid answerable.compiles).predicates
  rw [normal_predicates, List.forall_mem_map] at sound
  rw [truth_filled filled]
  apply levelTruth_known
  apply Part.truths_known
  rw [Part.listPredicates_level, Element.parts_predicates, List.forall_mem_map]
  intro p member
  apply (sound p member).truth_known
  · rw [p.normal_field]
    exact answerable.fields p member
  · rw [p.normal_field, p.normal_operator]
    exact decided p member

theorem selects_not (answerable : Answerable ⟨first, []⟩) (filled : Element.levelPredicates first ≠ [])
    (decided : ∀ p ∈ Element.levelPredicates first,
      Column.ofName? p.field = some .resolved → p.operator.takesKeyword = true) :
    selects ⟨[.marker .not, .group first], []⟩ = fun row => !selects ⟨first, []⟩ row := by
  have parts : Element.parts .and [.marker .not, .group first] =
      [.group ⟨.and, true⟩ (Part.level (Element.parts .and first))] := by
    simp only [Element.parts, Element.part?_group filled, Element.ambient]
    rfl
  funext row
  have truth : truth ⟨[.marker .not, .group first], []⟩ row = (truth ⟨first, []⟩ row).not := by
    rw [truth_filled filled, Query.truth, normal, parts]
    exact levelTruth_singleton .and _
  rw [selects, truth, Bool.eq_iff_iff, beq_iff_eq, Truth.not_eq_yes (truth_known answerable filled decided row),
    Bool.not_eq_true', Bool.eq_false_iff, selects, Ne, Ne, beq_iff_eq]

theorem Answerable.join (answerable : Answerable ⟨first, []⟩) (other : Answerable ⟨second, []⟩)
    {joined : List Element} (source : ∀ p ∈ Element.levelPredicates joined,
      p ∈ Element.levelPredicates first ∨ p ∈ Element.levelPredicates second) : Answerable ⟨joined, []⟩ where
  valid := by
    refine validate_ok.2 ⟨?_, fun key member => absurd member List.not_mem_nil⟩
    intro p member
    rcases source p member with inside | inside
    · exact (validate_ok.1 answerable.valid).1 p inside
    · exact (validate_ok.1 other.valid).1 p inside
  fields p member := (source p member).elim (answerable.fields p) (other.fields p)
  keys key member := absurd member List.not_mem_nil
  keywords p member := (source p member).elim (answerable.keywords p) (other.keywords p)

end Query

/-- Of two groups of conditions, AND finds the issues that both find and OR those that either finds. The negation
of a group finds all other stored issues, if the group tests the time of resolving by `IS` alone. -/
theorem Store.find_grouped {first second : List Element} (answerable : Query.Answerable ⟨first, []⟩)
    (other : Query.Answerable ⟨second, []⟩) (filledFirst : Element.levelPredicates first ≠ [])
    (filledSecond : Element.levelPredicates second ≠ []) {store : Store} (keyed : store.Keyed)
    (readable : ∀ row ∈ store.rows, ∃ issue, row.read = .ok issue) :
    ∃ left right both either, store.Finds first left ∧ store.Finds second right ∧
      store.Finds [.group first, .marker .and, .group second] both ∧
      store.Finds [.group first, .marker .or, .group second] either ∧
      (∀ issue, issue ∈ left ↔ store.Shows (Query.selects ⟨first, []⟩) issue) ∧
      (∀ issue, issue ∈ right ↔ store.Shows (Query.selects ⟨second, []⟩) issue) ∧
      (∀ issue, issue ∈ both ↔ issue ∈ left ∧ issue ∈ right) ∧
      (∀ issue, issue ∈ either ↔ issue ∈ left ∨ issue ∈ right) ∧
      ((∀ p ∈ Element.levelPredicates first,
          Column.ofName? p.field = some .resolved → p.operator.takesKeyword = true) →
        ∃ others, store.Finds [.marker .not, .group first] others ∧
          ∀ issue, issue ∈ others ↔ (∃ row ∈ store.rows, row.read = .ok issue) ∧ issue ∉ left) := by
  have pair : ∀ m : Marker, Query.Answerable ⟨[.group first, .marker m, .group second], []⟩ := by
    intro m
    apply answerable.join other
    intro p member
    simpa [Element.levelPredicates, Element.predicates] using member
  obtain ⟨left, foundLeft, inLeft⟩ := exists_finds answerable readable
  obtain ⟨right, foundRight, inRight⟩ := exists_finds other readable
  obtain ⟨both, foundBoth, inBoth⟩ := exists_finds (pair .and) readable
  obtain ⟨either, foundEither, inEither⟩ := exists_finds (pair .or) readable
  refine ⟨left, right, both, either, foundLeft, foundRight, foundBoth, foundEither, inLeft, inRight, ?_, ?_, ?_⟩
  · intro issue
    rw [inBoth, inLeft, inRight, Query.selects_and filledFirst filledSecond, keyed.shows_and]
  · intro issue
    rw [inEither, inLeft, inRight, Query.selects_or filledFirst filledSecond, shows_or]
  · intro decided
    have negated : Query.Answerable ⟨[.marker .not, .group first], []⟩ := by
      apply answerable.join other
      intro p member
      exact .inl (by simpa [Element.levelPredicates, Element.predicates] using member)
    obtain ⟨others, foundOthers, inOthers⟩ := exists_finds negated readable
    refine ⟨others, foundOthers, ?_⟩
    intro issue
    rw [inOthers, inLeft, Query.selects_not answerable filledFirst decided, keyed.shows_not]

def openOrLow : List Element :=
  [.predicate ⟨"status", .eq, ["open"]⟩, .marker .or, .predicate ⟨"priority", .eq, ["low"]⟩]

def resolvedNotOpen : List Element :=
  [.predicate ⟨"resolved", .isNot, ["null"]⟩, .marker .not, .predicate ⟨"status", .eq, ["open"]⟩]

theorem nestedStore_grouped :
    nestedStore.rows.map (Query.selects ⟨openOrLow, []⟩) = [true, false, true] ∧
      nestedStore.rows.map (Query.selects ⟨resolvedNotOpen, []⟩) = [false, true, true] ∧
      ∃ left right both either others, nestedStore.Finds openOrLow left ∧ nestedStore.Finds resolvedNotOpen right ∧
        nestedStore.Finds [.group openOrLow, .marker .and, .group resolvedNotOpen] both ∧
        nestedStore.Finds [.group openOrLow, .marker .or, .group resolvedNotOpen] either ∧
        nestedStore.Finds [.marker .not, .group openOrLow] others ∧
        (∀ issue, issue ∈ both ↔ issue ∈ left ∧ issue ∈ right) ∧
        (∀ issue, issue ∈ either ↔ issue ∈ left ∨ issue ∈ right) ∧
        ∀ issue, issue ∈ others ↔ (∃ row ∈ nestedStore.rows, row.read = .ok issue) ∧ issue ∉ left := by
  have first : Query.Answerable ⟨openOrLow, []⟩ :=
    ⟨by decide +kernel, by decide +kernel, by decide +kernel, by decide +kernel⟩
  have second : Query.Answerable ⟨resolvedNotOpen, []⟩ :=
    ⟨by decide +kernel, by decide +kernel, by decide +kernel, by decide +kernel⟩
  have readable := nestedStore.readable_of_isOk (by decide +kernel)
  obtain ⟨left, right, both, either, foundLeft, foundRight, foundBoth, foundEither, _, _, inBoth, inEither, negated⟩ :=
    Store.find_grouped first second (by simp [openOrLow, Element.levelPredicates, Element.predicates])
      (by simp [resolvedNotOpen, Element.levelPredicates, Element.predicates]) (by decide) readable
  obtain ⟨others, foundOthers, inOthers⟩ := negated (by decide +kernel)
  exact ⟨by decide +kernel, by decide +kernel, left, right, both, either, others, foundLeft, foundRight,
    foundBoth, foundEither, foundOthers, inBoth, inEither, inOthers⟩

end IssueQuery
