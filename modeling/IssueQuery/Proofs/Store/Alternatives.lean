import IssueQuery.Proofs.Filter.Grouping
import IssueQuery.Proofs.Store.Ordering

/-!
Lists as alternatives. A test against a list of values means what the group of the tests against each of them means,
wherever it stands: the truth of a query depends on an element only through what it contributes to its level.
-/

namespace IssueQuery
open Sql

/-- One element, at whatever depth it stands, gives way to another. -/
inductive Element.Replaces (old new : Element) : List Element → List Element → Prop
  | here (rest : List Element) : Replaces old new (old :: rest) (new :: rest)
  | inside {a b : List Element} (inner : Replaces old new a b) (rest : List Element) :
    Replaces old new (.group a :: rest) (.group b :: rest)
  | later (element : Element) {a b : List Element} (more : Replaces old new a b) :
    Replaces old new (element :: a) (element :: b)

def Element.alternatives (field : String) (values : List String) : List Element :=
  (values.map fun value => .predicate ⟨field, .eq, [value]⟩).intersperse (.marker .or)

/-! What a level is true of depends on the truths of its parts alone. -/

theorem Part.truths_append (row : Row) (a b : List Part) :
    Part.truths row (a ++ b) = Part.truths row a ++ Part.truths row b := by
  induction a with
  | nil => rfl
  | cons part a ih => rw [List.cons_append, Part.truths, Part.truths, ih, List.cons_append]

theorem Part.truths_level_cons (row : Row) (part : Part) (rest : List Part) :
    Part.truths row (Part.level (part :: rest)) = (.and, (part.truth row).2) :: Part.truths row rest := by
  cases part <;> rfl

/-- Levels with the same truths are both empty, or neither is. -/
theorem Part.truths_shape {row : Row} {a b : List Part} (same : Part.truths row a = Part.truths row b) :
    (a = [] ∧ b = []) ∨ ∃ part rest other more, a = part :: rest ∧ b = other :: more := by
  cases a with
  | nil =>
    cases b with
    | nil => exact .inl ⟨rfl, rfl⟩
    | cons other more => cases same
  | cons part rest =>
    cases b with
    | nil => cases same
    | cons other more => exact .inr ⟨part, rest, other, more, rfl, rfl⟩

theorem Part.truths_level {row : Row} {a b : List Part} (same : Part.truths row a = Part.truths row b) :
    Part.truths row (Part.level a) = Part.truths row (Part.level b) := by
  obtain ⟨rfl, rfl⟩ | ⟨part, rest, other, more, rfl, rfl⟩ := truths_shape same
  · rfl
  · obtain ⟨first, others⟩ := List.cons.inj same
    rw [truths_level_cons, truths_level_cons, first, others]

theorem Element.truths_group {row : Row} {a b : List Element} (ambient : Marker)
    (same : Part.truths row (Element.parts .and a) = Part.truths row (Element.parts .and b)) :
    Part.truths row ((Element.group a).part? ambient).toList =
      Part.truths row ((Element.group b).part? ambient).toList := by
  have level := Part.truths_level same
  rw [Element.part?, Element.part?]
  obtain ⟨first, second⟩ | ⟨part, rest, other, more, first, second⟩ := Part.truths_shape same
  · rw [first, second]
  · rw [first, second] at level ⊢
    simp only [Option.toList_some, Part.truths, Part.truth, level]

theorem Query.truth_congr {row : Row} {a b : List Element} (ordering : List SortKey)
    (same : Part.truths row (Element.parts .and a) = Part.truths row (Element.parts .and b)) :
    Query.truth ⟨a, ordering⟩ row = Query.truth ⟨b, ordering⟩ row := by
  have level := Part.truths_level same
  rw [Query.truth, Query.truth, Query.normal, Query.normal]
  obtain ⟨first, second⟩ | ⟨part, rest, other, more, first, second⟩ := Part.truths_shape level
  · rw [first, second]
  · rw [first, second] at level ⊢
    exact congrArg levelTruth level

namespace Element.Replaces

variable {old new : Element} {a b : List Element}

/-- A level keeps its truths if the new element contributes what the old one did, whatever marker is in force. -/
theorem truths {row : Row} (replaces : Replaces old new a b)
    (same : ∀ ambient, Part.truths row (old.part? ambient).toList = Part.truths row (new.part? ambient).toList)
    (plain : ∀ before, old.ambient before = new.ambient before) (ambient : Marker) :
    Part.truths row (parts ambient a) = Part.truths row (parts ambient b) := by
  -- on the place; what comes before it may leave any marker in force, and a group starts anew
  induction replaces generalizing ambient with
  | here rest => rw [parts, parts, Part.truths_append, Part.truths_append, same, plain]
  | inside inner rest ih =>
    rw [parts, parts, Part.truths_append, Part.truths_append, truths_group ambient (ih .and)]
    rfl
  | later element more ih => rw [parts, parts, Part.truths_append, Part.truths_append, ih]

/-- The predicates of the old element are there, and those of the new one are all that come in. -/
theorem predicates (replaces : Replaces old new a b) :
    (∀ p ∈ old.predicates, p ∈ levelPredicates a) ∧
      ∀ p ∈ levelPredicates b, p ∈ levelPredicates a ∨ p ∈ new.predicates := by
  induction replaces with
  | here rest =>
    simp only [levelPredicates, List.mem_append]
    exact ⟨fun p member => .inl member, fun p member => member.symm.imp_left .inr⟩
  | inside inner rest ih =>
    simp only [levelPredicates, Element.predicates, List.mem_append]
    exact ⟨fun p member => .inl (ih.1 p member), fun p member => by
      rcases member with member | member
      · exact (ih.2 p member).imp_left .inl
      · exact .inl (.inr member)⟩
  | later element more ih =>
    simp only [levelPredicates, List.mem_append]
    exact ⟨fun p member => .inr (ih.1 p member), fun p member => by
      rcases member with member | member
      · exact .inl (.inl member)
      · exact (ih.2 p member).imp_left .inr⟩

end Element.Replaces

/-! A list and its alternatives. -/

theorem Element.alternatives_cons (field first second : String) (rest : List String) :
    alternatives field (first :: second :: rest) =
      .predicate ⟨field, .eq, [first]⟩ :: .marker .or :: alternatives field (second :: rest) := rfl

theorem Element.predicates_alternatives (field : String) (values : List String) :
    levelPredicates (alternatives field values) = values.map fun value => ⟨field, .eq, [value]⟩ := by
  cases values with
  | nil => rfl
  | cons first rest =>
    induction rest generalizing first with
    | nil => rfl
    | cons second rest ih => rw [alternatives_cons, levelPredicates, levelPredicates, ih]; rfl

/-- Each alternative is a part of its own, joined by OR to the one before it. -/
theorem Element.truths_alternatives (row : Row) (field first : String) (rest : List String) (ambient : Marker)
    (plain : ambient.joint.negated = false) :
    Part.truths row (parts ambient (alternatives field (first :: rest))) =
      (ambient.joint.connector, Predicate.truth row ⟨field, .eq, [first]⟩) ::
        (rest.map fun value => Predicate.truth row ⟨field, .eq, [value]⟩).map fun truth => (.or, truth) := by
  have head : ∀ value, Part.truth row (.predicate ambient.joint (Predicate.normal ⟨field, .eq, [value]⟩)) =
      (ambient.joint.connector, Predicate.truth row ⟨field, .eq, [value]⟩) := by
    intro value
    rw [Part.truth, Joint.apply, plain]
    rfl
  induction rest generalizing first ambient with
  | nil => exact congrArg (fun truth => [truth]) (head first)
  | cons second rest ih =>
    have others := ih second .or rfl fun value => rfl
    rw [alternatives_cons, parts, parts, Part.truths_append, Part.truths_append]
    exact congrArg₂ List.cons (head first) others

theorem levelTruth_alternatives (connector : Connector) (first : Truth) (rest : List Truth) :
    levelTruth ((connector, first) :: rest.map fun truth => (.or, truth)) = .any (first :: rest) := by
  induction rest generalizing connector first with
  | nil =>
    rw [List.map_nil, levelTruth_singleton]
    cases first <;> rfl
  | cons second rest ih =>
    rw [List.map_cons, levelTruth_or, ih]
    rfl

/-- A list contributes to its level what the group of its alternatives contributes, in all three truth values. -/
theorem Element.truths_listed (row : Row) {field : String} {values : List String}
    (known : (Column.ofName? field).isSome) (filled : values ≠ []) (ambient : Marker) :
    Part.truths row ((Element.predicate ⟨field, .isIn, values⟩).part? ambient).toList =
      Part.truths row ((Element.group (alternatives field values)).part? ambient).toList := by
  obtain ⟨column, named⟩ := Option.isSome_iff_exists.1 known
  obtain ⟨first, rest, rfl⟩ := List.exists_cons_of_ne_nil filled
  have level : levelTruth (Part.truths row (Part.level (parts .and (alternatives field (first :: rest))))) =
      Predicate.truth row ⟨field, .isIn, first :: rest⟩ := by
    have truths := truths_alternatives row field first rest .and rfl
    cases shape : parts .and (alternatives field (first :: rest)) with
    | nil =>
      rw [shape] at truths
      cases truths
    | cons part others =>
      rw [shape] at truths
      obtain ⟨start, more⟩ := List.cons.inj truths
      rw [Part.truths_level_cons, start, more, levelTruth_alternatives]
      simp only [Predicate.truth, named, Option.elim_some]
      rfl
  have predicates : levelPredicates (alternatives field (first :: rest)) ≠ [] := by
    rw [predicates_alternatives]
    exact List.cons_ne_nil _ _
  rw [part?_group predicates, part?]
  simp only [Option.toList_some, Part.truths, Part.truth, level]
  rfl

/-- Alternatives can be asked wherever the list can. -/
theorem Query.Answerable.replaced {query : Query} {field : String} {values : List String} {conditions : List Element}
    (answerable : query.Answerable)
    (replaces : Element.Replaces (.predicate ⟨field, .isIn, values⟩) (.group (Element.alternatives field values))
      query.conditions conditions) :
    Answerable ⟨conditions, query.ordering⟩ := by
  obtain ⟨known, source⟩ := replaces.predicates
  have listed : (⟨field, .isIn, values⟩ : Predicate) ∈ query.predicates := known _ (List.mem_singleton.2 rfl)
  obtain ⟨checked, keys⟩ := validate_ok.1 answerable.valid
  obtain ⟨identifier, _⟩ := Predicate.validate_ok.1 (checked _ listed)
  have column : (Column.ofName? field).isSome := answerable.fields ⟨field, .isIn, values⟩ listed
  -- what is new has the field of the list, one value and no keyword
  have added : ∀ p ∈ (Element.group (Element.alternatives field values)).predicates,
      ∃ value, p = ⟨field, .eq, [value]⟩ := by
    intro p member
    rw [Element.predicates, Element.predicates_alternatives] at member
    obtain ⟨value, _, rfl⟩ := List.mem_map.1 member
    exact ⟨value, rfl⟩
  refine ⟨validate_ok.2 ⟨?_, keys⟩, ?_, answerable.keys, ?_⟩
  · intro p member
    rcases source p member with inside | fresh
    · exact checked p inside
    · obtain ⟨value, rfl⟩ := added p fresh
      exact Predicate.validate_ok.2 ⟨identifier, rfl⟩
  · intro p member
    rcases source p member with inside | fresh
    · exact answerable.fields p inside
    · obtain ⟨value, rfl⟩ := added p fresh
      exact column
  · intro p member
    rcases source p member with inside | fresh
    · exact answerable.keywords p inside
    · obtain ⟨value, rfl⟩ := added p fresh
      exact nofun

/-- These are the issues of the rows for which a query is true, each once, in an order that it allows. -/
def Query.Lists (query : Query) (store : Store) (issues : List Issue) : Prop :=
  ∃ rows : List Row, rows.Perm (store.rows.filter query.selects) ∧ issues.map Except.ok = rows.map Row.read ∧
    rows.Pairwise (SortKey.InOrder query.ordering)

/-- A search lists issues or fails, and it fails exactly if one of the rows for which its query is true cannot be
read. -/
theorem Query.find_lists {query : Query} (answerable : query.Answerable) (store : Store) :
    ∃ filter, query.compile = .ok filter ∧ (∀ issues, store.find filter = .ok issues → query.Lists store issues) ∧
      ((∃ issues, store.find filter = .ok issues) ↔
        ∀ row ∈ store.rows, query.selects row = true → ∃ issue, row.read = .ok issue) := by
  obtain ⟨⟨filter, compiled, found⟩, sorted⟩ := find_sortedRows answerable store
  have perm := query.sortedRows_perm store
  refine ⟨filter, compiled, ?_, ?_⟩
  · intro issues answer
    rw [found, mapError_eq_ok] at answer
    exact ⟨query.sortedRows store, perm, map_of_mapM answer, sorted⟩
  · constructor
    · rintro ⟨issues, answer⟩ row inside chosen
      rw [found, mapError_eq_ok] at answer
      exact read_of_mapM answer row (perm.mem_iff.2 (List.mem_filter.2 ⟨inside, chosen⟩))
    · intro readable
      obtain ⟨issues, read, _⟩ := mapM_read fun row member => by
        obtain ⟨inside, chosen⟩ := List.mem_filter.1 (perm.mem_iff.1 member)
        exact readable row inside chosen
      exact ⟨issues, by rw [found, read]; rfl⟩

theorem Query.Lists.perm {query : Query} {store : Store} {issues others : List Issue}
    (first : query.Lists store issues) (second : query.Lists store others) : others.Perm issues := by
  obtain ⟨rows, perm, same, _⟩ := first
  obtain ⟨more, again, also, _⟩ := second
  have reads : (others.map (Except.ok (ε := BadTime))).Perm (issues.map Except.ok) := by
    rw [same, also]
    exact (again.trans perm.symm).map Row.read
  exact (List.map_perm_map_iff fun _ _ => Except.ok.inj).1 reads

/-- A test against a list can be written as the group of its alternatives, wherever it stands in a query: both queries
compile, their searches fail together, and what they list is the same up to the order of ties. -/
theorem Store.find_alternatives {query : Query} {field : String} {values : List String} {conditions : List Element}
    (answerable : query.Answerable)
    (replaces : Element.Replaces (.predicate ⟨field, .isIn, values⟩) (.group (Element.alternatives field values))
      query.conditions conditions) (store : Store) :
    ∃ filter other, query.compile = .ok filter ∧ Query.compile ⟨conditions, query.ordering⟩ = .ok other ∧
      ((∃ issues, store.find filter = .ok issues) ↔ ∃ others, store.find other = .ok others) ∧
      (∀ issues others, store.find filter = .ok issues → store.find other = .ok others →
        others.Perm issues ∧ query.Lists store issues ∧ query.Lists store others) ∧
      ((∀ row ∈ store.rows, ∃ issue, row.read = .ok issue) → ∃ issues, store.find filter = .ok issues) := by
  have listed : (⟨field, .isIn, values⟩ : Predicate) ∈ query.predicates :=
    replaces.predicates.1 _ (List.mem_singleton.2 rfl)
  obtain ⟨_, count⟩ := Predicate.validate_ok.1 ((Query.validate_ok.1 answerable.valid).1 _ listed)
  have filled : values ≠ [] := by
    rintro rfl
    cases count
  have column : (Column.ofName? field).isSome := answerable.fields ⟨field, .isIn, values⟩ listed
  have selects : Query.selects ⟨conditions, query.ordering⟩ = query.selects := by
    funext row
    have truths := replaces.truths (Element.truths_listed row column filled) (fun _ => rfl) .and
    have truth : query.truth row = Query.truth ⟨conditions, query.ordering⟩ row :=
      Query.truth_congr query.ordering truths
    rw [Query.selects, Query.selects, truth]
  obtain ⟨filter, compiled, lists, succeeds⟩ := Query.find_lists answerable store
  obtain ⟨other, also, listsOther, succeedsOther⟩ := Query.find_lists (answerable.replaced replaces) store
  have same : ∀ others, Query.Lists ⟨conditions, query.ordering⟩ store others → query.Lists store others := by
    rintro others ⟨rows, perm, reads, sorted⟩
    exact ⟨rows, selects ▸ perm, reads, sorted⟩
  refine ⟨filter, other, compiled, also, ?_, ?_, ?_⟩
  · rw [succeeds, succeedsOther, selects]
  · intro issues others found foundOther
    have first := lists issues found
    have second := same others (listsOther others foundOther)
    exact ⟨first.perm second, first, second⟩
  · intro readable
    exact succeeds.2 fun row inside _ => readable row inside

/-- A negated list in a group that is an alternative itself, about a time that may be unset. -/
def listedQuery : Query where
  conditions := [.predicate ⟨"id", .eq, ["1"]⟩, .marker .or, .group [.marker .not,
    .predicate ⟨"resolved", .isIn, ["2024-03-01T00:00:00+00:00", "2024-05"]⟩, .predicate ⟨"status", .eq, ["open"]⟩]]
  ordering := [⟨"id", .desc⟩]

def unlistedQuery : Query where
  conditions := [.predicate ⟨"id", .eq, ["1"]⟩, .marker .or, .group [.marker .not,
    .group [.predicate ⟨"resolved", .eq, ["2024-03-01T00:00:00+00:00"]⟩, .marker .or,
      .predicate ⟨"resolved", .eq, ["2024-05"]⟩], .predicate ⟨"status", .eq, ["open"]⟩]]
  ordering := [⟨"id", .desc⟩]

theorem listedQuery_alternatives :
    nestedStore.rows.map unlistedQuery.truth = [.yes, .no, .yes] ∧
      ∃ filter other issues others, listedQuery.compile = .ok filter ∧ unlistedQuery.compile = .ok other ∧
        nestedStore.find filter = .ok issues ∧ nestedStore.find other = .ok others ∧ others.Perm issues ∧
        listedQuery.Lists nestedStore others := by
  have answerable : listedQuery.Answerable :=
    ⟨by decide +kernel, by decide +kernel, by decide +kernel, by decide +kernel⟩
  have replaces : Element.Replaces
      (.predicate ⟨"resolved", .isIn, ["2024-03-01T00:00:00+00:00", "2024-05"]⟩)
      (.group (Element.alternatives "resolved" ["2024-03-01T00:00:00+00:00", "2024-05"]))
      listedQuery.conditions unlistedQuery.conditions :=
    .later _ (.later _ (.inside (.later _ (.here _)) _))
  obtain ⟨filter, other, compiled, also, succeed, same, found⟩ :=
    Store.find_alternatives answerable replaces nestedStore
  obtain ⟨issues, answer⟩ := found (nestedStore.readable_of_isOk (by decide +kernel))
  obtain ⟨others, answerOther⟩ := succeed.1 ⟨issues, answer⟩
  obtain ⟨perm, _, lists⟩ := same issues others answer answerOther
  exact ⟨by decide +kernel, filter, other, issues, others, compiled, also, answer, answerOther, perm, lists⟩

end IssueQuery
