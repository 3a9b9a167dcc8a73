import IssueQuery.Proofs.Filter.Numbering

/-!
Compiling into a filter that holds something already. The query is refused for what it is refused for on its own; else
its filter is put behind what there is, with the connector that its first condition drops where nothing comes before it.
-/

namespace IssueQuery
open Sql

/-- One filter behind another. The connector stands between two clauses. -/
def Filter.append (filter : Filter) (connector : Connector) (more : Filter) : Filter where
  clause :=
    match filter.clause, more.clause with
    | clause, none => clause
    | none, clause => clause
    | some clause, some added => some (clause ++ " " ++ connector.text ++ " " ++ added)
  params := filter.params ++ more.params
  ordering := filter.ordering ++ more.ordering

/-- The marker in force at the first element of a level that is or holds a predicate. -/
def Element.leadingMarker (ambient : Marker) : List Element → Marker
  | [] => ambient
  | element :: rest => if element.predicates.isEmpty then leadingMarker (element.ambient ambient) rest else ambient

def Query.connector (query : Query) : Connector :=
  (Element.leadingMarker .and query.conditions).joint.connector

/-! What an element without predicates leaves, and how the first one that has some is joined. -/

mutual

theorem Element.part?_eq_none {element : Element} (none : element.predicates = []) (ambient : Marker) :
    element.part? ambient = .none := by
  cases element with
  | marker m => rfl
  | predicate p => cases none
  | group elements =>
    have empty : Element.parts .and elements = [] := Element.parts_eq_nil none .and
    rw [Element.part?, empty]

theorem Element.parts_eq_nil {elements : List Element} (none : Element.levelPredicates elements = [])
    (ambient : Marker) : Element.parts ambient elements = [] := by
  cases elements with
  | nil => rfl
  | cons element rest =>
    obtain ⟨first, others⟩ := List.append_eq_nil_iff.1 none
    rw [Element.parts, Element.part?_eq_none first ambient, Element.parts_eq_nil others]
    rfl

end

theorem Element.part?_connector {element : Element} {ambient : Marker} {part : Part}
    (contributes : element.part? ambient = some part) : part.connector = ambient.joint.connector := by
  cases element with
  | marker m => cases contributes
  | predicate p =>
    cases contributes
    rfl
  | group elements =>
    rw [Element.part?] at contributes
    split at contributes <;> cases contributes
    rfl

theorem Element.exists_part? {element : Element} (some : element.predicates ≠ []) (ambient : Marker) :
    ∃ part, element.part? ambient = .some part := by
  cases contributed : element.part? ambient with
  | some part => exact ⟨part, rfl⟩
  | none =>
    have predicates := element.part?_predicates ambient
    rw [contributed, Option.toList_none, Part.listPredicates, eq_comm, List.map_eq_nil_iff] at predicates
    exact absurd predicates some

/-- The first part of a level is joined by the marker that is in force at it. -/
theorem Element.connector_parts {elements : List Element} {ambient : Marker} {part : Part} {rest : List Part}
    (parts : Element.parts ambient elements = part :: rest) :
    part.connector = (leadingMarker ambient elements).joint.connector := by
  induction elements generalizing ambient with
  | nil => cases parts
  | cons element others ih =>
    rw [Element.parts] at parts
    rw [leadingMarker]
    by_cases none : element.predicates = []
    · rw [part?_eq_none none, Option.toList_none, List.nil_append] at parts
      rw [none, List.isEmpty_nil, if_pos rfl]
      exact ih parts
    · obtain ⟨first, contributes⟩ := exists_part? none ambient
      rw [contributes] at parts
      cases parts
      rw [List.isEmpty_eq_false_iff.2 none]
      exact part?_connector contributes

/-! What is put behind a filter is what an empty one would hold. -/

theorem Filter.extend_eq_append {parts : List Part} {connector : Connector}
    (joined : ∀ part rest, parts = part :: rest → part.connector = connector) (filter : Filter) (index : Nat) :
    filter.extend index parts = filter.append connector (Filter.empty.extend index parts) := by
  obtain ⟨clause, params, ordering⟩ := filter
  cases parts with
  | nil =>
    rw [Filter.extend_nil, Filter.extend_nil]
    cases clause <;> simp [Filter.append, Filter.empty]
  | cons part rest =>
    cases joined part rest rfl
    cases clause with
    | none => simp [Filter.extend, Filter.append, Filter.empty]
    | some clause =>
      have row : String.ofList (spell (joinedPieces (Part.rows index (part :: rest)))) =
          " " ++ part.connector.text ++ " " ++ String.ofList (spell (levelPieces (Part.rows index (part :: rest)))) := by
        rw [← String.toList_inj]
        simp [Part.rows, joinedPieces, levelPieces, spell_append, spell_cons, Piece.word]
      simp only [Filter.extend, Filter.append, Filter.empty, row, List.isEmpty_cons, Bool.false_eq_true, if_false,
        String.append_assoc, List.append_nil, List.nil_append]

theorem Query.compileInto_ok {query : Query} (compiles : ∀ p ∈ query.predicates, p.Compiles) (filter : Filter) :
    query.compileInto filter = .ok { filter.extend 0 (Element.parts .and query.conditions) with
      ordering := filter.ordering ++ query.ordering.map SortKey.sql } := by
  have level := Element.compileLevel_ok query.conditions .and filter 0 compiles
  rw [compileInto, level]
  exact congrArg Except.ok (foldl_addOrdering _ _)

theorem Query.compileInto_error {query : Query} {filter other : Filter} {refusal : Failure}
    (refused : query.compileInto filter = .error refusal) : query.compileInto other = .error refusal := by
  rcases error_of_bind refused with level | ⟨_, _, ended⟩
  · have same := (refusal?_eq_some.2 level).symm.trans
      ((Element.refusal_compileLevel query.conditions .and filter 0 0).trans
        (Element.refusal_compileLevel query.conditions .and other 0 0).symm)
    have again := refusal?_eq_some.1 same.symm
    rw [compileInto, again]
    rfl
  · cases ended

theorem Query.compileInto_compiled {query : Query} {alone : Filter} (compiled : query.compile = .ok alone)
    (filter : Filter) : query.compileInto filter = .ok (filter.append query.connector alone) := by
  have compiles := (Query.compile_eq_ok.1 compiled).1
  rw [Query.compile, compileInto_ok compiles, Except.ok.injEq] at compiled
  rw [compileInto_ok compiles, ← compiled,
    Filter.extend_eq_append (fun part rest parts => Element.connector_parts parts) filter]
  rfl

/-- Compiling into a filter puts what the query compiles to on its own behind what there is. -/
theorem Query.compileInto_append (query : Query) (filter : Filter) :
    query.compileInto filter = query.compile.map (filter.append query.connector) := by
  cases compiled : query.compile with
  | error refusal => exact compileInto_error compiled
  | ok alone => exact compileInto_compiled compiled filter

end IssueQuery
