import IssueQuery.Proofs.Filter.Placeholders
import IssueQuery.Query.Shape
import Mathlib

/-!
What a statement owes to the shape of its query. Two queries of one shape compile to the same text, so what is
bound when a query runs cannot change what is run.
-/

namespace IssueQuery
open Sql

namespace Predicate

theorem normal_normal (predicate : Predicate) : predicate.normal.normal = predicate.normal := by
  by_cases keyword : predicate.operator.takesKeyword = true
  · have capitals : ∀ value : String,
        String.ofList ((String.ofList (value.toList.map Char.toUpper)).toList.map Char.toUpper) =
          String.ofList (value.toList.map Char.toUpper) := by
      intro value
      rw [String.toList_ofList, List.map_map]
      exact congrArg String.ofList (List.map_congr_left fun c _ => Char.toUpper_toUpper_eq_toUpper c)
    have values := List.map_congr_left (l := predicate.values) fun value _ => capitals value
    simp only [normal, keyword, if_true, List.map_map, Function.comp_def, values]
  · simp only [normal, keyword, Bool.false_eq_true, if_false]

theorem pieces_shape (predicate : Predicate) (index : Nat) :
    predicate.shape.normal.pieces index = predicate.normal.pieces index := by
  by_cases keyword : predicate.operator.takesKeyword = true
  · rw [shape, if_pos keyword, normal_normal]
  · obtain ⟨field, operator, values⟩ := predicate
    cases operator with
    | is | isNot => exact absurd rfl keyword
    | isIn => simp [shape, normal, Operator.takesKeyword, pieces, operandPiece]
    | _ => rfl

theorem compiles_shape {predicate : Predicate}
    (count : predicate.operator.takes predicate.values.length = true) :
    predicate.shape.Compiles ↔ predicate.Compiles := by
  obtain ⟨field, operator, values⟩ := predicate
  cases operator with
  | isIn => exact Iff.rfl
  | is | isNot =>
    obtain ⟨value, rfl⟩ := Operator.single_of_takes (by simp) count
    simp [shape, normal, Operator.takesKeyword, Compiles, Function.comp_def, Char.toUpper_toUpper_eq_toUpper]
  | _ =>
    obtain ⟨value, rfl⟩ := Operator.single_of_takes (by simp) count
    simp [shape, Operator.takesKeyword, Compiles]

end Predicate

mutual

theorem Element.predicates_shape (element : Element) :
    element.shape.predicates = element.predicates.map Predicate.shape := by
  cases element with
  | marker m => rfl
  | predicate p => rfl
  | group elements => exact Element.levelPredicates_shape elements

theorem Element.levelPredicates_shape (elements : List Element) :
    Element.levelPredicates (Element.levelShape elements) =
      (Element.levelPredicates elements).map Predicate.shape := by
  cases elements with
  | nil => rfl
  | cons element rest =>
    rw [Element.levelShape, Element.levelPredicates, Element.levelPredicates, List.map_append,
      element.predicates_shape, Element.levelPredicates_shape rest]

end

theorem Element.ambient_shape (element : Element) (before : Marker) :
    element.shape.ambient before = element.ambient before := by
  cases element <;> rfl

theorem Part.rows_append (index : Nat) (a b : List Part) :
    Part.rows index (a ++ b) =
      Part.rows index a ++ Part.rows (index + (Part.listPredicates a).length) b := by
  induction a generalizing index with
  | nil => rfl
  | cons part a ih =>
    rw [List.cons_append, Part.rows, Part.rows, ih, Part.listPredicates, List.length_append, Nat.add_assoc]
    rfl

theorem Part.rows_eq_nil {index : Nat} {parts : List Part} : Part.rows index parts = [] ↔ parts = [] := by
  cases parts with
  | nil => exact ⟨fun _ => rfl, fun _ => rfl⟩
  | cons part rest => simp [Part.rows]

theorem Part.rows_group (index : Nat) (joint : Joint) (parts : List Part) :
    Part.rows index [.group joint (Part.level parts)] = [(joint.connector, joint.pieces
      (.symbol .openParen :: levelPieces (Part.rows index parts) ++ [.symbol .closeParen]))] := by
  rw [Part.rows, Part.rows, Part.pieces, levelPieces_level]
  rfl

theorem Part.isEmpty_level (parts : List Part) : (Part.level parts).isEmpty = (Part.rows 0 parts).isEmpty := by
  cases parts <;> rfl

mutual

/-- An element contributes the text that its shape contributes. -/
theorem Element.rows_shape (element : Element) (ambient : Marker) (index : Nat) :
    Part.rows index (element.shape.part? ambient).toList = Part.rows index (element.part? ambient).toList := by
  cases element with
  | marker m => rfl
  | predicate p =>
    simp only [Element.shape, Element.part?, Option.toList_some, Part.rows, Part.pieces, p.pieces_shape,
      Part.connector]
  | group elements =>
    have inner := Element.levelRows_shape elements .and index
    rw [Element.shape, Element.part?, Element.part?]
    cases parts : Element.parts .and elements with
    | nil =>
      rw [parts, Part.rows, Part.rows_eq_nil] at inner
      rw [inner]
    | cons part rest =>
      cases shaped : Element.parts .and (Element.levelShape elements) with
      | nil =>
        rw [parts, shaped, Part.rows, eq_comm, Part.rows_eq_nil] at inner
        cases inner
      | cons first more =>
        rw [parts, shaped] at inner
        rw [Option.toList_some, Option.toList_some, Part.rows_group, Part.rows_group, inner]

theorem Element.levelRows_shape (elements : List Element) (ambient : Marker) (index : Nat) :
    Part.rows index (Element.parts ambient (Element.levelShape elements)) =
      Part.rows index (Element.parts ambient elements) := by
  cases elements with
  | nil => rfl
  | cons element rest =>
    have count : (Part.listPredicates (element.shape.part? ambient).toList).length =
        (Part.listPredicates (element.part? ambient).toList).length := by
      rw [Element.part?_predicates, Element.part?_predicates, element.predicates_shape, List.length_map,
        List.length_map, List.length_map]
    rw [Element.levelShape, Element.parts, Element.parts, Part.rows_append, Part.rows_append,
      element.rows_shape ambient index, element.ambient_shape, count, Element.levelRows_shape rest]

end

namespace Query

theorem pieces_shape (query : Query) : query.shape.normal.pieces = query.normal.pieces := by
  have rows := Element.levelRows_shape query.conditions .and 0
  have clause : query.shape.normal.clausePieces = query.normal.clausePieces := by
    rw [NormalQuery.clausePieces, NormalQuery.clausePieces, normal, normal, levelPieces_level, levelPieces_level]
    exact congrArg levelPieces rows
  have filled : query.shape.normal.parts.isEmpty = query.normal.parts.isEmpty := by
    rw [normal, normal, Part.isEmpty_level, Part.isEmpty_level]
    exact congrArg List.isEmpty rows
  rw [NormalQuery.pieces, NormalQuery.pieces, NormalQuery.wherePieces, NormalQuery.wherePieces, clause, filled]
  rfl

/-- Whether a valid query compiles is told by its shape. -/
theorem compiles_shape {query : Query} (valid : query.validate = .ok ()) :
    (∀ p ∈ query.shape.predicates, p.Compiles) ↔ ∀ p ∈ query.predicates, p.Compiles := by
  have counts := (Query.validate_ok.1 valid).1
  have predicates : query.shape.predicates = query.predicates.map Predicate.shape :=
    Element.levelPredicates_shape query.conditions
  rw [predicates, List.forall_mem_map]
  constructor
  · intro compiles p member
    exact (Predicate.compiles_shape (Predicate.validate_ok.1 (counts p member)).2).1 (compiles p member)
  · intro compiles p member
    exact (Predicate.compiles_shape (Predicate.validate_ok.1 (counts p member)).2).2 (compiles p member)

/-- Two valid queries of one shape both compile or both do not. Their statements have the same SQL text and the
same names of bindings in the same order, so the bound values are all that tells them apart. -/
theorem select_of_shape {a b : Query} (validA : a.validate = .ok ()) (validB : b.validate = .ok ())
    (same : a.shape = b.shape) :
    a.compile.isOk = b.compile.isOk ∧
      ∀ filter other, a.compile = .ok filter → b.compile = .ok other →
        filter.select.sql = other.select.sql ∧
          filter.select.bindings.map Prod.fst = other.select.bindings.map Prod.fst := by
  constructor
  · have compiles : ∀ {query : Query}, query.compile.isOk = true ↔ ∀ p ∈ query.predicates, p.Compiles := by
      intro query
      constructor
      · intro ok
        cases compiled : query.compile with
        | error e => rw [compiled] at ok; cases ok
        | ok filter => exact (compile_eq_ok.1 compiled).1
      · intro compiles
        rw [compile_eq_ok.2 ⟨compiles, rfl⟩]
        rfl
    rw [Bool.eq_iff_iff, compiles, compiles, ← compiles_shape validA, ← compiles_shape validB, same]
  · intro filter other compiledA compiledB
    obtain ⟨compilesA, rfl⟩ := compile_eq_ok.1 compiledA
    obtain ⟨compilesB, rfl⟩ := compile_eq_ok.1 compiledB
    have soundA := sound_normal validA compilesA
    have soundB := sound_normal validB compilesB
    have sql : a.normal.filter.select.sql = b.normal.filter.select.sql := by
      rw [NormalQuery.select_sql soundA, NormalQuery.select_sql soundB, ← pieces_shape a, ← pieces_shape b, same]
    refine ⟨sql, ?_⟩
    -- the names of the bindings are the placeholders of the text
    rw [← NormalQuery.placeholders_select soundA, ← NormalQuery.placeholders_select soundB, sql]

end Query

def hostileQuery : Query where
  conditions := [.predicate ⟨"status", .isIn, ["(:...values0)", "') OR 1=1 --"]⟩, .marker .not,
    .group [.predicate ⟨"resolved", .is, ["null"]⟩, .marker .or, .predicate ⟨"title", .eq, [":value2"]⟩]]
  ordering := [⟨"id", .desc⟩]

def tameQuery : Query where
  conditions := [.predicate ⟨"status", .isIn, ["open", "done"]⟩, .marker .not,
    .group [.predicate ⟨"resolved", .is, ["NULL"]⟩, .marker .or, .predicate ⟨"title", .eq, ["a"]⟩]]
  ordering := [⟨"id", .desc⟩]

theorem hostileQuery_select :
    hostileQuery.validate = .ok () ∧ tameQuery.validate = .ok () ∧ hostileQuery.shape = tameQuery.shape ∧
      hostileQuery.normal.filter.select.sql = tameQuery.normal.filter.select.sql ∧
      hostileQuery.normal.filter.select.bindings =
        [(":values0_0", "(:...values0)"), (":values0_1", "') OR 1=1 --"), (":value2", ":value2")] ∧
      tameQuery.normal.filter.select.bindings =
        [(":values0_0", "open"), (":values0_1", "done"), (":value2", "a")] := by
  have hostile : hostileQuery.compile = .ok hostileQuery.normal.filter := by decide +kernel
  have tame : tameQuery.compile = .ok tameQuery.normal.filter := by decide +kernel
  have validA : hostileQuery.validate = .ok () := by decide +kernel
  have validB : tameQuery.validate = .ok () := by decide +kernel
  have same : hostileQuery.shape = tameQuery.shape := by rfl
  obtain ⟨_, selected⟩ := Query.select_of_shape validA validB same
  exact ⟨validA, validB, same, (selected _ _ hostile tame).1, by decide +kernel, by decide +kernel⟩

end IssueQuery
