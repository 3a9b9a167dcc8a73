import IssueQuery.Proofs.Filter.Lists
import IssueQuery.Proofs.Sql.Columns
import IssueQuery.Proofs.Query.Valid
import IssueQuery.Query.Normal

/-!
The filter of a normal form. Compiling a query depends on its normal form alone: each part becomes a row of
pieces, and the predicates give the parameters, numbered in reading order.
-/

namespace IssueQuery
open Sql

mutual

def Part.predicates : Part → List Predicate
  | .predicate _ p => [p]
  | .group _ parts => Part.listPredicates parts

def Part.listPredicates : List Part → List Predicate
  | [] => []
  | part :: rest => part.predicates ++ listPredicates rest

end

def Connector.text : Connector → String
  | and => "AND"
  | or => "OR"

def Part.connector : Part → Connector
  | .predicate joint _ => joint.connector
  | .group joint _ => joint.connector

def Operator.pieces : Operator → List Piece
  | eq => [.symbol .eq]
  | ne => [.symbol .ne]
  | gt => [.symbol .gt]
  | lt => [.symbol .lt]
  | ge => [.symbol .ge]
  | le => [.symbol .le]
  | isIn => [.word "IN"]
  | is => [.word "IS"]
  | isNot => [.word "IS", .blank, .word "NOT"]
  | contains => [.word "LIKE"]

namespace Predicate

def operandPiece (predicate : Predicate) (index : Nat) : Piece :=
  match predicate.operator with
  | .isIn => .list ("values" ++ toString index) predicate.values.length
  | .is | .isNot => .word (predicate.values.headD "")
  | _ => .token .placeholder (":" ++ ("value" ++ toString index))

def pieces (predicate : Predicate) (index : Nat) : List Piece :=
  columnPieces predicate.field ++ .blank :: predicate.operator.pieces ++
    [.blank, predicate.operandPiece index]

def params (predicate : Predicate) (index : Nat) : List Param :=
  match predicate.operator with
  | .isIn => [⟨"values" ++ toString index, .list predicate.values⟩]
  | .is | .isNot => []
  | _ => predicate.values.head?.toList.map fun value => ⟨"value" ++ toString index, .scalar value⟩

def Compiles (predicate : Predicate) : Prop :=
  match predicate.operator with
  | .isIn => True
  | .is | .isNot => ∃ value ∈ predicate.values.head?,
      String.ofList (value.toList.map Char.toUpper) ∈ ["NULL", "TRUE", "FALSE"]
  | _ => predicate.values ≠ []

end Predicate

/-- A negated part stands in brackets of its own. -/
def Joint.pieces (joint : Joint) (inner : List Piece) : List Piece :=
  if joint.negated then
    [.word "NOT", .blank, .symbol .openParen] ++ inner ++ [.symbol .closeParen]
  else inner

def joinedPieces (rows : List (Connector × List Piece)) : List Piece :=
  rows.flatMap fun row => .blank :: .word row.1.text :: .blank :: row.2

def levelPieces : List (Connector × List Piece) → List Piece
  | [] => []
  | first :: rest => first.2 ++ joinedPieces rest

mutual

def Part.pieces (index : Nat) : Part → List Piece
  | .predicate joint p => joint.pieces (p.pieces index)
  | .group joint parts =>
    joint.pieces (.symbol .openParen :: levelPieces (Part.rows index parts) ++ [.symbol .closeParen])

def Part.rows (index : Nat) : List Part → List (Connector × List Piece)
  | [] => []
  | part :: rest => (part.connector, part.pieces index) :: Part.rows (index + part.predicates.length) rest

end

def numberedParams (index : Nat) (predicates : List Predicate) : List Param :=
  (predicates.zipIdx index).flatMap fun numbered => numbered.1.params numbered.2

namespace NormalQuery

def clausePieces (query : NormalQuery) : List Piece :=
  levelPieces (Part.rows 0 query.parts)

def predicates (query : NormalQuery) : List Predicate :=
  Part.listPredicates query.parts

def filter (query : NormalQuery) : Filter where
  clause := if query.parts.isEmpty then none else some (String.ofList (spell query.clausePieces))
  params := numberedParams 0 query.predicates
  ordering := query.ordering.map SortKey.sql

end NormalQuery

theorem numberedParams_append (index : Nat) (a b : List Predicate) :
    numberedParams index (a ++ b) = numberedParams index a ++ numberedParams (index + a.length) b := by
  rw [numberedParams, List.zipIdx_append, List.flatMap_append]
  rfl

theorem spell_operator (operator : Operator) : spell operator.pieces = operator.sql.toList := by
  cases operator <;> simp [Operator.pieces, spell, Piece.symbol, Piece.word, Symbol.chars,
    Operator.sql, Operator.text]

theorem Predicate.sql_pieces (predicate : Predicate) (index : Nat) :
    String.ofList (spell (predicate.pieces index)) =
      column predicate.field ++ " " ++ predicate.operator.sql ++ " " ++
        String.ofList (predicate.operandPiece index).chars := by
  rw [← String.toList_inj, String.toList_ofList, Predicate.pieces, spell_append, spell_append, spell_column,
    spell_cons, spell_operator]
  simp [spell]

theorem sql_list (subject name : String) :
    subject ++ " (:..." ++ name ++ ")" =
      subject ++ " " ++ String.ofList ("(:...".toList ++ name.toList ++ [')']) := by
  rw [← String.toList_inj]
  simp

theorem sql_placeholder (subject name : String) :
    subject ++ " :" ++ name = subject ++ " " ++ String.ofList (":" ++ name).toList := by
  rw [← String.toList_inj]
  simp

/-- A predicate becomes its pieces and parameters, a keyword in capitals. -/
theorem Predicate.compile_ok {predicate : Predicate} (compiles : predicate.Compiles) (index : Nat) :
    predicate.compile index =
      .ok ⟨String.ofList (spell (predicate.normal.pieces index)), predicate.normal.params index⟩ := by
  rw [Predicate.sql_pieces]
  obtain ⟨field, operator, values⟩ := predicate
  cases operator with
  | isIn =>
    simp only [Predicate.compile, sql_list]
    rfl
  | is | isNot =>
    obtain ⟨value, head, known⟩ := compiles
    cases values with
    | nil => cases head
    | cons first rest =>
      cases head
      simp only [Predicate.compile, Predicate.scalar, Predicate.keyword, if_pos known, bind, Except.bind]
      simp only [Predicate.normal, Operator.takesKeyword, if_true, Predicate.operandPiece, List.map_cons,
        List.headD_cons, Piece.word, Piece.chars_token, String.ofList_toList]
      rfl
  | _ =>
    cases values with
    | nil => exact absurd rfl compiles
    | cons value rest =>
      simp only [Predicate.compile, Predicate.scalar, bind, Except.bind, sql_placeholder]
      rfl

theorem Predicate.compiles_of_ok {predicate : Predicate} {index : Nat} {condition : Condition}
    (compiled : predicate.compile index = .ok condition) : predicate.Compiles := by
  obtain ⟨field, operator, values⟩ := predicate
  cases operator with
  | isIn => trivial
  | is | isNot =>
    cases values with
    | nil => cases compiled
    | cons value rest =>
      refine ⟨value, rfl, ?_⟩
      by_contra unknown
      simp only [Predicate.compile, Predicate.scalar, Predicate.keyword, if_neg unknown, bind,
        Except.bind, reduceCtorEq] at compiled
  | _ =>
    cases values with
    | nil => cases compiled
    | cons value rest => exact List.cons_ne_nil value rest

theorem text_append (a b : List Piece) :
    String.ofList (spell (a ++ b)) = String.ofList (spell a) ++ String.ofList (spell b) := by
  rw [spell_append, String.ofList_append]

/-- A filter with parts behind what there is, numbered from this index on. -/
def Filter.extend (filter : Filter) (index : Nat) (parts : List Part) : Filter :=
  { filter with
    clause :=
      match filter.clause with
      | none => if parts.isEmpty then none else some (String.ofList (spell (levelPieces (Part.rows index parts))))
      | some clause => some (clause ++ String.ofList (spell (joinedPieces (Part.rows index parts))))
    params := filter.params ++ numberedParams index (Part.listPredicates parts) }

theorem Filter.extend_nil (filter : Filter) (index : Nat) : filter.extend index [] = filter := by
  obtain ⟨clause, params, ordering⟩ := filter
  cases clause <;> simp [Filter.extend, Part.rows, joinedPieces, spell, Part.listPredicates, numberedParams]

def Part.condition (index : Nat) (part : Part) : Condition :=
  ⟨String.ofList (spell (part.pieces index)), numberedParams index part.predicates⟩

theorem Filter.extend_cons (filter : Filter) (index : Nat) (part : Part) (rest : List Part) :
    filter.extend index (part :: rest) =
      (filter.push part.connector.text (part.condition index)).extend
        (index + part.predicates.length) rest := by
  have more : numberedParams index (Part.listPredicates (part :: rest)) =
      numberedParams index part.predicates ++
        numberedParams (index + part.predicates.length) (Part.listPredicates rest) := by
    rw [Part.listPredicates, numberedParams_append]
  obtain ⟨clause, params, ordering⟩ := filter
  cases clause with
  | none =>
    simp only [Filter.extend, Filter.push, more, Part.rows, levelPieces, Part.condition, text_append,
      List.append_assoc]
    rfl
  | some clause =>
    have joined : String.ofList (spell (joinedPieces ((part.connector, part.pieces index) ::
        Part.rows (index + part.predicates.length) rest))) =
        " " ++ part.connector.text ++ " " ++ String.ofList (spell (part.pieces index)) ++
          String.ofList (spell (joinedPieces (Part.rows (index + part.predicates.length) rest))) := by
      rw [joinedPieces, List.flatMap_cons, text_append, ← joinedPieces]
      congr 1
      rw [← String.toList_inj]
      simp [spell, Piece.word]
    simp only [Filter.extend, Filter.push, more, Part.rows, Part.condition, joined, List.append_assoc,
      String.append_assoc]

theorem Part.listPredicates_append (a b : List Part) :
    Part.listPredicates (a ++ b) = Part.listPredicates a ++ Part.listPredicates b := by
  induction a with
  | nil => rfl
  | cons part a ih => rw [List.cons_append, Part.listPredicates, Part.listPredicates, ih, List.append_assoc]

theorem Part.listPredicates_level (parts : List Part) :
    Part.listPredicates (Part.level parts) = Part.listPredicates parts := by
  cases parts with
  | nil => rfl
  | cons part rest => cases part <;> rfl

/-- The connector that is dropped from the first part of a level is not written. -/
theorem levelPieces_level (index : Nat) (parts : List Part) :
    levelPieces (Part.rows index (Part.level parts)) = levelPieces (Part.rows index parts) := by
  cases parts with
  | nil => rfl
  | cons part rest => cases part <;> rfl

theorem Filter.extend_append (filter : Filter) (index : Nat) (a b : List Part) :
    filter.extend index (a ++ b) =
      (filter.extend index a).extend (index + (Part.listPredicates a).length) b := by
  induction a generalizing filter index with
  | nil => rw [Filter.extend_nil]; rfl
  | cons part a ih =>
    rw [List.cons_append, Filter.extend_cons, Filter.extend_cons, ih, Part.listPredicates, List.length_append,
      Nat.add_assoc]

mutual

theorem Element.part?_predicates (ambient : Marker) (element : Element) :
    Part.listPredicates (element.part? ambient).toList = element.predicates.map Predicate.normal := by
  cases element with
  | marker m => rfl
  | predicate p => rfl
  | group elements =>
    have inner := Element.parts_predicates .and elements
    rw [Element.part?, Element.predicates, ← inner]
    split
    · next none => rw [none]; rfl
    · next some =>
      rw [Option.toList_some, Part.listPredicates, Part.predicates, Part.listPredicates_level]
      exact List.append_nil _

theorem Element.parts_predicates (ambient : Marker) (elements : List Element) :
    Part.listPredicates (Element.parts ambient elements) =
      (Element.levelPredicates elements).map Predicate.normal := by
  cases elements with
  | nil => rfl
  | cons element rest =>
    rw [Element.parts, Part.listPredicates_append, Element.part?_predicates ambient element,
      Element.parts_predicates _ rest, Element.levelPredicates, List.map_append]

end

theorem Filter.join_pieces (filter : Filter) (ambient : Marker) (inner : List Piece) (params : List Param) :
    filter.join ambient ⟨String.ofList (spell inner), params⟩ =
      filter.push ambient.joint.connector.text
        ⟨String.ofList (spell (ambient.joint.pieces inner)), params⟩ := by
  cases ambient with
  | and => rfl
  | or => rfl
  | not =>
    rw [Filter.join, Filter.andWhere, Condition.negated]
    congr 2
    rw [← String.toList_inj]
    simp [Joint.pieces, Marker.joint, spell, Piece.word, Piece.symbol, Symbol.chars]

theorem Filter.extend_single (filter : Filter) (index : Nat) (part : Part) :
    filter.extend index [part] = filter.push part.connector.text (part.condition index) := by
  rw [Filter.extend_cons, Filter.extend_nil]

/-- The brackets of a group hold its level; an empty level leaves nothing. -/
theorem Filter.bracketed_extend (index : Nat) (parts : List Part) :
    (Filter.empty.extend index parts).bracketed =
      if parts.isEmpty then none
      else some ⟨String.ofList (spell
          (.symbol .openParen :: levelPieces (Part.rows index parts) ++ [.symbol .closeParen])),
        numberedParams index (Part.listPredicates parts)⟩ := by
  cases parts with
  | nil => rfl
  | cons part rest =>
    simp only [Filter.bracketed, Filter.extend, Filter.empty, List.isEmpty_cons, Bool.false_eq_true,
      if_false, Option.map_some, List.nil_append]
    congr 2
    rw [← String.toList_inj]
    simp [spell, Piece.symbol, Symbol.chars]

mutual

/-- Compiling an element adds the part that it contributes. -/
theorem Element.compile_ok (element : Element) (index : Nat)
    (compiles : ∀ p ∈ element.predicates, p.Compiles) :
    ∃ condition, element.compile index = .ok (condition, index + element.predicates.length) ∧
      ∀ (ambient : Marker) (filter : Filter),
        filter.joinIfAny ambient condition = filter.extend index (element.part? ambient).toList := by
  cases element with
  | marker m =>
    refine ⟨none, rfl, ?_⟩
    intro ambient filter
    exact (Filter.extend_nil filter index).symm
  | predicate p =>
    refine ⟨some ⟨String.ofList (spell (p.normal.pieces index)), p.normal.params index⟩, ?_, ?_⟩
    · rw [Element.compile, Predicate.compile_ok (compiles p (by simp [Element.predicates]))]
      rfl
    · intro ambient filter
      rw [Filter.joinIfAny, Filter.join_pieces, Element.part?, Option.toList_some, Filter.extend_single]
      simp [Part.condition, Part.pieces, Part.predicates, numberedParams, Part.connector]
  | group elements =>
    have level := Element.compileLevel_ok elements .and Filter.empty index compiles
    refine ⟨(Filter.empty.extend index (Element.parts .and elements)).bracketed, ?_, ?_⟩
    · rw [Element.compile, level]
      rfl
    · intro ambient filter
      rw [Filter.bracketed_extend, Element.part?]
      cases shape : Element.parts .and elements with
      | nil => exact (Filter.extend_nil filter index).symm
      | cons part rest =>
        rw [List.isEmpty_cons, if_neg (by simp), Filter.joinIfAny, Filter.join_pieces, Option.toList_some,
          Filter.extend_single, Part.condition, Part.pieces, levelPieces_level, Part.predicates,
          Part.listPredicates_level]
        rfl

/-- Compiling a level adds its parts and counts its predicates. -/
theorem Element.compileLevel_ok (elements : List Element) (ambient : Marker) (filter : Filter) (index : Nat)
    (compiles : ∀ p ∈ Element.levelPredicates elements, p.Compiles) :
    Element.compileLevel elements ambient filter index =
      .ok (filter.extend index (Element.parts ambient elements),
        index + (Element.levelPredicates elements).length) := by
  cases elements with
  | nil => rw [Element.compileLevel, Element.parts, Filter.extend_nil]; rfl
  | cons element rest =>
    rw [Element.levelPredicates] at compiles
    obtain ⟨condition, compiled, joined⟩ :=
      Element.compile_ok element index fun p member => compiles p (List.mem_append_left _ member)
    have count : (Part.listPredicates (element.part? ambient).toList).length = element.predicates.length := by
      rw [Element.part?_predicates, List.length_map]
    have level := Element.compileLevel_ok rest (element.ambient ambient)
      (filter.joinIfAny ambient condition) (index + element.predicates.length)
      fun p member => compiles p (List.mem_append_right _ member)
    have added : (filter.joinIfAny ambient condition).extend (index + element.predicates.length)
        (Element.parts (element.ambient ambient) rest) =
          filter.extend index (Element.parts ambient (element :: rest)) := by
      rw [joined, ← count, ← Filter.extend_append, Element.parts]
    rw [added, Nat.add_assoc, ← List.length_append] at level
    rw [Element.compileLevel, compiled]
    exact level

end

mutual

theorem Element.compiles_of_ok {element : Element} {index : Nat} {result : Option Condition × Nat}
    (compiled : element.compile index = .ok result) : ∀ p ∈ element.predicates, p.Compiles := by
  cases element with
  | marker m => intro p member; cases member
  | predicate p =>
    obtain ⟨condition, first, _⟩ := ok_of_bind compiled
    intro q member
    cases List.mem_singleton.1 member
    exact Predicate.compiles_of_ok first
  | group elements =>
    obtain ⟨inner, first, _⟩ := ok_of_bind compiled
    exact Element.compiles_of_levelOk first

theorem Element.compiles_of_levelOk {elements : List Element} {ambient : Marker} {filter : Filter}
    {index : Nat} {result : Filter × Nat}
    (compiled : Element.compileLevel elements ambient filter index = .ok result) :
    ∀ p ∈ Element.levelPredicates elements, p.Compiles := by
  cases elements with
  | nil => intro p member; cases member
  | cons element rest =>
    obtain ⟨_, first, others⟩ := ok_of_bind compiled
    intro p member
    rcases List.mem_append.1 member with member | member
    · exact Element.compiles_of_ok first p member
    · exact Element.compiles_of_levelOk others p member

end

theorem foldl_addOrdering (fragments : List String) (filter : Filter) :
    fragments.foldl Filter.addOrdering filter =
      { filter with ordering := filter.ordering ++ fragments } := by
  induction fragments generalizing filter with
  | nil => simp
  | cons fragment rest ih => rw [List.foldl_cons, ih]; simp [Filter.addOrdering]

/-- A query compiles if and only if each predicate does, and then to the filter of its normal form. -/
theorem Query.compile_eq_ok {query : Query} {filter : Filter} :
    query.compile = .ok filter ↔ (∀ p ∈ query.predicates, p.Compiles) ∧ filter = query.normal.filter := by
  have build : ∀ compiles : (∀ p ∈ query.predicates, p.Compiles), query.compile = .ok query.normal.filter := by
    intro compiles
    have level := Element.compileLevel_ok query.conditions .and Filter.empty 0 compiles
    rw [Query.compile, Query.compileInto, level]
    apply congrArg Except.ok
    rw [foldl_addOrdering]
    have pieces := levelPieces_level 0 (Element.parts .and query.conditions)
    have predicates := Part.listPredicates_level (Element.parts .and query.conditions)
    simp only [NormalQuery.filter, NormalQuery.clausePieces, NormalQuery.predicates, Query.normal, pieces,
      predicates, Filter.extend, Filter.empty, List.nil_append]
    cases Element.parts .and query.conditions <;> rfl
  constructor
  · intro compiled
    obtain ⟨_, first, _⟩ := ok_of_bind compiled
    have compiles := Element.compiles_of_levelOk first
    rw [build compiles, Except.ok.injEq] at compiled
    exact ⟨compiles, compiled.symm⟩
  · rintro ⟨compiles, rfl⟩
    exact build compiles

end IssueQuery
