import IssueQuery.Proofs.Filter.Statement
import Mathlib.Data.List.Nodup

/-!
Placeholders and bindings. The placeholders of a statement, read from left to right, are the names of its
bindings. No name stands for two values, and the values are those of the predicates in reading order.
-/

namespace IssueQuery
open Sql

namespace Sql

def placeholderText? : Kind × String → Option String
  | (.placeholder, text) => some text
  | _ => none

def Piece.names : Piece → List String
  | blank => []
  | token kind text => (placeholderText? (kind, text)).toList
  | list name count => Param.listNames name count

theorem placeholders_lexemes (text : String) :
    placeholders text = ((tokens 0 text.toList).map Token.lexeme).filterMap placeholderText? := by
  rw [placeholders]
  induction tokens 0 text.toList with
  | nil => rfl
  | cons token rest ih =>
    rw [List.filter_cons, List.map_cons, List.filterMap_cons, ← ih]
    obtain ⟨kind, text, offset⟩ := token
    cases kind <;> rfl

theorem names_lexemes {pieces : List Piece} (out : ∀ name count, Piece.list name count ∉ pieces) :
    (lexemes pieces).filterMap placeholderText? = pieces.flatMap Piece.names := by
  induction pieces with
  | nil => rfl
  | cons piece rest ih =>
    have others := ih fun name count member => out name count (List.mem_cons_of_mem piece member)
    rw [List.flatMap_cons, ← others]
    cases piece with
    | blank => rfl
    | list name count => exact absurd List.mem_cons_self (out name count)
    | token kind text =>
      cases kind <;> rfl

theorem names_listed (rows : List (List Piece)) :
    (listed rows).flatMap Piece.names = rows.flatMap fun row => row.flatMap Piece.names := by
  induction rows with
  | nil => rfl
  | cons row rest ih =>
    cases rest with
    | nil => rw [listed_singleton, List.flatMap_singleton]
    | cons next rest =>
      rw [listed_cons_cons, List.flatMap_append, List.flatMap_cons, List.flatMap_cons, ih]
      rfl

theorem names_written (name : String) (count : Nat) :
    (written name count).flatMap Piece.names = Param.listNames name count := by
  have each : ∀ names : List String,
      ((names.map fun placeholder => [Piece.token .placeholder placeholder]).flatMap fun row =>
        row.flatMap Piece.names) = names := by
    intro names
    induction names with
    | nil => rfl
    | cons first rest ih =>
      rw [List.map_cons, List.flatMap_cons, ih]
      rfl
  rw [written, List.flatMap_append, List.flatMap_cons, names_listed, each]
  exact List.append_nil _

theorem names_expand (pieces : List Piece) :
    (pieces.flatMap Piece.expand).flatMap Piece.names = pieces.flatMap Piece.names := by
  rw [List.flatMap_assoc]
  apply List.flatMap_congr
  intro piece _
  cases piece with
  | list name count => exact names_written name count
  | _ => exact List.flatMap_singleton ..

theorem expand_no_list (pieces : List Piece) (name : String) (count : Nat) :
    Piece.list name count ∉ pieces.flatMap Piece.expand := by
  intro member
  obtain ⟨piece, _, member⟩ := List.mem_flatMap.1 member
  cases piece with
  | list other size => rcases mem_written member with ⟨s, equal⟩ | equal | ⟨i, equal⟩ <;> cases equal
  | _ => cases List.mem_singleton.1 member

theorem placeholders_spell {pieces : List Piece} (fits : Fits pieces) :
    placeholders (String.ofList (spell (pieces.flatMap Piece.expand))) = pieces.flatMap Piece.names := by
  rw [placeholders_lexemes, String.toList_ofList, tokens_spell (fits.lexed [] stops_nil),
    names_lexemes (expand_no_list pieces), names_expand]

theorem names_column {field : String} (fit : isIdentifier field = true) :
    (columnPieces field).flatMap Piece.names = [] := by
  have all := (isName_column fit).all
  unfold columnPieces
  split
  · next digit =>
    cases shape : field.toList with
    | nil => rw [shape] at digit; cases digit
    | cons c name =>
      rw [shape] at digit all
      have other := (nextToken_point (by simpa using digit) all stops_nil).2
      cases kind : (nextToken '.' (c :: name)).1 with
      | placeholder => exact absurd kind other
      | _ => rfl
  · rfl

theorem names_operator (operator : Operator) : operator.pieces.flatMap Piece.names = [] := by
  cases operator <;> rfl

theorem names_joint (joint : Joint) (inner : List Piece) :
    (joint.pieces inner).flatMap Piece.names = inner.flatMap Piece.names := by
  unfold Joint.pieces
  split
  · rw [List.flatMap_append, List.flatMap_append]
    exact List.append_nil _
  · rfl

theorem names_brackets (inner : List Piece) :
    (Piece.symbol .openParen :: inner ++ [Piece.symbol .closeParen]).flatMap Piece.names = inner.flatMap Piece.names := by
  rw [List.flatMap_append, List.flatMap_cons]
  exact List.append_nil _

theorem names_level (rows : List (Connector × List Piece)) :
    (levelPieces rows).flatMap Piece.names = rows.flatMap fun row => row.2.flatMap Piece.names := by
  have joined : ∀ rest : List (Connector × List Piece),
      (joinedPieces rest).flatMap Piece.names = rest.flatMap fun row => row.2.flatMap Piece.names := by
    intro rest
    rw [joinedPieces, List.flatMap_assoc]
    rfl
  cases rows with
  | nil => rfl
  | cons first rest =>
    rw [levelPieces, List.flatMap_append, joined]
    rfl

theorem names_keys {keys : List SortKey} (fit : ∀ key ∈ keys, isIdentifier key.field = true) :
    (listed (keys.map SortKey.pieces)).flatMap Piece.names = [] := by
  rw [names_listed, List.flatMap_map, List.flatMap_eq_nil_iff]
  intro key member
  rw [SortKey.pieces, List.flatMap_append, names_column (fit key member)]
  rfl

end Sql

def bindingNames (index : Nat) (predicates : List Predicate) : List String :=
  ((numberedParams index predicates).flatMap Param.bindings).map Prod.fst

theorem bindingNames_append (index : Nat) (a b : List Predicate) :
    bindingNames index (a ++ b) = bindingNames index a ++ bindingNames (index + a.length) b := by
  rw [bindingNames, numberedParams_append, List.flatMap_append, List.map_append]
  rfl

theorem bindingNames_singleton (index : Nat) (predicate : Predicate) :
    bindingNames index [predicate] = ((predicate.params index).flatMap Param.bindings).map Prod.fst := by
  simp [bindingNames, numberedParams]

theorem Param.names_bindings (param : Param) :
    param.bindings.map Prod.fst = match param.value with
      | .scalar _ => [":" ++ param.name]
      | .list values => listNames param.name values.length := by
  obtain ⟨name, value⟩ := param
  cases value with
  | scalar value => rfl
  | list values => exact List.map_fst_zip (by simp [listNames])

theorem Predicate.names_pieces {predicate : Predicate} (sound : predicate.Sound) (index : Nat) :
    (predicate.pieces index).flatMap Piece.names = bindingNames index [predicate] := by
  have count := sound.count
  have operand : (predicate.operandPiece index).names = bindingNames index [predicate] := by
    rw [bindingNames_singleton]
    obtain ⟨field, operator, values⟩ := predicate
    cases operator with
    | isIn =>
      simp only [Predicate.operandPiece, Piece.names, Predicate.params, List.flatMap_singleton, Param.names_bindings]
    | is | isNot => rfl
    | _ =>
      cases values with
      | nil => cases count
      | cons value rest => rfl
  rw [Predicate.pieces, List.flatMap_append, List.flatMap_append, List.flatMap_cons, names_column sound.field,
    names_operator, ← operand]
  exact List.append_nil _

mutual

theorem Part.names_pieces (part : Part) (index : Nat) (sound : ∀ p ∈ part.predicates, p.Sound) :
    (part.pieces index).flatMap Piece.names = bindingNames index part.predicates := by
  cases part with
  | predicate joint p =>
    rw [Part.pieces, names_joint]
    exact p.names_pieces (sound p (List.mem_singleton.2 rfl)) index
  | group joint parts =>
    rw [Part.pieces, names_joint, names_brackets, names_level]
    exact Part.names_rows parts index sound

theorem Part.names_rows (parts : List Part) (index : Nat)
    (sound : ∀ p ∈ Part.listPredicates parts, p.Sound) :
    ((Part.rows index parts).flatMap fun row => row.2.flatMap Piece.names) =
      bindingNames index (Part.listPredicates parts) := by
  cases parts with
  | nil => rfl
  | cons part rest =>
    rw [Part.listPredicates] at sound ⊢
    rw [Part.rows, List.flatMap_cons, bindingNames_append,
      Part.names_pieces part index fun p inside => sound p (List.mem_append_left _ inside),
      Part.names_rows rest _ fun p inside => sound p (List.mem_append_right _ inside)]

end

theorem Filter.LaidOut.placeholders {filter : Filter} {clause : Option (List Piece)} {keys : List SortKey}
    (laid : filter.LaidOut clause keys) :
    Sql.placeholders filter.select.sql = (clause.getD []).flatMap Piece.names := by
  have head : headPieces.flatMap Piece.names = [] := by decide +kernel
  have order : (NormalQuery.orderPieces ⟨[], keys⟩).flatMap Piece.names = [] := by
    have listed := names_keys laid.named
    unfold NormalQuery.orderPieces
    split
    · rfl
    · exact listed
  have conditions : (clause.elim [] fun pieces => .blank :: [.word "WHERE"] ++ .blank :: pieces).flatMap Piece.names =
      (clause.getD []).flatMap Piece.names := by
    cases clause <;> rfl
  rw [laid.select_sql, placeholders_spell (fits_select laid.fit laid.named), selectPieces, List.flatMap_append,
    List.flatMap_append, head, order, conditions, List.append_nil]
  rfl

/-- The placeholders of a statement are the names of its bindings. -/
theorem NormalQuery.placeholders_select {query : NormalQuery} (sound : query.Sound) :
    placeholders query.filter.select.sql = query.filter.select.bindings.map Prod.fst := by
  rw [(laidOut sound).placeholders, clause?]
  split
  · next none =>
    rw [Filter.select, filter, NormalQuery.predicates, List.isEmpty_iff.1 none]
    rfl
  · have parts := Part.names_rows query.parts 0 sound.predicates
    rw [← names_level] at parts
    exact parts

/-! No name stands for two values. -/

def Operator.stem? : Operator → Option String
  | isIn => some "values"
  | is | isNot => none
  | _ => some "value"

theorem Operator.stem_letters {operator : Operator} {stem : String} (named : stem ∈ operator.stem?) :
    stem.toList.all (fun c => !c.isDigit) = true ∧ '_' ∉ stem.toList := by
  cases operator <;> cases named <;> decide

theorem Predicate.name_params {predicate : Predicate} {index : Nat} {param : Param}
    (member : param ∈ predicate.params index) :
    ∃ stem ∈ predicate.operator.stem?, param.name = stem ++ toString index := by
  obtain ⟨field, operator, values⟩ := predicate
  cases operator with
  | isIn =>
    cases List.mem_singleton.1 member
    exact ⟨_, rfl, rfl⟩
  | is | isNot => cases member
  | _ =>
    obtain ⟨value, _, rfl⟩ := List.mem_map.1 member
    exact ⟨_, rfl, rfl⟩

theorem Predicate.names_nodup (predicate : Predicate) (index : Nat) :
    ((predicate.params index).map Param.name).Nodup := by
  obtain ⟨field, operator, values⟩ := predicate
  cases operator with
  | isIn => exact List.nodup_singleton _
  | is | isNot => exact List.nodup_nil
  | _ =>
    cases values with
    | nil => exact List.nodup_nil
    | cons value rest => exact List.nodup_singleton _

/-- The number in a name is that of its predicate, so predicates of one numbering do not share names. -/
theorem numberedParams_nodup (index : Nat) (predicates : List Predicate) :
    ((numberedParams index predicates).map Param.name).Nodup := by
  have numbers : ((predicates.zipIdx index).map Prod.snd).Nodup := by
    rw [List.zipIdx_map_snd]
    exact List.nodup_range'
  rw [numberedParams, List.map_flatMap]
  refine List.nodup_flatMap.2 ⟨fun numbered _ => numbered.1.names_nodup numbered.2, ?_⟩
  apply (List.pairwise_map.1 numbers).imp
  intro a b different
  apply List.disjoint_left.2
  intro name left right
  obtain ⟨param, inside, rfl⟩ := List.mem_map.1 left
  obtain ⟨other, outside, same⟩ := List.mem_map.1 right
  obtain ⟨stem, named, first⟩ := Predicate.name_params inside
  obtain ⟨further, called, second⟩ := Predicate.name_params outside
  rw [first, second] at same
  exact different (numbered_inj (Operator.stem_letters called).1 (Operator.stem_letters named).1 same).2.symm

theorem numberedParams_plain {index : Nat} {predicates : List Predicate} :
    ∀ param ∈ numberedParams index predicates, '_' ∉ param.name.toList := by
  intro param member underscore
  obtain ⟨numbered, _, inside⟩ := List.mem_flatMap.1 member
  obtain ⟨stem, named, name⟩ := Predicate.name_params inside
  rw [name, String.toList_append, List.mem_append] at underscore
  rcases underscore with letter | digit
  · exact (Operator.stem_letters named).2 letter
  · exact absurd (digits_of_index digit) (by decide)

theorem listNames_nodup (name : String) (count : Nat) : (Param.listNames name count).Nodup := by
  apply List.nodup_range.map
  intro i j same
  have equal := String.toList_inj.2 same
  simp only [String.toList_append] at equal
  exact index_inj (String.toList_inj.1 (List.append_cancel_left equal))

theorem Param.bindings_nodup (param : Param) : (param.bindings.map Prod.fst).Nodup := by
  rw [names_bindings]
  split
  · exact List.nodup_singleton _
  · exact listNames_nodup _ _

/-- The name of a parameter is what stands before the first underscore. -/
theorem Param.name_of_binding {param : Param} (plain : '_' ∉ param.name.toList) {name : String}
    (member : name ∈ param.bindings.map Prod.fst) :
    (name.toList.drop 1).takeWhile (fun c => c != '_') = param.name.toList := by
  have before : ∀ c ∈ param.name.toList, (c != '_') = true := by
    intro c inside
    rw [bne_iff_ne]
    rintro rfl
    exact plain inside
  rw [names_bindings] at member
  split at member
  · cases List.mem_singleton.1 member
    rw [String.toList_append]
    exact List.takeWhile_eq_self_iff.2 before
  · obtain ⟨i, _, rfl⟩ := List.mem_map.1 member
    have shape : (":" ++ param.name ++ "_" ++ toString i).toList.drop 1 =
        param.name.toList ++ '_' :: (toString i).toList := by
      simp
    rw [shape, List.takeWhile_append_of_pos before]
    exact List.append_nil _

theorem bindings_nodup {params : List Param} (distinct : (params.map Param.name).Nodup)
    (plain : ∀ param ∈ params, '_' ∉ param.name.toList) :
    ((params.flatMap Param.bindings).map Prod.fst).Nodup := by
  rw [List.map_flatMap]
  refine List.nodup_flatMap.2 ⟨fun param _ => param.bindings_nodup, ?_⟩
  apply (List.pairwise_map.1 distinct).imp_of_mem
  intro a b inside outside different
  apply List.disjoint_left.2
  intro name left right
  have first := Param.name_of_binding (plain a inside) left
  have second := Param.name_of_binding (plain b outside) right
  exact different (String.toList_inj.1 (first.symm.trans second))

theorem bindingNames_nodup (predicates : List Predicate) : (bindingNames 0 predicates).Nodup :=
  bindings_nodup (numberedParams_nodup 0 predicates) numberedParams_plain

theorem lookup_of_mem {pairs : List (String × String)} (nodup : (pairs.map Prod.fst).Nodup)
    {pair : String × String} (member : pair ∈ pairs) : pairs.lookup pair.1 = some pair.2 := by
  induction pairs with
  | nil => cases member
  | cons first rest ih =>
    rw [List.map_cons, List.nodup_cons] at nodup
    rcases List.mem_cons.1 member with rfl | member
    · rw [List.lookup_cons_self]
    · have different : pair.1 ≠ first.1 := by
        intro same
        exact nodup.1 (same ▸ List.mem_map_of_mem member)
      rw [List.lookup_cons, beq_false_of_ne different]
      exact ih nodup.2 member

/-! The values that are bound. -/

theorem Predicate.values_params {predicate : Predicate} (sound : predicate.Sound) (index : Nat) :
    ((predicate.params index).flatMap Param.bindings).map Prod.snd =
      if predicate.operator.takesKeyword then [] else predicate.values := by
  have count := sound.count
  obtain ⟨field, operator, values⟩ := predicate
  cases operator with
  | isIn =>
    have lengths : values.length ≤ (Param.listNames ("values" ++ toString index) values.length).length := by
      simp [Param.listNames]
    simp only [Predicate.params, List.flatMap_singleton, Param.bindings, List.map_snd_zip lengths]
    rfl
  | is | isNot => rfl
  | _ =>
    obtain ⟨value, rfl⟩ := Operator.single_of_takes (by simp) count
    rfl

theorem values_numberedParams {predicates : List Predicate} (sound : ∀ p ∈ predicates, p.Sound) (index : Nat) :
    ((numberedParams index predicates).flatMap Param.bindings).map Prod.snd =
      (predicates.filter fun p => !p.operator.takesKeyword).flatMap Predicate.values := by
  induction predicates generalizing index with
  | nil => rfl
  | cons p rest ih =>
    have first := Predicate.values_params (sound p List.mem_cons_self) index
    have others := ih (fun q member => sound q (List.mem_cons_of_mem p member)) (index + 1)
    rw [numberedParams, List.zipIdx_cons, List.flatMap_cons, ← numberedParams, List.flatMap_append,
      List.map_append, first, others, List.filter_cons]
    cases p.operator.takesKeyword <;> rfl

theorem values_normal (predicates : List Predicate) :
    ((predicates.map Predicate.normal).filter fun p => !p.operator.takesKeyword).flatMap Predicate.values =
      (predicates.filter fun p => !p.operator.takesKeyword).flatMap Predicate.values := by
  induction predicates with
  | nil => rfl
  | cons p rest ih =>
    have operator : p.normal.operator = p.operator := by
      unfold Predicate.normal
      split <;> rfl
    rw [List.map_cons, List.filter_cons, List.filter_cons, operator]
    cases keyword : p.operator.takesKeyword with
    | true => exact ih
    | false =>
      have same : p.normal = p := by simp [Predicate.normal, keyword]
      rw [same]
      exact congrArg (p.values ++ ·) ih

/-- The bound values of a valid query are those of its predicates, in reading order. -/
theorem Query.values_select {query : Query} (sound : query.normal.Sound) :
    query.normal.filter.select.bindings.map Prod.snd =
      (query.predicates.filter fun p => !p.operator.takesKeyword).flatMap Predicate.values := by
  rw [← values_normal, ← Query.normal_predicates]
  exact values_numberedParams sound.predicates 0

/-- In the statement of a valid query no list placeholder is left. Its placeholders are the names of its
bindings in their order, none occurs twice, and they are bound to the values of the query in reading order. -/
theorem Query.placeholders_match_bindings {query : Query} {filter : Filter} (valid : query.validate = .ok ())
    (compiled : query.compile = .ok filter) :
    ¬"(:...".toList <:+: filter.select.sql.toList ∧
      placeholders filter.select.sql = filter.select.bindings.map Prod.fst ∧
      (filter.select.bindings.map Prod.fst).Nodup ∧
      filter.select.bindings.map Prod.snd =
        (query.predicates.filter fun p => !p.operator.takesKeyword).flatMap Predicate.values := by
  obtain ⟨compiles, rfl⟩ := Query.compile_eq_ok.1 compiled
  have sound := Query.sound_normal valid compiles
  refine ⟨?_, NormalQuery.placeholders_select sound, bindingNames_nodup query.normal.predicates,
    Query.values_select sound⟩
  have start : [':', '.'] <:+: "(:...".toList := ⟨['('], ['.', '.'], rfl⟩
  have plain := plain_expand (NormalQuery.fits sound).plain
  have text : query.normal.filter.select.sql.toList = spell (query.normal.pieces.flatMap Piece.expand) := by
    rw [NormalQuery.select_sql sound]
    exact String.toList_ofList
  rw [text]
  exact fun found => spell_no_colon_point plain (expand_no_list query.normal.pieces) (start.trans found)

def mixedQuery : Query where
  conditions := [.predicate ⟨"title", .contains, ["x"]⟩, .predicate ⟨"status", .isIn, ["open", "done"]⟩,
    .marker .not, .group [.predicate ⟨"resolved", .is, ["null"]⟩, .marker .or,
      .predicate ⟨"priority", .eq, ["high"]⟩]]
  ordering := [⟨"id", .desc⟩]

theorem placeholders_of_mixedQuery :
    mixedQuery.validate = .ok () ∧ mixedQuery.compile = .ok mixedQuery.normal.filter ∧
      placeholders mixedQuery.normal.filter.select.sql = [":value0", ":values1_0", ":values1_1", ":value3"] ∧
      mixedQuery.normal.filter.select.bindings.map Prod.snd = ["x", "open", "done", "high"] := by
  have valid : mixedQuery.validate = .ok () := by decide +kernel
  have compiled : mixedQuery.compile = .ok mixedQuery.normal.filter := by decide +kernel
  obtain ⟨_, names, _, values⟩ := Query.placeholders_match_bindings valid compiled
  refine ⟨valid, compiled, ?_, ?_⟩
  · rw [names]
    decide +kernel
  · rw [values]
    decide +kernel

end IssueQuery
