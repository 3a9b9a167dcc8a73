import IssueQuery.Proofs.Filter.Fits

/-!
The statement of a normal form as a row of pieces. Every token of it is cut as it was written, and each list
placeholder is written out with the values of its own predicate.
-/

namespace IssueQuery
open Sql

def SortKey.pieces (key : SortKey) : List Piece :=
  columnPieces key.field ++ .blank :: [.word key.direction.text]

def headPieces : List Piece :=
  [.word "SELECT"] ++ .blank :: listed (issueColumns.map columnPieces) ++ .blank :: [.word "FROM"] ++
    .blank :: [.word "issues"] ++ .blank :: [.word "AS"] ++ .blank :: [.word tableAlias]

namespace NormalQuery

def wherePieces (query : NormalQuery) : List Piece :=
  if query.parts.isEmpty then [] else .blank :: [.word "WHERE"] ++ .blank :: query.clausePieces

def orderPieces (query : NormalQuery) : List Piece :=
  if query.ordering.isEmpty then []
  else .blank :: [.word "ORDER"] ++ .blank :: [.word "BY"] ++ .blank :: listed (query.ordering.map SortKey.pieces)

end NormalQuery

theorem spell_head : spell headPieces = selectHead.toList := by
  have columns : (issueColumns.map columnPieces).map spell = (issueColumns.map column).map String.toList := by
    rw [List.map_map, List.map_map]
    exact List.map_congr_left fun field _ => spell_column field
  simp only [headPieces, selectHead, spell_append, spell_cons, spell_listed, columns, String.toList_append,
    String.toList_intercalate]
  simp [spell, Piece.word]

theorem spell_key (key : SortKey) : spell key.pieces = key.sql.toList := by
  rw [SortKey.pieces, spell_append, spell_column, SortKey.sql]
  simp [spell, Piece.word]

theorem fits_head : Fits headPieces := by
  have word : ∀ text : String, text ∈ ["SELECT", "FROM", "issues", "AS", "issue"] → Fits [.word text] := by
    intro text known
    simp only [List.mem_cons, List.not_mem_nil, or_false] at known
    rcases known with rfl | rfl | rfl | rfl | rfl <;> exact fits_word (by decide)
  have columns : Fits (listed (issueColumns.map columnPieces)) := by
    apply fits_listed
    intro row member
    obtain ⟨field, inside, rfl⟩ := List.mem_map.1 member
    apply fits_column
    revert field
    decide
  have source := ((word "SELECT" (by decide)).blank columns).blank (word "FROM" (by decide))
  exact ((source.blank (word "issues" (by decide))).blank (word "AS" (by decide))).blank (word _ (by decide))

theorem SortKey.fits {key : SortKey} (fit : isIdentifier key.field = true) : Fits key.pieces := by
  apply (fits_column fit).blank
  cases key.direction <;> exact fits_word (by decide)

def NormalQuery.pieces (query : NormalQuery) : List Piece :=
  headPieces ++ (query.wherePieces ++ query.orderPieces)

def selectPieces (clause : Option (List Piece)) (keys : List SortKey) : List Piece :=
  headPieces ++ ((clause.elim [] fun pieces => .blank :: [.word "WHERE"] ++ .blank :: pieces) ++
    NormalQuery.orderPieces ⟨[], keys⟩)

theorem fits_select {clause : Option (List Piece)} {keys : List SortKey} (fit : ∀ pieces ∈ clause, Fits pieces)
    (named : ∀ key ∈ keys, isIdentifier key.field = true) : Fits (selectPieces clause keys) := by
  have rows : Fits (listed (keys.map SortKey.pieces)) := by
    apply fits_listed
    intro row member
    obtain ⟨key, inside, rfl⟩ := List.mem_map.1 member
    exact SortKey.fits (named key inside)
  have word : ∀ text : String, text ∈ ["WHERE", "ORDER", "BY"] → Fits [.word text] := by
    intro text known
    simp only [List.mem_cons, List.not_mem_nil, or_false] at known
    rcases known with rfl | rfl | rfl <;> exact fits_word (by decide)
  have selected : Fits (headPieces ++ clause.elim [] fun pieces => .blank :: [.word "WHERE"] ++ .blank :: pieces) := by
    cases clause with
    | none =>
      rw [Option.elim_none, List.append_nil]
      exact fits_head
    | some pieces =>
      have whole := (fits_head.blank (word "WHERE" (by decide))).blank (fit pieces rfl)
      simpa only [Option.elim_some, List.append_assoc, List.cons_append, List.nil_append] using whole
  rw [selectPieces, ← List.append_assoc]
  unfold NormalQuery.orderPieces
  split
  · rw [List.append_nil]
    exact selected
  · have whole := ((selected.blank (word "ORDER" (by decide))).blank (word "BY" (by decide))).blank rows
    simpa only [List.append_assoc, List.cons_append, List.nil_append] using whole

namespace NormalQuery

def clause? (query : NormalQuery) : Option (List Piece) :=
  if query.parts.isEmpty then none else some query.clausePieces

theorem pieces_eq (query : NormalQuery) : query.pieces = selectPieces query.clause? query.ordering := by
  rw [pieces, selectPieces, wherePieces, clause?]
  split <;> rfl

theorem clause_fits {query : NormalQuery} (sound : query.Sound) : ∀ pieces ∈ query.clause?, Fits pieces := by
  intro pieces member
  unfold clause? at member
  split at member
  · cases member
  · cases member
    exact fits_level (Part.rows_fit query.parts 0 sound.predicates)

theorem fits {query : NormalQuery} (sound : query.Sound) : Fits query.pieces := by
  rw [pieces_eq]
  exact fits_select (clause_fits sound) sound.ordering

end NormalQuery

/-! Every list placeholder belongs to the predicate of its number. -/

theorem Predicate.mem_list {predicate : Predicate} {index count : Nat} {name : String}
    (member : Piece.list name count ∈ predicate.pieces index) :
    (⟨name, .list predicate.values⟩ : Param) ∈ predicate.params index ∧ count = predicate.values.length ∧
      name = "values" ++ toString index := by
  obtain ⟨field, operator, values⟩ := predicate
  simp only [Predicate.pieces, List.mem_append, List.mem_cons, columnPieces_no_list, reduceCtorEq,
    List.not_mem_nil, or_false, false_or] at member
  cases operator <;>
    simp_all [Operator.pieces, Predicate.operandPiece, Predicate.params, Piece.symbol, Piece.word]

theorem mem_joint {joint : Joint} {inner : List Piece} {name : String} {count : Nat}
    (member : Piece.list name count ∈ joint.pieces inner) : Piece.list name count ∈ inner := by
  unfold Joint.pieces at member
  split at member
  · simpa [Piece.symbol, Piece.word] using member
  · exact member

theorem mem_level {rows : List (Connector × List Piece)} {name : String} {count : Nat}
    (member : Piece.list name count ∈ levelPieces rows) : ∃ row ∈ rows, Piece.list name count ∈ row.2 := by
  cases rows with
  | nil => cases member
  | cons first rest =>
    rcases List.mem_append.1 member with member | member
    · exact ⟨first, List.mem_cons_self, member⟩
    · obtain ⟨row, inside, member⟩ := List.mem_flatMap.1 member
      refine ⟨row, List.mem_cons_of_mem first inside, ?_⟩
      simpa [Piece.word] using member

def HasList (predicates : List Predicate) (index : Nat) (name : String) (count : Nat) : Prop :=
  ∃ numbered ∈ predicates.zipIdx index,
    (⟨name, .list numbered.1.values⟩ : Param) ∈ numbered.1.params numbered.2 ∧
      count = numbered.1.values.length ∧ name = "values" ++ toString numbered.2

theorem HasList.left {a b : List Predicate} {index count : Nat} {name : String}
    (has : HasList a index name count) : HasList (a ++ b) index name count := by
  obtain ⟨numbered, inside, rest⟩ := has
  rw [HasList, List.zipIdx_append]
  exact ⟨numbered, List.mem_append_left _ inside, rest⟩

theorem HasList.right {a b : List Predicate} {index count : Nat} {name : String}
    (has : HasList b (index + a.length) name count) : HasList (a ++ b) index name count := by
  obtain ⟨numbered, inside, rest⟩ := has
  rw [HasList, List.zipIdx_append]
  exact ⟨numbered, List.mem_append_right _ inside, rest⟩

mutual

theorem Part.mem_list {part : Part} {index count : Nat} {name : String}
    (member : Piece.list name count ∈ part.pieces index) : HasList part.predicates index name count := by
  cases part with
  | predicate joint p => exact ⟨(p, index), List.mem_singleton.2 rfl, Predicate.mem_list (mem_joint member)⟩
  | group joint parts =>
    have inner := mem_joint member
    simp only [List.cons_append, List.mem_cons, List.mem_append, Piece.symbol, reduceCtorEq,
      List.not_mem_nil, or_false, false_or] at inner
    obtain ⟨row, inside, member⟩ := mem_level inner
    exact Part.mem_rows_list inside member

theorem Part.mem_rows_list {parts : List Part} {index count : Nat} {name : String}
    {row : Connector × List Piece} (inside : row ∈ Part.rows index parts)
    (member : Piece.list name count ∈ row.2) : HasList (Part.listPredicates parts) index name count := by
  cases parts with
  | nil => cases inside
  | cons part rest =>
    rw [Part.listPredicates]
    rcases List.mem_cons.1 inside with rfl | inside
    · exact (Part.mem_list member).left
    · exact (Part.mem_rows_list inside member).right

end

theorem Predicate.mem_params {predicate : Predicate} {index : Nat} {param : Param}
    (member : param ∈ predicate.params index) :
    param = ⟨"values" ++ toString index, .list predicate.values⟩ ∨
      ∃ value, param = ⟨"value" ++ toString index, .scalar value⟩ := by
  obtain ⟨field, operator, values⟩ := predicate
  cases operator with
  | isIn => exact Or.inl (List.mem_singleton.1 member)
  | is | isNot => cases member
  | _ =>
    obtain ⟨value, _, rfl⟩ := List.mem_map.1 member
    exact Or.inr ⟨value, rfl⟩

theorem index_inj {i j : Nat} (same : toString i = toString j) : i = j := by
  rw [Nat.toString_eq_repr, Nat.toString_eq_repr, ← String.toList_inj, Nat.toList_repr, Nat.toList_repr] at same
  have value := congrArg (Nat.ofDigitChars 10 · 0) same
  simpa using value

/-- Letters and a number behind them make a name in one way. -/
theorem numbered_inj {stem other : String} {i j : Nat} (letters : stem.toList.all (fun c => !c.isDigit) = true)
    (others : other.toList.all (fun c => !c.isDigit) = true) (same : stem ++ toString i = other ++ toString j) :
    stem = other ∧ i = j := by
  have letters_of : ∀ {stem : String} (i : Nat), stem.toList.all (fun c => !c.isDigit) = true →
      (stem ++ toString i).toList.takeWhile (fun c => !c.isDigit) = stem.toList := by
    intro stem i letters
    rw [String.toList_append, List.takeWhile_append_of_pos (List.all_eq_true.1 letters)]
    cases shape : (toString i).toList with
    | nil => rw [List.takeWhile_nil, List.append_nil]
    | cons c more =>
      have digit := digits_of_index (shape ▸ List.mem_cons_self)
      simp [digit]
  have stems : stem = other := by
    rw [← String.toList_inj, ← letters_of i letters, ← letters_of j others, same]
  subst stems
  rw [← String.toList_inj, String.toList_append, String.toList_append] at same
  exact ⟨rfl, index_inj (String.toList_inj.1 (List.append_cancel_left same))⟩

theorem NormalQuery.mem_list {query : NormalQuery} {name : String} {count : Nat}
    (member : Piece.list name count ∈ query.clausePieces) : HasList query.predicates 0 name count := by
  obtain ⟨row, inside, member⟩ := mem_level member
  exact Part.mem_rows_list inside member

/-- The parameters of a filter suit the list placeholders of its clause. -/
theorem NormalQuery.supplied (query : NormalQuery) :
    Supplied (numberedParams 0 query.predicates) query.clausePieces := by
  constructor
  · intro param member
    obtain ⟨numbered, _, inside⟩ := List.mem_flatMap.1 member
    rcases Predicate.mem_params inside with rfl | ⟨value, rfl⟩
    · exact isName_values numbered.2
    · exact isName_value numbered.2
  · intro name count member
    obtain ⟨numbered, place, inside, _⟩ := query.mem_list member
    exact ⟨_, List.mem_flatMap.2 ⟨numbered, place, inside⟩, rfl⟩
  · intro name count member param inside same
    obtain ⟨⟨p, i⟩, place, _, length, rfl⟩ := query.mem_list member
    obtain ⟨⟨q, j⟩, other, inside⟩ := List.mem_flatMap.1 inside
    rcases Predicate.mem_params inside with rfl | ⟨value, rfl⟩
    · obtain ⟨_, rfl⟩ := numbered_inj (by decide) (by decide) same
      rw [List.mk_mem_zipIdx_iff_getElem?] at place other
      rw [place, Option.some.injEq] at other
      exact ⟨q.values, rfl, by rw [length, other]⟩
    · exact absurd (numbered_inj (by decide) (by decide) same).1 (by decide)

theorem mem_keys_no_list {keys : List SortKey} {name : String} {count : Nat} :
    Piece.list name count ∉ listed (keys.map SortKey.pieces) := by
  intro member
  rcases mem_listed member with ⟨row, inside, member⟩ | comma | blank
  · obtain ⟨key, _, rfl⟩ := List.mem_map.1 inside
    simp [SortKey.pieces, columnPieces_no_list, Piece.word] at member
  · cases comma
  · cases blank

theorem NormalQuery.order_no_list (query : NormalQuery) (name : String) (count : Nat) :
    Piece.list name count ∉ query.orderPieces := by
  intro member
  unfold NormalQuery.orderPieces at member
  split at member
  · cases member
  · simp [mem_keys_no_list, Piece.word] at member

theorem NormalQuery.spell_order (query : NormalQuery) :
    String.ofList (spell query.orderPieces) =
      match query.ordering.map SortKey.sql with
      | [] => ""
      | fragments => " ORDER BY " ++ ", ".intercalate fragments := by
  unfold NormalQuery.orderPieces
  cases shape : query.ordering with
  | nil => rfl
  | cons key rest =>
    have rows : ((key :: rest).map SortKey.pieces).map spell =
        ((key :: rest).map SortKey.sql).map String.toList := by
      rw [List.map_map, List.map_map]
      exact List.map_congr_left fun key _ => spell_key key
    have listing : spell (listed ((key :: rest).map SortKey.pieces)) =
        (", ".intercalate ((key :: rest).map SortKey.sql)).toList := by
      rw [spell_listed, rows, String.toList_intercalate]
    rw [List.isEmpty_cons, if_neg (by decide), ← String.toList_inj, String.toList_ofList]
    change _ = (" ORDER BY " ++ ", ".intercalate ((key :: rest).map SortKey.sql)).toList
    rw [String.toList_append, ← listing]
    simp [spell_cons, Piece.word]

theorem expand_head : headPieces.flatMap Piece.expand = headPieces := by
  decide +kernel

/-- A filter as it is written: its clause in pieces that suit its parameters, and its ordering by fields. -/
structure Filter.LaidOut (filter : Filter) (clause : Option (List Piece)) (keys : List SortKey) : Prop where
  text : filter.clause = clause.map fun pieces => String.ofList (spell pieces)
  ordering : filter.ordering = keys.map SortKey.sql
  fit : ∀ pieces ∈ clause, Fits pieces
  named : ∀ key ∈ keys, isIdentifier key.field = true
  supplied : ∀ pieces ∈ clause, Supplied filter.params pieces

/-- The SQL of a filter is its statement with the lists written out. -/
theorem Filter.LaidOut.select_sql {filter : Filter} {clause : Option (List Piece)} {keys : List SortKey}
    (laid : filter.LaidOut clause keys) :
    filter.select.sql = String.ofList (spell ((selectPieces clause keys).flatMap Piece.expand)) := by
  obtain ⟨text, ordering, fit, _, supplied⟩ := laid
  have order := expand_kept (NormalQuery.order_no_list ⟨[], keys⟩)
  have expanded : (filter.expandedClause.elim "" fun clause => " WHERE " ++ clause) =
      String.ofList (spell ((clause.elim [] fun pieces =>
        .blank :: [.word "WHERE"] ++ .blank :: pieces).flatMap Piece.expand)) := by
    rw [Filter.expandedClause, text]
    cases clause with
    | none => rfl
    | some pieces =>
      simp only [Option.map_some, Option.elim_some, foldl_expand (supplied pieces rfl) (fit pieces rfl).plain]
      rw [← String.toList_inj]
      simp [spell, Piece.word, Piece.expand]
  have statement : filter.select.sql =
      selectHead ++ (filter.expandedClause.elim "" fun clause => " WHERE " ++ clause) ++
        String.ofList (spell (NormalQuery.orderPieces ⟨[], keys⟩)) := by
    rw [NormalQuery.spell_order, ← ordering, Filter.select]
    cases filter.expandedClause <;> rfl
  rw [statement, selectPieces, List.flatMap_append, List.flatMap_append, expand_head, order, spell_append, spell_append,
    String.ofList_append, String.ofList_append, spell_head, String.ofList_toList, expanded, String.append_assoc]

namespace NormalQuery

theorem laidOut {query : NormalQuery} (sound : query.Sound) :
    query.filter.LaidOut query.clause? query.ordering := by
  refine ⟨?_, rfl, clause_fits sound, sound.ordering, ?_⟩
  · unfold filter clause?
    cases query.parts.isEmpty <;> rfl
  · intro pieces member
    unfold clause? at member
    split at member <;> cases member
    exact query.supplied

theorem select_sql {query : NormalQuery} (sound : query.Sound) :
    query.filter.select.sql = String.ofList (spell (query.pieces.flatMap Piece.expand)) := by
  rw [(laidOut sound).select_sql, pieces_eq]

end NormalQuery

end IssueQuery
