import IssueQuery.Proofs.Filter.Sound

/-!
Rows of pieces that may stand before any stop. Rows that fit are put together with blanks and brackets, so the
parts of a normal form fit as well.
-/

namespace IssueQuery
open Sql

namespace Sql

/-- The pieces are cut as they stand before any stop, once their lists are written out. -/
structure Fits (pieces : List Piece) : Prop where
  plain : ∀ piece ∈ pieces, piece.Plain
  lexed : ∀ rest, Stops rest → Lexed rest (pieces.flatMap Piece.expand)

theorem fits_nil : Fits [] := by
  constructor
  · intro piece member
    cases member
  · intro rest stops
    trivial

theorem fits_word {text : String} (bare : isBareWord text = true) : Fits [.word text] := by
  obtain ⟨name, letter⟩ := isBareWord_iff.1 bare
  constructor
  · intro piece member
    rw [List.mem_singleton.1 member]
    exact plain_word name
  · intro rest stops
    exact ⟨lexes_word name letter stops.endsName, trivial⟩

theorem fits_symbol (s : Symbol) : Fits [.symbol s] := by
  constructor
  · intro piece member
    rw [List.mem_singleton.1 member]
    exact plain_symbol s
  · intro rest stops
    exact ⟨lexes_symbol s stops, trivial⟩

theorem fits_placeholder {name : String} (fit : IsName name) :
    Fits [.token .placeholder (":" ++ name)] := by
  constructor
  · intro piece member
    rw [List.mem_singleton.1 member]
    exact plain_placeholder fit
  · intro rest stops
    exact ⟨lexes_placeholder fit stops.endsName, trivial⟩

theorem Fits.blank {first second : List Piece} (left : Fits first) (right : Fits second) :
    Fits (first ++ .blank :: second) := by
  constructor
  · intro piece member
    rcases List.mem_append.1 member with member | member
    · exact left.plain piece member
    · rcases List.mem_cons.1 member with rfl | member
      · trivial
      · exact right.plain piece member
  · intro rest stops
    rw [List.flatMap_append, List.flatMap_cons, lexed_append]
    exact ⟨left.lexed _ (stops_cons (Or.inl rfl) _), trivial, right.lexed rest stops⟩

theorem Fits.brackets {inner : List Piece} (fits : Fits inner) :
    Fits (.symbol .openParen :: inner ++ [.symbol .closeParen]) := by
  constructor
  · intro piece member
    simp only [List.cons_append, List.mem_cons, List.mem_append, List.not_mem_nil, or_false] at member
    rcases member with rfl | member | rfl
    · exact plain_symbol _
    · exact fits.plain piece member
    · exact plain_symbol _
  · intro rest _
    have close : Lexed rest [.symbol .closeParen] := ⟨lexes_mark (by decide) _, trivial⟩
    have opening : ∀ after, Lexed after [.symbol .openParen] := fun _ => ⟨lexes_mark (by decide) _, trivial⟩
    have whole : Lexed rest ([.symbol .openParen] ++ (inner.flatMap Piece.expand ++ [.symbol .closeParen])) := by
      rw [lexed_append, lexed_append]
      exact ⟨opening _, fits.lexed _ (stops_cons (Or.inr (Or.inr rfl)) _), close⟩
    rw [List.flatMap_append]
    exact whole

theorem fits_listed {rows : List (List Piece)} (each : ∀ row ∈ rows, Fits row) : Fits (listed rows) := by
  induction rows with
  | nil => exact fits_nil
  | cons row rest ih =>
    have first := each row List.mem_cons_self
    have others := ih fun other member => each other (List.mem_cons_of_mem row member)
    cases rest with
    | nil =>
      rw [listed_singleton]
      exact first
    | cons next rest =>
      have comma : Fits [.symbol .comma] := fits_symbol .comma
      rw [listed_cons_cons]
      constructor
      · intro piece member
        rw [List.mem_append, List.mem_cons, List.mem_cons] at member
        rcases member with member | rfl | rfl | member
        · exact first.plain piece member
        · exact plain_symbol _
        · trivial
        · exact others.plain piece member
      · intro after stops
        rw [List.flatMap_append, lexed_append]
        refine ⟨first.lexed _ (stops_cons (Or.inr (Or.inl rfl)) _), lexes_mark (by decide) _, trivial, ?_⟩
        exact others.lexed after stops

theorem fits_list {name : String} (fit : IsName name) (count : Nat) : Fits [.list name count] := by
  constructor
  · intro piece member
    rw [List.mem_singleton.1 member]
    exact fit
  · intro rest stops
    have inner : Fits (listed ((Param.listNames name count).map fun placeholder =>
        [.token .placeholder placeholder])) := by
      apply fits_listed
      intro row member
      simp only [List.mem_map, Param.listNames] at member
      obtain ⟨_, ⟨i, _, rfl⟩, rfl⟩ := member
      have name : ":" ++ name ++ "_" ++ toString i = ":" ++ (name ++ "_" ++ toString i) := by
        simp only [String.append_assoc]
      rw [name]
      exact fits_placeholder (listName_isName fit i)
    have whole := inner.brackets.lexed rest stops
    rw [← written, flatMap_expand_written] at whole
    rw [List.flatMap_singleton]
    exact whole

theorem expand_kept {pieces : List Piece} (out : ∀ name count, Piece.list name count ∉ pieces) :
    pieces.flatMap Piece.expand = pieces := by
  apply flatMap_singleton
  intro piece member
  cases piece with
  | list name count => exact absurd member (out name count)
  | _ => rfl

theorem columnPieces_no_list (field name : String) (count : Nat) :
    Piece.list name count ∉ columnPieces field := by
  intro member
  unfold columnPieces at member
  split at member <;> simp [Piece.word, Piece.symbol] at member

theorem fits_column {field : String} (fit : isIdentifier field = true) : Fits (columnPieces field) := by
  have name := isName_column fit
  constructor
  · intro piece member
    have table : (Piece.word tableAlias).Plain := plain_word (isName_of_all (by decide) (by decide))
    unfold columnPieces at member
    split at member
    · simp only [List.mem_cons, List.not_mem_nil, or_false] at member
      rcases member with rfl | rfl
      · exact table
      · refine ⟨by simp, ?_, ?_, ?_⟩
        · intro paren
          have := name.not_mem (show isNameChar '(' = false by decide)
          simp [this] at paren
        · have := name.not_mem (show isNameChar ':' = false by decide)
          simpa using this
        · intro rest shape
          simp at shape
    · simp only [List.mem_cons, List.not_mem_nil, or_false] at member
      rcases member with rfl | rfl | rfl
      · exact table
      · exact plain_symbol _
      · exact plain_word name
  · intro rest stops
    rw [expand_kept (columnPieces_no_list field)]
    exact lexed_column fit stops

theorem fits_operator (operator : Operator) : Fits operator.pieces := by
  cases operator with
  | isIn => exact fits_word (by decide)
  | is => exact fits_word (by decide)
  | contains => exact fits_word (by decide)
  | isNot =>
    have first : Fits [.word "IS"] := fits_word (by decide)
    exact first.blank (fits_word (by decide))
  | _ => exact fits_symbol _

theorem isName_value (index : Nat) : IsName ("value" ++ toString index) :=
  isName_numbered (isName_of_all (by decide) (by decide)) index

theorem isName_values (index : Nat) : IsName ("values" ++ toString index) :=
  isName_numbered (isName_of_all (by decide) (by decide)) index

end Sql

theorem Predicate.fits_operand {predicate : Predicate} (sound : predicate.Sound) (index : Nat) :
    Fits [predicate.operandPiece index] := by
  have keyword := sound.keyword
  obtain ⟨field, operator, values⟩ := predicate
  have word : ∀ text : String, text ∈ ["NULL", "TRUE", "FALSE"] → Fits [.word text] := by
    intro text known
    simp only [List.mem_cons, List.not_mem_nil, or_false] at known
    rcases known with rfl | rfl | rfl <;> exact fits_word (by decide)
  cases operator with
  | isIn => exact fits_list (isName_values index) values.length
  | is | isNot => exact word _ (keyword rfl)
  | _ => exact fits_placeholder (isName_value index)

theorem Predicate.fits_pieces {predicate : Predicate} (sound : predicate.Sound) (index : Nat) :
    Fits (predicate.pieces index) := by
  have operand := (fits_operator predicate.operator).blank (predicate.fits_operand sound index)
  have whole := (fits_column sound.field).blank operand
  rw [Predicate.pieces, List.append_assoc, List.cons_append]
  exact whole

theorem Joint.fits {joint : Joint} {inner : List Piece} (fits : Fits inner) : Fits (joint.pieces inner) := by
  unfold Joint.pieces
  split
  · have word : Fits [.word "NOT"] := fits_word (by decide)
    exact word.blank fits.brackets
  · exact fits

theorem Connector.fits (connector : Connector) : Fits [.word connector.text] := by
  cases connector <;> exact fits_word (by decide)

theorem fits_level {rows : List (Connector × List Piece)} (each : ∀ row ∈ rows, Fits row.2) :
    Fits (levelPieces rows) := by
  cases rows with
  | nil => exact fits_nil
  | cons first rest =>
    have start := each first List.mem_cons_self
    replace each := fun row member => each row (List.mem_cons_of_mem first member)
    rw [levelPieces]
    generalize first.2 = pieces at start
    induction rest generalizing pieces with
    | nil =>
      rw [joinedPieces, List.flatMap_nil, List.append_nil]
      exact start
    | cons row rest ih =>
      have next := (start.blank row.1.fits).blank (each row List.mem_cons_self)
      have whole := ih (fun other member => each other (List.mem_cons_of_mem row member)) _ next
      rw [joinedPieces, List.flatMap_cons, ← joinedPieces]
      simpa only [List.append_assoc, List.cons_append, List.nil_append] using whole

mutual

theorem Part.fits (part : Part) (index : Nat) (sound : ∀ p ∈ part.predicates, p.Sound) :
    Fits (part.pieces index) := by
  cases part with
  | predicate joint p => exact Joint.fits (p.fits_pieces (sound p (List.mem_singleton.2 rfl)) index)
  | group joint parts => exact Joint.fits (fits_level (Part.rows_fit parts index sound)).brackets

theorem Part.rows_fit (parts : List Part) (index : Nat) (sound : ∀ p ∈ Part.listPredicates parts, p.Sound) :
    ∀ row ∈ Part.rows index parts, Fits row.2 := by
  cases parts with
  | nil =>
    intro row member
    cases member
  | cons part rest =>
    rw [Part.listPredicates] at sound
    intro row member
    rcases List.mem_cons.1 member with rfl | member
    · exact Part.fits part index fun p inside => sound p (List.mem_append_left _ inside)
    · exact Part.rows_fit rest _ (fun p inside => sound p (List.mem_append_right _ inside)) row member

end

end IssueQuery
