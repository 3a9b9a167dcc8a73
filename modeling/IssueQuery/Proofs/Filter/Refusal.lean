import IssueQuery.Proofs.Filter.Selection
import IssueQuery.Proofs.Query.Fields
import IssueQuery.Proofs.Query.Printed

/-!
Which statements are refused, and why. A field that is no word for a column stops the reading of the statement
wherever it stands. Any other statement is read to its end and refused for a missing column at most.
-/

namespace IssueQuery
open Sql

def SqlError.IsSyntax : SqlError → Prop
  | noSuchColumn _ _ | interrupted | failed _ => False
  | _ => True

namespace Sql

/-- The reading ends in a fault of the text. -/
def Stuck {α : Type} (read : Except SqlError α) : Prop :=
  ∃ cause, read = .error cause ∧ cause.IsSyntax

theorem Stuck.bind {α β : Type} {read : Except SqlError α} (stuck : Stuck read) (next : α → Except SqlError β) :
    Stuck (read >>= next) := by
  obtain ⟨cause, rfl, syntactic⟩ := stuck
  exact ⟨cause, rfl, syntactic⟩

theorem Token.fault_isSyntax (token : Token) : token.fault.IsSyntax := by
  unfold Token.fault
  split <;> trivial

theorem stuck_expect {accepts : Token → Bool} {token : Token} (refused : accepts token = false)
    (rest : List Token) : Stuck (expect accepts (token :: rest)) := by
  rw [expect, refused]
  exact ⟨token.fault, rfl, token.fault_isSyntax⟩

/-! Columns. -/

/-- A digit takes the point before it into a token of its own. -/
theorem nextToken_point_not_dot {c : Char} (digit : c.isDigit = true) (name : List Char) :
    (nextToken '.' (c :: name)).1 ≠ .symbol .dot := by
  have start : (Char.isDigit '.' || ('.' == '.' && (c :: name).head?.any Char.isDigit)) = true := by
    simp [digit]
  simp only [nextToken, start, if_true]
  split <;> simp

theorem isColumnWord_iff {text : String} :
    IsColumnWord text ↔ text.toList.head?.any Char.isDigit = false ∧
      text.toList.map Char.toUpper ∉ reservedWords.map String.toList := by
  have letter : (∀ c ∈ text.toList.head?, c.isDigit = false) ↔ text.toList.head?.any Char.isDigit = false := by
    cases text.toList.head? <;> simp
  rw [← letter]
  exact ⟨fun word => ⟨word.letter, word.free⟩, fun both => ⟨both.1, both.2⟩⟩

instance (text : String) : Decidable (IsColumnWord text) :=
  decidable_of_iff _ isColumnWord_iff.symm

theorem isName_reserved {text : String} (reserved : text.toList.map Char.toUpper ∈ reservedWords.map String.toList)
    (offset : Nat) : (⟨.word, text, offset⟩ : Token).isName = false := by
  obtain ⟨keyword, member, same⟩ := List.mem_map.1 reserved
  have found : reservedWords.any (⟨.word, text, offset⟩ : Token).isKeyword = true :=
    List.any_eq_true.2 ⟨keyword, member, isKeyword_word (by rw [same]; exact beq_self_eq_true _) offset⟩
  rw [Token.isName, found]
  rfl

theorem readColumn_stuck {field : String} {tokens : List Token} (bad : ¬IsColumnWord field)
    (cut : Cuts tokens (columnPieces field)) :
    ∃ offset more, tokens = ⟨.word, tableAlias, offset⟩ :: more ∧ ∀ after, Stuck (readColumn (tokens ++ after)) := by
  rw [columnPieces, cuts_word] at cut
  obtain ⟨first, more, rfl, cut⟩ := cut
  refine ⟨first, more, rfl, ?_⟩
  intro after
  have table : (⟨.word, tableAlias, first⟩ : Token).isKeyword "ISSUE" = true :=
    isKeyword_word (by decide) first
  rw [List.cons_append, readColumn, expect, table, if_pos rfl]
  change Stuck (expect (·.isSymbol .dot) (more ++ after) >>= _)
  -- a digit leaves no point behind the table's name; a reserved word leaves one, but no name behind it
  cases letter : field.toList.head?.any Char.isDigit with
  | true =>
    rw [letter, if_pos rfl, cuts_token] at cut
    obtain ⟨second, rest, rfl, -⟩ := cut
    apply Stuck.bind
    apply stuck_expect
    cases shape : field.toList with
    | nil =>
      rw [shape] at letter
      cases letter
    | cons c name =>
      rw [shape] at letter
      exact beq_false_of_ne (nextToken_point_not_dot letter name)
  | false =>
    have reserved : field.toList.map Char.toUpper ∈ reservedWords.map String.toList := by
      by_contra free
      exact bad (isColumnWord_iff.2 ⟨letter, free⟩)
    rw [letter, if_neg (by decide), cuts_symbol] at cut
    obtain ⟨second, _, rfl, cut⟩ := cut
    rw [cuts_word] at cut
    obtain ⟨third, rest, rfl, -⟩ := cut
    change Stuck (expect Token.isName (⟨.word, field, third⟩ :: rest ++ after) >>= _)
    exact (stuck_expect (isName_reserved reserved third) _).bind _

theorem readComparison_stuck {predicate : Predicate} {index : Nat} {tokens : List Token}
    (bad : ¬IsColumnWord predicate.field) (cut : Cuts tokens (predicate.pieces index)) :
    ∃ offset more, tokens = ⟨.word, tableAlias, offset⟩ :: more ∧
      ∀ after, Stuck (readComparison (tokens ++ after)) := by
  rw [Predicate.pieces, List.append_assoc, List.cons_append, cuts_append] at cut
  obtain ⟨first, second, rfl, column, -⟩ := cut
  obtain ⟨offset, more, rfl, stuck⟩ := readColumn_stuck bad column
  refine ⟨offset, more ++ second, rfl, ?_⟩
  intro after
  rw [List.append_assoc, readComparison]
  exact (stuck _).bind _

/-! Operands. -/

/-- No operand can be read from the tokens, whatever stands around them. -/
def Sticks (tokens : List Token) : Prop :=
  ∀ outer pending after, Stuck (readOperand outer pending (tokens ++ after))

theorem sticks_comparison {tokens : List Token} {offset : Nat}
    (start : ∃ more, tokens = ⟨.word, tableAlias, offset⟩ :: more)
    (stuck : ∀ after, Stuck (readComparison (tokens ++ after))) : Sticks tokens := by
  obtain ⟨more, rfl⟩ := start
  have positive := isKeyword_word (show (tableAlias.toList.map Char.toUpper == "NOT".toList) = false by decide) offset
  have other : (⟨.word, tableAlias, offset⟩ : Token).isSymbol .openParen = false := rfl
  intro outer pending after
  obtain ⟨cause, read, syntactic⟩ := stuck after
  rw [List.cons_append] at read ⊢
  rw [readOperand, positive, other]
  simp only [Bool.false_eq_true, if_false]
  split
  · next error found =>
    rw [read] at found
    cases found
    exact ⟨cause, rfl, syntactic⟩
  · next found =>
    rw [read] at found
    cases found

theorem Sticks.not {tokens : List Token} (sticks : Sticks tokens) (offset : Nat) :
    Sticks (⟨.word, "NOT", offset⟩ :: tokens) := by
  intro outer pending after
  have word := isKeyword_word (show ("NOT".toList.map Char.toUpper == "NOT".toList) = true by decide) offset
  rw [List.cons_append, readOperand, word, if_pos rfl]
  exact sticks outer _ after

theorem Sticks.brackets {tokens : List Token} (sticks : Sticks tokens) (offset : Nat) (rest : List Token) :
    Sticks (⟨.symbol .openParen, String.ofList Symbol.openParen.chars, offset⟩ :: tokens ++ rest) := by
  intro outer pending after
  have positive : (⟨.symbol .openParen, String.ofList Symbol.openParen.chars, offset⟩ : Token).isKeyword "NOT" =
      false := rfl
  have opening : (⟨.symbol .openParen, String.ofList Symbol.openParen.chars, offset⟩ : Token).isSymbol .openParen =
      true := rfl
  rw [List.append_assoc, List.cons_append, readOperand, positive, opening, if_neg (by decide), if_pos rfl]
  exact sticks (pending :: outer) {} _

theorem Sticks.append {tokens : List Token} (sticks : Sticks tokens) (rest : List Token) :
    Sticks (tokens ++ rest) := by
  intro outer pending after
  rw [List.append_assoc]
  exact sticks outer pending _

theorem Sticks.readOperator {tokens : List Token} (sticks : Sticks tokens) (connector : Connector) (offset : Nat)
    (outer : List Pending) (complete : Complete) (after : List Token) :
    Stuck (readOperator outer complete (⟨.word, connector.text, offset⟩ :: tokens ++ after)) := by
  cases connector with
  | and =>
    have word := isKeyword_word (show ("AND".toList.map Char.toUpper == "AND".toList) = true by decide) offset
    rw [List.cons_append, readOperator.eq_def]
    simp only [Connector.text, word, if_true]
    exact sticks _ _ after
  | or =>
    have word := isKeyword_word (show ("OR".toList.map Char.toUpper == "OR".toList) = true by decide) offset
    have other := isKeyword_word (show ("OR".toList.map Char.toUpper == "AND".toList) = false by decide) offset
    rw [List.cons_append, readOperator.eq_def]
    simp only [Connector.text, other, word, Bool.false_eq_true, if_false, if_true]
    exact sticks _ _ after

theorem sticks_joint {joint : Joint} {tokens : List Token} {inner : List Piece}
    (cut : Cuts tokens (joint.pieces inner)) (sticks : ∀ middle, Cuts middle inner → Sticks middle) :
    Sticks tokens := by
  cases negated : joint.negated with
  | false =>
    rw [Joint.pieces, negated, if_neg (by decide)] at cut
    exact sticks tokens cut
  | true =>
    rw [Joint.pieces, negated, if_pos rfl, List.append_assoc, List.cons_append, cuts_word] at cut
    obtain ⟨first, _, rfl, cut⟩ := cut
    rw [List.cons_append, cuts_blank, List.singleton_append, cuts_symbol] at cut
    obtain ⟨second, _, rfl, cut⟩ := cut
    rw [cuts_append] at cut
    obtain ⟨middle, close, rfl, inside, -⟩ := cut
    exact ((sticks middle inside).brackets second close).not first

theorem exists_behind {α : Type} {passes : α → Prop} {first others : List α} (all : ∀ a ∈ first, passes a)
    (bad : ∃ a ∈ first ++ others, ¬passes a) : ∃ a ∈ others, ¬passes a := by
  obtain ⟨a, member, bad⟩ := bad
  rcases List.mem_append.1 member with before | behind
  · exact absurd (all a before) bad
  · exact ⟨a, behind, bad⟩

end Sql

mutual

/-- A part with a field that is no word for a column cannot be read. What stands before the field can. -/
theorem Part.sticks (part : Part) (index : Nat) {bindings : Bindings} {tokens : List Sql.Token}
    (filled : part.Filled) (sound : ∀ p ∈ part.predicates, p.Sound)
    (bad : ∃ p ∈ part.predicates, ¬IsColumnWord p.field) (bound : Bound bindings index part.predicates)
    (cut : Cuts tokens (part.pieces index)) : Sticks tokens := by
  cases part with
  | predicate joint p =>
    obtain ⟨q, member, bad⟩ := bad
    cases List.mem_singleton.1 member
    apply sticks_joint cut
    intro middle inside
    obtain ⟨offset, more, shape, stuck⟩ := readComparison_stuck bad inside
    exact sticks_comparison ⟨more, shape⟩ stuck
  | group joint parts =>
    apply sticks_joint cut
    intro middle inside
    rw [List.cons_append, cuts_symbol] at inside
    obtain ⟨first, _, rfl, inside⟩ := inside
    rw [cuts_append] at inside
    obtain ⟨level, close, rfl, inside, -⟩ := inside
    exact (Part.level_sticks parts index filled.2 sound bad bound inside).brackets first close

theorem Part.level_sticks (parts : List Part) (index : Nat) {bindings : Bindings} {tokens : List Sql.Token}
    (filled : Part.AllFilled parts) (sound : ∀ p ∈ Part.listPredicates parts, p.Sound)
    (bad : ∃ p ∈ Part.listPredicates parts, ¬IsColumnWord p.field)
    (bound : Bound bindings index (Part.listPredicates parts))
    (cut : Cuts tokens (levelPieces (Part.rows index parts))) : Sticks tokens := by
  cases parts with
  | nil =>
    obtain ⟨p, member, -⟩ := bad
    cases member
  | cons part rest =>
    rw [Part.listPredicates] at sound bad bound
    rw [Part.rows, levelPieces, cuts_append] at cut
    obtain ⟨first, others, rfl, cut, more⟩ := cut
    -- a part without a bad field is read as an operand, so the reading goes on with the others
    by_cases words : ∀ p ∈ part.predicates, IsColumnWord p.field
    · obtain ⟨operand, -, pushes⟩ := Part.pushes part index filled.1
        (fun p member => sound p (List.mem_append_left _ member)) words bound.left cut
      have later := exists_behind words bad
      intro outer pending after
      rw [List.append_assoc, pushes]
      exact Part.joined_stuck rest _ filled.2 (fun p member => sound p (List.mem_append_right _ member)) later
        bound.right more outer _ after
    · push Not at words
      exact (Part.sticks part index filled.1 (fun p member => sound p (List.mem_append_left _ member)) words
        bound.left cut).append others

theorem Part.joined_stuck (parts : List Part) (index : Nat) {bindings : Bindings} {tokens : List Sql.Token}
    (filled : Part.AllFilled parts) (sound : ∀ p ∈ Part.listPredicates parts, p.Sound)
    (bad : ∃ p ∈ Part.listPredicates parts, ¬IsColumnWord p.field)
    (bound : Bound bindings index (Part.listPredicates parts))
    (cut : Cuts tokens (joinedPieces (Part.rows index parts))) (outer : List Sql.Pending) (complete : Sql.Complete)
    (after : List Sql.Token) : Stuck (readOperator outer complete (tokens ++ after)) := by
  cases parts with
  | nil =>
    obtain ⟨p, member, -⟩ := bad
    cases member
  | cons part rest =>
    rw [Part.listPredicates] at sound bad bound
    rw [Part.rows, joinedPieces, List.flatMap_cons, ← joinedPieces] at cut
    rw [cuts_append] at cut
    obtain ⟨row, others, rfl, cut, more⟩ := cut
    rw [cuts_blank, cuts_word] at cut
    obtain ⟨offset, middle, rfl, cut⟩ := cut
    rw [List.append_assoc]
    by_cases words : ∀ p ∈ part.predicates, IsColumnWord p.field
    · obtain ⟨operand, -, pushes⟩ := Part.pushes part index filled.1
        (fun p member => sound p (List.mem_append_left _ member)) words bound.left cut
      have later := exists_behind words bad
      rw [readOperator_add pushes]
      exact Part.joined_stuck rest _ filled.2 (fun p member => sound p (List.mem_append_right _ member)) later
        bound.right more outer _ after
    · push Not at words
      exact (Part.sticks part index filled.1 (fun p member => sound p (List.mem_append_left _ member)) words
        bound.left cut).readOperator part.connector offset outer complete _

end

namespace Sql

/-! Clauses. -/

theorem readOrdering_stuck {tokens : List Token} (stuck : Stuck (readColumn tokens)) :
    Stuck (readOrdering tokens) := by
  obtain ⟨cause, read, syntactic⟩ := stuck
  rw [readOrdering.eq_def]
  split
  · next error found =>
    rw [read] at found
    cases found
    exact ⟨cause, rfl, syntactic⟩
  · next found =>
    rw [read] at found
    cases found

theorem cuts_keys {key : SortKey} {rest : List SortKey} {tokens : List Token}
    (cut : Cuts tokens (listed ((key :: rest).map SortKey.pieces))) :
    ∃ first others, tokens = first ++ others ∧ Cuts first key.pieces ∧
      (rest ≠ [] → ∃ offset more, others = ⟨.symbol .comma, String.ofList Symbol.comma.chars, offset⟩ :: more ∧
        Cuts more (listed (rest.map SortKey.pieces))) := by
  cases rest with
  | nil =>
    rw [List.map_singleton, listed_singleton] at cut
    exact ⟨tokens, [], (List.append_nil tokens).symm, cut, fun some => absurd rfl some⟩
  | cons next rest =>
    rw [List.map_cons, List.map_cons, listed_cons_cons, ← List.map_cons, cuts_append] at cut
    obtain ⟨first, others, rfl, cut, more⟩ := cut
    exact ⟨first, others, rfl, cut, fun _ => cuts_symbol.1 more⟩

theorem readOrdering_keys_stuck {keys : List SortKey} {tokens : List Token}
    (bad : ∃ k ∈ keys, ¬IsColumnWord k.field) (cut : Cuts tokens (listed (keys.map SortKey.pieces))) :
    Stuck (readOrdering tokens) := by
  induction keys generalizing tokens with
  | nil =>
    obtain ⟨k, member, -⟩ := bad
    cases member
  | cons key rest ih =>
    obtain ⟨first, others, rfl, keyCut, more⟩ := cuts_keys cut
    by_cases word : IsColumnWord key.field
    · have later : ∃ k ∈ rest, ¬IsColumnWord k.field := by
        rw [List.exists_mem_cons_iff] at bad
        exact bad.resolve_left fun refused => refused word
      obtain ⟨k, member, -⟩ := id later
      obtain ⟨offset, after, rfl, row⟩ := more (List.ne_nil_of_mem member)
      obtain ⟨column, direction, -, read⟩ := readKey_pieces word keyCut
      obtain ⟨start, direct⟩ := read (⟨.symbol .comma, String.ofList Symbol.comma.chars, offset⟩ :: after)
      obtain ⟨cause, error, syntactic⟩ := ih later row
      rw [readOrdering_more start direct rfl, error]
      exact ⟨cause, rfl, syntactic⟩
    · rw [SortKey.pieces, cuts_append] at keyCut
      obtain ⟨name, tail, rfl, column, -⟩ := keyCut
      obtain ⟨_, _, _, stuck⟩ := readColumn_stuck word column
      rw [List.append_assoc]
      exact readOrdering_stuck (stuck _)

theorem readOrderingClause_stuck {query : NormalQuery} {tokens : List Token}
    (bad : ∃ k ∈ query.ordering, ¬IsColumnWord k.field) (cut : Cuts tokens query.orderPieces) :
    Stuck (readOrderingClause tokens) := by
  rcases cuts_order cut with ⟨-, empty⟩ | ⟨first, second, more, rfl, -, row⟩
  · obtain ⟨k, member, -⟩ := bad
    rw [empty] at member
    cases member
  · rw [readOrderingClause_order]
    exact readOrdering_keys_stuck bad row

/-- A field that is no word for a column keeps the clauses from being read to their end. -/
theorem ofTokens_stuck {query : NormalQuery} {tokens : List Token} (sound : query.Sound)
    (filled : Part.AllFilled query.parts)
    (bad : (∃ p ∈ query.predicates, ¬IsColumnWord p.field) ∨ ∃ k ∈ query.ordering, ¬IsColumnWord k.field)
    (cut : Cuts tokens (query.wherePieces ++ query.orderPieces)) : Stuck (Select.ofTokens tokens) := by
  rw [cuts_append] at cut
  obtain ⟨clause, order, rfl, clauseCut, orderCut⟩ := cut
  unfold NormalQuery.wherePieces at clauseCut
  cases shape : query.parts with
  | nil =>
    have later := bad.resolve_left (by simp [NormalQuery.predicates, shape, Part.listPredicates])
    rw [shape] at clauseCut
    cases cuts_nil.1 clauseCut
    rw [List.nil_append, ofTokens_order orderCut]
    exact (readOrderingClause_stuck later orderCut).bind _
  | cons part rest =>
    rw [shape, List.isEmpty_cons, if_neg (by decide)] at clauseCut
    have row : Cuts clause (.word "WHERE" :: .blank :: query.clausePieces) := clauseCut
    rw [cuts_word] at row
    obtain ⟨offset, level, rfl, row⟩ := row
    have word := isKeyword_word (show ("WHERE".toList.map Char.toUpper == "WHERE".toList) = true by decide) offset
    rw [List.cons_append, Select.ofTokens, word, if_pos rfl]
    by_cases words : ∀ p ∈ query.predicates, IsColumnWord p.field
    · have nonempty : query.parts ≠ [] := by simp [shape]
      obtain ⟨whole, -, read⟩ := Part.readOperand_level query.parts 0 nonempty filled sound.predicates words
        query.bound (cuts_blank.1 row)
      have later := bad.resolve_left (by push Not; exact words)
      rw [read, readOperator_end orderCut]
      exact (readOrderingClause_stuck later orderCut).bind _
    · push Not at words
      exact (Part.level_sticks query.parts 0 filled sound.predicates words query.bound (cuts_blank.1 row) [] {}
        order).bind _

/-- The text is a statement for reading issues. Whether its columns exist does not matter. -/
def WellFormed (sql : String) : Prop :=
  ∃ clauses select, sql.toList = selectHead.toList ++ clauses ∧
    Select.ofTokens (tokens (Text.byteLength selectHead.toList) clauses) = .ok select

theorem WellFormed.not_stuck {sql : String} (formed : WellFormed sql) : ¬Stuck (Select.ofSql sql) := by
  obtain ⟨clauses, select, text, read⟩ := formed
  rintro ⟨cause, refused, syntactic⟩
  rw [Select.ofSql_clauses text, read] at refused
  simp only [bind, Except.bind] at refused
  split at refused
  · cases refused
    exact syntactic
  · cases refused

end Sql

theorem NormalQuery.select_stuck {query : NormalQuery} (sound : query.Sound) (filled : Part.AllFilled query.parts)
    (bad : ¬((∀ p ∈ query.predicates, IsColumnWord p.field) ∧ ∀ k ∈ query.ordering, IsColumnWord k.field)) :
    Stuck (Select.ofSql query.filter.select.sql) := by
  rw [not_and_or] at bad
  push Not at bad
  obtain ⟨clauses, text, cut⟩ := NormalQuery.select_clauses sound
  rw [Select.ofSql_clauses text]
  exact (ofTokens_stuck sound filled bad cut).bind _

theorem NormalQuery.select_wellFormed {query : NormalQuery} (sound : query.Sound)
    (filled : Part.AllFilled query.parts) :
    WellFormed query.filter.select.sql ↔
      (∀ p ∈ query.predicates, IsColumnWord p.field) ∧ ∀ k ∈ query.ordering, IsColumnWord k.field := by
  constructor
  · intro formed
    by_contra bad
    exact formed.not_stuck (NormalQuery.select_stuck sound filled bad)
  · rintro ⟨fields, keys⟩
    obtain ⟨clauses, text, cut⟩ := NormalQuery.select_clauses sound
    obtain ⟨select, read, -⟩ := ofTokens_pieces sound filled fields keys cut
    exact ⟨clauses, select, text, read⟩

theorem Store.find_execution {store : Store} {filter : Filter} {cause : SqlError} {sql : String} :
    store.find filter = .error (.execution cause sql) ↔
      Select.ofSql filter.select.sql = .error cause ∧ sql = filter.select.sql := by
  unfold Store.find
  dsimp only
  split
  · next refused =>
    rw [refused, Except.error.injEq, Except.error.injEq, Failure.execution.injEq]
    exact and_congr_right fun _ => eq_comm
  · next select read =>
    rw [read]
    cases (select.run filter.select.bindings store.rows).mapM Row.read <;> simp [Except.mapError, BadTime.error]

theorem Query.fieldNames_normal (query : Query) :
    query.fieldNames =
      query.normal.predicates.map Predicate.field ++ query.normal.ordering.map SortKey.field := by
  rw [Query.normal_predicates, List.map_map, Query.fieldNames]
  congr 1
  exact List.map_congr_left fun p _ => (Predicate.normal_field p).symm

/-- A prepared query has a well-formed statement if each of its fields is a word for a column, and no other has.
A well-formed one is refused for a field that is no column at most; any other is refused for its text. -/
theorem Query.prepared_wellFormed {text : String} {prepared : Prepared}
    (accepted : Query.prepare text = .ok prepared) :
    (WellFormed prepared.filter.select.sql ↔ ∀ name ∈ prepared.query.fieldNames, IsColumnWord name) ∧
      (WellFormed prepared.filter.select.sql → ∀ (store : Store) (cause : SqlError) (sql : String),
        store.find prepared.filter = .error (.execution cause sql) →
          ∃ name ∈ prepared.query.fieldNames, Column.ofName? name = none ∧
            ∃ offset, cause = .noSuchColumn (tableAlias ++ "." ++ name) offset) ∧
      (¬WellFormed prepared.filter.select.sql → ∃ cause : SqlError, cause.IsSyntax ∧
        ∀ store : Store, store.find prepared.filter =
          .error (.execution cause prepared.filter.select.sql)) := by
  obtain ⟨-, -, valid, compiled⟩ := Query.prepare_eq_ok.1 accepted
  obtain ⟨compiles, same⟩ := Query.compile_eq_ok.1 compiled
  have sound := Query.sound_normal valid compiles
  have filled : Part.AllFilled prepared.query.normal.parts :=
    Part.allFilled_level (Element.parts_filled prepared.query.conditions .and)
  have formed := NormalQuery.select_wellFormed sound filled
  rw [same, prepared.query.fieldNames_normal, List.forall_mem_append, List.forall_mem_map, List.forall_mem_map]
  refine ⟨formed, ?_, ?_⟩
  · intro readable store cause sql refused
    obtain ⟨fields, keys⟩ := formed.1 readable
    obtain ⟨select, answers, read⟩ := ofSql_select sound filled fields keys
    obtain ⟨error, -⟩ := Store.find_execution.1 refused
    rw [read] at error
    split at error
    · next column missing =>
      cases error
      obtain ⟨named, unknown⟩ := answers.missing missing
      refine ⟨column.name, ?_, unknown, column.offset, rfl⟩
      simpa only [List.mem_append, List.mem_map] using named
    · cases error
  · intro refused
    obtain ⟨cause, error, syntactic⟩ := NormalQuery.select_stuck sound filled fun words => refused (formed.2 words)
    exact ⟨cause, syntactic, fun store => Store.find_execution.2 ⟨error, rfl⟩⟩

def misnamedText : String :=
  "NOT (key = 1 OR status IN (open, done)) ORDER BY größe DESC"

theorem misnamedText_wellFormed :
    ∃ prepared, Query.prepare misnamedText = .ok prepared ∧
      prepared.query.fieldNames = ["key", "status", "größe"] ∧ WellFormed prepared.filter.select.sql := by
  have read : (Query.prepare misnamedText).map (fun prepared => prepared.query.fieldNames) =
      .ok ["key", "status", "größe"] := by
    decide +kernel
  have words : ∀ name ∈ ["key", "status", "größe"], IsColumnWord name := by decide +kernel
  cases found : Query.prepare misnamedText with
  | error refusal =>
    rw [found] at read
    cases read
  | ok prepared =>
    rw [found] at read
    have names : prepared.query.fieldNames = ["key", "status", "größe"] := Except.ok.inj read
    rw [← names] at words
    exact ⟨prepared, rfl, names, (Query.prepared_wellFormed found).1.2 words⟩

/-- A reserved word is prepared as a field, and the statement about it cannot be read. -/
theorem reserved_field_refused :
    ∃ prepared, Query.prepare "order = 1" = .ok prepared ∧ ¬WellFormed prepared.filter.select.sql ∧
      ∀ store : Store, store.find prepared.filter =
        .error (.execution (.syntaxError "order" 179) prepared.filter.select.sql) := by
  have read : (Query.prepare "order = 1").map (fun prepared => prepared.filter) =
      .ok ⟨some "issue.order = :value0", [⟨"value0", .scalar "1"⟩], []⟩ := by
    decide +kernel
  have offset : Text.byteLength selectHead.toList = 166 := by
    rw [← spell_head]
    decide +kernel
  have clauses : Select.ofTokens (tokens 166 " WHERE issue.order = :value0".toList) =
      .error (.syntaxError "order" 179) := by
    decide +kernel
  cases found : Query.prepare "order = 1" with
  | error refusal =>
    rw [found] at read
    cases read
  | ok prepared =>
    rw [found] at read
    have filter : prepared.filter = ⟨some "issue.order = :value0", [⟨"value0", .scalar "1"⟩], []⟩ :=
      Except.ok.inj read
    have text : prepared.filter.select.sql.toList = selectHead.toList ++ " WHERE issue.order = :value0".toList := by
      rw [filter]
      simp [Filter.select, Filter.expandedClause, Param.expand]
    have refused : Select.ofSql prepared.filter.select.sql = .error (.syntaxError "order" 179) := by
      rw [Select.ofSql_clauses text, offset, clauses]
      rfl
    refine ⟨prepared, rfl, ?_, fun store => Store.find_execution.2 ⟨refused, rfl⟩⟩
    intro formed
    exact formed.not_stuck ⟨_, refused, trivial⟩

end IssueQuery
