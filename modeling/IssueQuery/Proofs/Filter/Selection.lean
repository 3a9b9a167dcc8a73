import IssueQuery.Proofs.Filter.Operands
import IssueQuery.Store.Basic

/-!
What a compiled query finds. Its statement is read back as the query's truth and ordering, so the issues found
are the stored ones for which the query is true.
-/

namespace IssueQuery
open Sql

/-! Normal forms have no empty groups. -/

theorem Part.allFilled_append {a b : List Part} :
    Part.AllFilled (a ++ b) ↔ Part.AllFilled a ∧ Part.AllFilled b := by
  induction a with
  | nil => simp [Part.AllFilled]
  | cons part a ih => rw [List.cons_append, Part.AllFilled, Part.AllFilled, ih, and_assoc]

theorem Part.allFilled_level {parts : List Part} (filled : Part.AllFilled parts) :
    Part.AllFilled (Part.level parts) := by
  cases parts with
  | nil => exact filled
  | cons part rest => cases part <;> exact filled

mutual

theorem Element.part?_filled (element : Element) (ambient : Marker) :
    Part.AllFilled (element.part? ambient).toList := by
  cases element with
  | marker m => trivial
  | predicate p => exact ⟨trivial, trivial⟩
  | group elements =>
    have inner := Element.parts_filled elements .and
    rw [Element.part?]
    split
    · trivial
    · next some =>
      refine ⟨⟨?_, Part.allFilled_level inner⟩, trivial⟩
      intro none
      cases shape : Element.parts .and elements with
      | nil => exact some shape
      | cons part rest => rw [shape] at none; cases none

theorem Element.parts_filled (elements : List Element) (ambient : Marker) :
    Part.AllFilled (Element.parts ambient elements) := by
  cases elements with
  | nil => trivial
  | cons element rest =>
    rw [Element.parts]
    exact Part.allFilled_append.2 ⟨element.part?_filled ambient, Element.parts_filled rest _⟩

end

theorem NormalQuery.bound (query : NormalQuery) : Bound query.filter.select.bindings 0 query.predicates :=
  fun _ member => lookup_of_mem (bindingNames_nodup query.predicates) member

namespace Sql

def SortTerm.said (term : SortTerm) : String × Bool :=
  (term.column.name, term.descending)

theorem readKey_pieces {key : SortKey} {tokens : List Token} (word : IsColumnWord key.field)
    (cut : Cuts tokens key.pieces) :
    ∃ column direction, column.name = key.field ∧
      ∀ after, readColumn (tokens ++ after) = .ok (column, direction :: after) ∧
        readDirection (direction :: after) = (key.direction == .desc, after) := by
  rw [SortKey.pieces, cuts_append] at cut
  obtain ⟨first, _, rfl, column, cut⟩ := cut
  rw [cuts_blank, cuts_word] at cut
  obtain ⟨place, _, rfl, cut⟩ := cut
  cases cuts_nil.1 cut
  obtain ⟨offset, _, _, read⟩ := readColumn_pieces word column
  refine ⟨⟨key.field, offset⟩, ⟨.word, key.direction.text, place⟩, rfl, ?_⟩
  intro after
  rw [List.append_assoc, read]
  refine ⟨rfl, ?_⟩
  cases key.direction with
  | asc =>
    have word := isKeyword_word (show ("ASC".toList.map Char.toUpper == "ASC".toList) = true by decide) place
    rw [readDirection, Direction.text, word]
    rfl
  | desc =>
    have word := isKeyword_word (show ("DESC".toList.map Char.toUpper == "DESC".toList) = true by decide) place
    have other := isKeyword_word (show ("DESC".toList.map Char.toUpper == "ASC".toList) = false by decide) place
    rw [readDirection, Direction.text, other, word]
    rfl

theorem readOrdering_last {column : ColumnName} {tokens rest : List Token} {descending : Bool}
    (read : readColumn tokens = .ok (column, rest)) (direction : readDirection rest = (descending, [])) :
    readOrdering tokens = .ok [⟨column, descending⟩] := by
  rw [readOrdering.eq_def]
  split
  · next e error => rw [read] at error; cases error
  · next c r found =>
    rw [read] at found
    cases found
    split
    · rw [show (readDirection rest).1 = descending by rw [direction]]
    · next mark more shape => rw [direction] at shape; cases shape

theorem readOrdering_more {column : ColumnName} {tokens rest more : List Token} {descending : Bool} {mark : Token}
    (read : readColumn tokens = .ok (column, rest)) (direction : readDirection rest = (descending, mark :: more))
    (comma : mark.isSymbol .comma = true) :
    readOrdering tokens = (readOrdering more).map (⟨column, descending⟩ :: ·) := by
  rw [readOrdering.eq_def]
  split
  · next e error => rw [read] at error; cases error
  · next c r found =>
    rw [read] at found
    cases found
    split
    · next shape => rw [direction] at shape; cases shape
    · next other others shape =>
      have same : mark :: more = other :: others := by rw [← shape, direction]
      cases same
      rw [show (readDirection rest).1 = descending by rw [direction], comma, if_pos rfl]
      cases readOrdering more <;> rfl

theorem readOrdering_pieces {key : SortKey} {keys : List SortKey} {tokens : List Token}
    (words : ∀ k ∈ key :: keys, IsColumnWord k.field)
    (cut : Cuts tokens (listed ((key :: keys).map SortKey.pieces))) :
    ∃ terms, readOrdering tokens = .ok terms ∧
      terms.map SortTerm.said = (key :: keys).map fun k => (k.field, k.direction == .desc) := by
  induction keys generalizing key tokens with
  | nil =>
    rw [List.map_singleton, listed_singleton] at cut
    obtain ⟨column, direction, name, read⟩ := readKey_pieces (words key List.mem_cons_self) cut
    have alone := readOrdering_last (read []).1 (read []).2
    rw [List.append_nil] at alone
    refine ⟨_, alone, ?_⟩
    rw [List.map_singleton, List.map_singleton, SortTerm.said, name]
  | cons next rest ih =>
    rw [List.map_cons, List.map_cons, listed_cons_cons, ← List.map_cons, cuts_append] at cut
    obtain ⟨first, _, rfl, cut, more⟩ := cut
    rw [cuts_symbol] at more
    obtain ⟨place, others, rfl, more⟩ := more
    obtain ⟨column, direction, name, read⟩ := readKey_pieces (words key List.mem_cons_self) cut
    obtain ⟨terms, found, said⟩ := ih (fun k member => words k (List.mem_cons_of_mem key member)) (cuts_blank.1 more)
    obtain ⟨start, direct⟩ := read (⟨.symbol .comma, String.ofList Symbol.comma.chars, place⟩ :: others)
    have whole := readOrdering_more start direct rfl
    rw [found] at whole
    refine ⟨_, whole, ?_⟩
    rw [List.map_cons, List.map_cons, said, SortTerm.said, name]

/-- The clauses of a statement as they are read, and what they are true of. -/
structure Select.Answers (bindings : Bindings) (select : Select) (query : NormalQuery) : Prop where
  columns : (select.condition.elim [] Expr.columns).map ColumnName.name = query.predicates.map Predicate.field
  ordering : select.ordering.map SortTerm.said = query.ordering.map fun k => (k.field, k.direction == .desc)
  selected : (∀ p ∈ query.predicates, (Column.ofName? p.field).isSome) →
    ∀ row, select.matchesRow bindings row = (query.truth row == .yes)

theorem cuts_order {query : NormalQuery} {tokens : List Token} (cut : Cuts tokens query.orderPieces) :
    (tokens = [] ∧ query.ordering = []) ∨
      ∃ first second more, tokens = ⟨.word, "ORDER", first⟩ :: ⟨.word, "BY", second⟩ :: more ∧
        query.ordering ≠ [] ∧ Cuts more (listed (query.ordering.map SortKey.pieces)) := by
  unfold NormalQuery.orderPieces at cut
  split at cut
  · next empty => exact .inl ⟨cuts_nil.1 cut, List.isEmpty_iff.1 empty⟩
  · next filled =>
    have row : Cuts tokens (.word "ORDER" :: .blank :: .word "BY" :: .blank ::
        listed (query.ordering.map SortKey.pieces)) := cut
    rw [cuts_word] at row
    obtain ⟨first, _, rfl, row⟩ := row
    rw [cuts_blank, cuts_word] at row
    obtain ⟨second, more, rfl, row⟩ := row
    exact .inr ⟨first, second, more, rfl, fun empty => filled (List.isEmpty_iff.2 empty), cuts_blank.1 row⟩

theorem readOrderingClause_order (first second : Nat) (more : List Token) :
    readOrderingClause (⟨.word, "ORDER", first⟩ :: ⟨.word, "BY", second⟩ :: more) = readOrdering more := by
  have order := isKeyword_word (show ("ORDER".toList.map Char.toUpper == "ORDER".toList) = true by decide) first
  have keyword := isKeyword_word (show ("BY".toList.map Char.toUpper == "BY".toList) = true by decide) second
  simp only [readOrderingClause, expect, order, keyword, if_true, bind, Except.bind]

theorem readOrderingClause_pieces {query : NormalQuery} {tokens : List Token}
    (words : ∀ k ∈ query.ordering, IsColumnWord k.field) (cut : Cuts tokens query.orderPieces) :
    ∃ terms, readOrderingClause tokens = .ok terms ∧
      terms.map SortTerm.said = query.ordering.map fun k => (k.field, k.direction == .desc) := by
  rcases cuts_order cut with ⟨rfl, empty⟩ | ⟨first, second, more, rfl, filled, row⟩
  · rw [empty]
    exact ⟨[], rfl, rfl⟩
  · obtain ⟨key, rest, shape⟩ := List.exists_cons_of_ne_nil filled
    rw [shape] at row words ⊢
    obtain ⟨terms, found, said⟩ := readOrdering_pieces words row
    exact ⟨terms, (readOrderingClause_order first second more).trans found, said⟩

theorem readOperator_end {query : NormalQuery} {tokens : List Token} (cut : Cuts tokens query.orderPieces)
    (complete : Complete) : readOperator [] complete tokens = .ok (complete.expr, tokens) := by
  rcases cuts_order cut with ⟨rfl, _⟩ | ⟨offset, _, _, rfl, _⟩
  · rw [readOperator]
    rfl
  · have first := isKeyword_word (show ("ORDER".toList.map Char.toUpper == "AND".toList) = false by decide) offset
    have second := isKeyword_word (show ("ORDER".toList.map Char.toUpper == "OR".toList) = false by decide) offset
    rw [readOperator, first, second]
    rfl

theorem ofTokens_order {query : NormalQuery} {tokens : List Token} (cut : Cuts tokens query.orderPieces) :
    Select.ofTokens tokens = (readOrderingClause tokens >>= fun terms => return ⟨none, terms⟩) := by
  rcases cuts_order cut with ⟨rfl, _⟩ | ⟨offset, _, _, rfl, _⟩
  · rfl
  · have other := isKeyword_word (show ("ORDER".toList.map Char.toUpper == "WHERE".toList) = false by decide) offset
    rw [Select.ofTokens, other, if_neg (by decide)]

/-- The clauses of a statement are read as the query's conditions and ordering. -/
theorem ofTokens_pieces {query : NormalQuery} {tokens : List Token} (sound : query.Sound)
    (filled : Part.AllFilled query.parts) (fields : ∀ p ∈ query.predicates, IsColumnWord p.field)
    (keys : ∀ k ∈ query.ordering, IsColumnWord k.field)
    (cut : Cuts tokens (query.wherePieces ++ query.orderPieces)) :
    ∃ select, Select.ofTokens tokens = .ok select ∧ select.Answers query.filter.select.bindings query := by
  rw [cuts_append] at cut
  obtain ⟨clause, order, rfl, clauseCut, orderCut⟩ := cut
  obtain ⟨terms, ordering, said⟩ := readOrderingClause_pieces keys orderCut
  unfold NormalQuery.wherePieces at clauseCut
  cases shape : query.parts with
  | nil =>
    rw [shape] at clauseCut
    cases cuts_nil.1 clauseCut
    refine ⟨⟨none, terms⟩, ?_, ?_, said, ?_⟩
    · rw [List.nil_append, ofTokens_order orderCut, ordering]
      rfl
    · rw [NormalQuery.predicates, shape]
      rfl
    · intro _ row
      rw [NormalQuery.truth, shape]
      rfl
  | cons part rest =>
    rw [shape, List.isEmpty_cons, if_neg (by decide)] at clauseCut
    have row : Cuts clause (.word "WHERE" :: .blank :: query.clausePieces) := clauseCut
    rw [cuts_word] at row
    obtain ⟨offset, level, rfl, row⟩ := row
    have nonempty : query.parts ≠ [] := by simp [shape]
    obtain ⟨whole, stands, read⟩ := Part.readOperand_level query.parts 0 nonempty filled sound.predicates fields
      query.bound (cuts_blank.1 row)
    have word := isKeyword_word (show ("WHERE".toList.map Char.toUpper == "WHERE".toList) = true by decide) offset
    refine ⟨⟨some whole.expr, terms⟩, ?_, stands.columns, said, ?_⟩
    · rw [List.cons_append, Select.ofTokens, word, if_pos rfl, read, readOperator_end orderCut]
      change (readOrderingClause order >>= _) = _
      rw [ordering]
      rfl
    · intro known row
      have truth : query.truth row = levelTruth (Part.truths row query.parts) := by
        rw [NormalQuery.truth, shape]
      rw [truth, ← stands.evaluate known]
      rfl

theorem Select.ofSql_clauses {sql : String} {clauses : List Char}
    (text : sql.toList = selectHead.toList ++ clauses) :
    Select.ofSql sql = (do
      let select ← Select.ofTokens (tokens (Text.byteLength selectHead.toList) clauses)
      match select.unknownColumn? with
      | some column => throw (.noSuchColumn (tableAlias ++ "." ++ column.name) column.offset)
      | none => return select) := by
  have start : selectHead.toList.isPrefixOf (selectHead.toList ++ clauses) = true :=
    List.isPrefixOf_iff_prefix.2 (List.prefix_append _ _)
  rw [Select.ofSql, text]
  dsimp only
  rw [start, List.drop_left]
  rfl

/-- The statement of a normal form has its conditions and its ordering as clauses. -/
theorem NormalQuery.select_clauses {query : NormalQuery} (sound : query.Sound) :
    ∃ clauses, query.filter.select.sql.toList = selectHead.toList ++ clauses ∧
      Cuts (tokens (Text.byteLength selectHead.toList) clauses) (query.wherePieces ++ query.orderPieces) := by
  refine ⟨spell ((query.wherePieces ++ query.orderPieces).flatMap Piece.expand), ?_, ?_⟩
  · rw [NormalQuery.select_sql sound, NormalQuery.pieces, List.flatMap_append, expand_head, spell_append, spell_head]
    exact String.toList_ofList
  · have lexed := (NormalQuery.fits sound).lexed [] stops_nil
    rw [NormalQuery.pieces, List.flatMap_append, lexed_append] at lexed
    exact tokens_spell lexed.2 (Text.byteLength selectHead.toList)

/-- The statement of a normal form is refused for a missing column at most. -/
theorem ofSql_select {query : NormalQuery} (sound : query.Sound) (filled : Part.AllFilled query.parts)
    (fields : ∀ p ∈ query.predicates, IsColumnWord p.field) (keys : ∀ k ∈ query.ordering, IsColumnWord k.field) :
    ∃ select : Select, select.Answers query.filter.select.bindings query ∧
      Select.ofSql query.filter.select.sql =
        match select.unknownColumn? with
        | some column => .error (.noSuchColumn (tableAlias ++ "." ++ column.name) column.offset)
        | none => .ok select := by
  obtain ⟨clauses, text, cut⟩ := NormalQuery.select_clauses sound
  obtain ⟨select, read, answers⟩ := ofTokens_pieces sound filled fields keys cut
  refine ⟨select, answers, ?_⟩
  rw [Select.ofSql_clauses text, read]
  simp only [bind, Except.bind]
  cases select.unknownColumn? <;> rfl

theorem Select.Answers.missing {bindings : Bindings} {select : Select} {query : NormalQuery} {column : ColumnName}
    (answers : select.Answers bindings query) (found : select.unknownColumn? = some column) :
    ((∃ p ∈ query.predicates, p.field = column.name) ∨ ∃ key ∈ query.ordering, key.field = column.name) ∧
      Column.ofName? column.name = none := by
  obtain ⟨named, unknown⟩ := Select.unknownColumn?_eq_some found
  refine ⟨named.imp ?_ ?_, unknown⟩
  · intro member
    rw [← List.mem_map, ← answers.columns]
    exact List.mem_map_of_mem member
  · intro member
    obtain ⟨term, inside, rfl⟩ := List.mem_map.1 member
    have said : term.said ∈ query.ordering.map fun k => (k.field, k.direction == .desc) := by
      rw [← answers.ordering]
      exact List.mem_map_of_mem inside
    obtain ⟨key, place, same⟩ := List.mem_map.1 said
    exact ⟨key, place, congrArg Prod.fst same⟩

theorem Select.Answers.unknownColumn? {bindings : Bindings} {select : Select} {query : NormalQuery}
    (answers : select.Answers bindings query) (fields : ∀ p ∈ query.predicates, (Column.ofName? p.field).isSome)
    (keys : ∀ k ∈ query.ordering, (Column.ofName? k.field).isSome) : select.unknownColumn? = none := by
  by_contra reported
  obtain ⟨column, found⟩ := Option.ne_none_iff_exists'.1 reported
  obtain ⟨⟨p, member, same⟩ | ⟨key, member, same⟩, unknown⟩ := answers.missing found
  · have known := fields p member
    rw [same, unknown] at known
    cases known
  · have known := keys key member
    rw [same, unknown] at known
    cases known

end Sql

/-- A valid query about columns of issues, with keywords behind `IS`. -/
structure Query.Answerable (query : Query) : Prop where
  valid : query.validate = .ok ()
  fields : ∀ p ∈ query.predicates, (Column.ofName? p.field).isSome
  keys : ∀ key ∈ query.ordering, (Column.ofName? key.field).isSome
  keywords : ∀ p ∈ query.predicates, p.operator.takesKeyword = true →
    ∀ value ∈ p.values, (literalOf? value).isSome

theorem literalOf_isSome {value : String} (known : (literalOf? value).isSome) :
    String.ofList (value.toList.map Char.toUpper) ∈ ["NULL", "TRUE", "FALSE"] := by
  unfold literalOf? at known
  split at known
  · next same => simp [same]
  · next same => simp [same]
  · next same => simp [same]
  · cases known

theorem Query.Answerable.compiles {query : Query} (answerable : query.Answerable) :
    ∀ p ∈ query.predicates, p.Compiles := by
  intro p member
  have keyword := answerable.keywords p member
  obtain ⟨_, count⟩ := Predicate.validate_ok.1 ((Query.validate_ok.1 answerable.valid).1 p member)
  obtain ⟨field, operator, values⟩ := p
  cases operator with
  | isIn => trivial
  | is | isNot =>
    obtain ⟨value, rfl⟩ := Operator.single_of_takes (by simp) count
    exact ⟨value, rfl, literalOf_isSome (keyword rfl value List.mem_cons_self)⟩
  | _ =>
    obtain ⟨value, rfl⟩ := Operator.single_of_takes (by simp) count
    exact List.cons_ne_nil value []

theorem Predicate.normal_field (predicate : Predicate) : predicate.normal.field = predicate.field := by
  unfold Predicate.normal
  split <;> rfl

theorem Store.find_select (store : Store) {filter : Filter} {select : Select}
    (read : Select.ofSql filter.select.sql = .ok select) :
    store.find filter =
      ((select.run filter.select.bindings store.rows).mapM Row.read).mapError BadTime.error := by
  unfold Store.find
  dsimp only
  rw [read]

/-- An answerable query compiles, and its filter finds the rows for which it is true, sorted by its ordering. -/
theorem Query.find_rows {query : Query} (answerable : query.Answerable) (store : Store) :
    ∃ filter terms, query.compile = .ok filter ∧
      terms.map SortTerm.said = query.ordering.map (fun key => (key.field, key.direction == .desc)) ∧
      store.find filter =
        (((store.rows.filter query.selects).mergeSort fun a b => SortTerm.compareAll terms a b != .gt).mapM
          Row.read).mapError BadTime.error := by
  have compiles := answerable.compiles
  have sound := Query.sound_normal answerable.valid compiles
  have fields : ∀ p ∈ query.normal.predicates, (Column.ofName? p.field).isSome := by
    rw [Query.normal_predicates]
    intro p member
    obtain ⟨origin, inside, rfl⟩ := List.mem_map.1 member
    rw [Predicate.normal_field]
    exact answerable.fields origin inside
  have filled : Part.AllFilled query.normal.parts := Part.allFilled_level (Element.parts_filled query.conditions .and)
  obtain ⟨select, answers, read⟩ := ofSql_select sound filled
    (fun p member => isColumnWord_of_column (fields p member))
    (fun key member => isColumnWord_of_column (answerable.keys key member))
  rw [answers.unknownColumn? fields answerable.keys] at read
  have selected : select.matchesRow query.normal.filter.select.bindings = query.selects := by
    funext row
    rw [answers.selected fields row, Query.selects, Query.truth_normal]
  refine ⟨query.normal.filter, select.ordering, Query.compile_eq_ok.2 ⟨compiles, rfl⟩, answers.ordering, ?_⟩
  rw [store.find_select read, Select.run, selected]

theorem mapM_read {rows : List Row} (readable : ∀ row ∈ rows, ∃ issue, row.read = .ok issue) :
    ∃ issues : List Issue, rows.mapM Row.read = .ok issues ∧ issues.map Except.ok = rows.map Row.read := by
  induction rows with
  | nil => exact ⟨[], rfl, rfl⟩
  | cons row rest ih =>
    obtain ⟨issue, first⟩ := readable row List.mem_cons_self
    obtain ⟨issues, others, same⟩ := ih fun other member => readable other (List.mem_cons_of_mem row member)
    refine ⟨issue :: issues, ?_, ?_⟩
    · rw [List.mapM_cons, first, others]
      rfl
    · rw [List.map_cons, List.map_cons, first, same]

theorem read_of_mapM {rows : List Row} {back : List Issue} (read : rows.mapM Row.read = .ok back) :
    ∀ row ∈ rows, ∃ issue, row.read = .ok issue := by
  induction rows generalizing back with
  | nil => intro row member; cases member
  | cons row rest ih =>
    rw [List.mapM_cons] at read
    obtain ⟨issue, first, read⟩ := ok_of_bind read
    obtain ⟨issues, others, _⟩ := ok_of_bind read
    intro other member
    rcases List.mem_cons.1 member with rfl | member
    · exact ⟨issue, first⟩
    · exact ih others other member

theorem map_of_mapM {rows : List Row} {back : List Issue} (read : rows.mapM Row.read = .ok back) :
    back.map Except.ok = rows.map Row.read := by
  obtain ⟨issues, again, same⟩ := mapM_read (read_of_mapM read)
  cases read.symm.trans again
  exact same

/-- A compiled query finds the stored issues for which its conditions are true, each of them once. -/
theorem Query.find_selects {query : Query} {store : Store} (answerable : query.Answerable)
    (readable : ∀ row ∈ store.rows, ∃ issue, row.read = .ok issue) :
    ∃ filter issues, query.compile = .ok filter ∧ store.find filter = .ok issues ∧
      (issues.map Except.ok).Perm ((store.rows.filter query.selects).map Row.read) := by
  obtain ⟨filter, terms, compiled, _, found⟩ := query.find_rows answerable store
  have sorted := List.mergeSort_perm (store.rows.filter query.selects) fun a b =>
    SortTerm.compareAll terms a b != .gt
  obtain ⟨issues, read, same⟩ := mapM_read fun row member =>
    readable row (List.mem_of_mem_filter (sorted.mem_iff.1 member))
  refine ⟨filter, issues, compiled, ?_, ?_⟩
  · rw [found, read]
    rfl
  · rw [same]
    exact sorted.map Row.read

/-- Two negated predicates of which the second is unknown while an issue is open, an empty group, and an
alternative in a group. -/
def nestedQuery : Query where
  conditions := [.marker .or, .marker .not, .predicate ⟨"priority", .eq, ["low"]⟩,
    .predicate ⟨"resolved", .gt, ["2024-06"]⟩, .marker .or, .group [], .group [.marker .not,
      .predicate ⟨"status", .isIn, ["open", "done"]⟩, .marker .or, .predicate ⟨"resolved", .is, ["null"]⟩]]

def nestedStore : Store where
  rows := [
    ⟨1, "a", "", "open", "", "high", none, "2024-01-01T00:00:00+00:00", "2024-01-01T00:00:00+00:00"⟩,
    ⟨2, "b", "", "done", "", "high", some "2024-03-01T00:00:00+00:00", "2024-01-01T00:00:00+00:00",
      "2024-03-01T00:00:00+00:00"⟩,
    ⟨3, "c", "", "done", "", "low", some "2024-07-01T00:00:00+00:00", "2024-01-01T00:00:00+00:00",
      "2024-07-01T00:00:00+00:00"⟩]

theorem nestedQuery_finds :
    ∃ filter issues, nestedQuery.compile = .ok filter ∧ nestedStore.find filter = .ok issues ∧
      (issues.map Except.ok).Perm ((nestedStore.rows.take 2).map Row.read) := by
  have answerable : nestedQuery.Answerable :=
    ⟨by decide +kernel, by decide +kernel, by decide +kernel, by decide +kernel⟩
  have readable : ∀ row ∈ nestedStore.rows, ∃ issue, row.read = .ok issue := by
    have ok : ∀ row ∈ nestedStore.rows, row.read.isOk = true := by decide +kernel
    intro row member
    have some := ok row member
    cases read : row.read with
    | ok issue => exact ⟨issue, rfl⟩
    | error bad => rw [read] at some; cases some
  have selected : nestedStore.rows.filter nestedQuery.selects = nestedStore.rows.take 2 := by decide +kernel
  rw [← selected]
  exact Query.find_selects answerable readable

end IssueQuery
