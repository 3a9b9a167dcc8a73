import IssueQuery.Filter.Explain
import IssueQuery.Proofs.Filter.Decoding
import IssueQuery.Proofs.Text.Joined
import IssueQuery.Proofs.Text.Quoted

/-!
The text that shows a filter tells the filter. No line of it is ended by what it shows, for SQL is written in few
characters and values stand between quotes; and each line is known from its text.
-/

namespace IssueQuery
open Sql Text

/-! Which characters the SQL of a filter is written in. -/

def isClauseChar (c : Char) : Bool :=
  isNameChar c || c ∈ " ():.=<>".toList

theorem isClauseChar_name {name : String} (fit : IsName name) : ∀ c ∈ name.toList, isClauseChar c = true := by
  intro c member
  rw [isClauseChar, fit.all c member, Bool.true_or]

theorem isClauseChar_of_all {text : String} (all : text.toList.all isClauseChar = true) :
    ∀ c ∈ text.toList, isClauseChar c = true :=
  List.all_eq_true.1 all

def Sql.Spelled (pieces : List Piece) : Prop :=
  (spell pieces).all isClauseChar = true

instance (pieces : List Piece) : Decidable (Spelled pieces) :=
  inferInstanceAs (Decidable (_ = true))

theorem spelled_iff {pieces : List Piece} : Spelled pieces ↔ ∀ c ∈ spell pieces, isClauseChar c = true :=
  List.all_eq_true

theorem spelled_append {a b : List Piece} : Spelled (a ++ b) ↔ Spelled a ∧ Spelled b := by
  rw [Spelled, spell_append, List.all_append, Bool.and_eq_true]
  rfl

theorem spelled_cons {piece : Piece} {rest : List Piece} :
    Spelled (piece :: rest) ↔ piece.chars.all isClauseChar = true ∧ Spelled rest := by
  rw [Spelled, spell_cons, List.all_append, Bool.and_eq_true]
  rfl

theorem isClauseChar_column {field : String} (fit : isIdentifier field = true) :
    ∀ c ∈ (column field).toList, isClauseChar c = true := by
  rw [column, String.toList_append, List.forall_mem_append]
  exact ⟨isClauseChar_of_all (by decide), isClauseChar_name (isName_column fit)⟩

theorem SortKey.isClauseChar_sql {key : SortKey} (fit : isIdentifier key.field = true) :
    ∀ c ∈ key.sql.toList, isClauseChar c = true := by
  rw [SortKey.sql, String.toList_append, List.forall_mem_append, String.toList_append, List.forall_mem_append]
  refine ⟨⟨isClauseChar_column fit, isClauseChar_of_all (by decide)⟩, isClauseChar_of_all ?_⟩
  cases key.direction <;> decide

namespace Predicate

theorem spelled_operand {predicate : Predicate} (sound : predicate.Sound) (index : Nat) :
    (predicate.operandPiece index).chars.all isClauseChar = true := by
  rw [List.all_eq_true]
  have keyword := sound.keyword
  obtain ⟨field, operator, values⟩ := predicate
  have word : ∀ text ∈ ["NULL", "TRUE", "FALSE"], text.toList.all isClauseChar = true := by decide
  cases operator with
  | isIn =>
    intro c member
    simp only [operandPiece, Piece.chars, List.mem_append] at member
    rcases member with (opening | inside) | closing
    · exact isClauseChar_of_all (by decide) c opening
    · exact isClauseChar_name (isName_values index) c inside
    · rw [List.mem_singleton.1 closing]
      decide
  | is | isNot => exact isClauseChar_of_all (word _ (keyword rfl))
  | _ =>
    intro c member
    simp only [operandPiece, Piece.chars, String.toList_append (s := ":"), List.mem_append] at member
    rcases member with colon | inside
    · exact isClauseChar_of_all (by decide) c colon
    · exact isClauseChar_name (isName_value index) c inside

theorem spelled {predicate : Predicate} (sound : predicate.Sound) (index : Nat) :
    Spelled (predicate.pieces index) := by
  have operators : ∀ operator ∈ Operator.all, operator.sql.toList.all isClauseChar = true := by decide
  rw [pieces, spelled_append, spelled_append, spelled_cons, spelled_cons, spelled_cons]
  refine ⟨⟨?_, by decide, ?_⟩, by decide, predicate.spelled_operand sound index, rfl⟩
  · rw [spelled_iff, spell_column]
    exact isClauseChar_column sound.field
  · rw [Spelled, spell_operator]
    exact operators _ (Operator.mem_all _)

end Predicate

theorem Joint.spelled {joint : Joint} {inner : List Piece} (spelled : Spelled inner) :
    Spelled (joint.pieces inner) := by
  unfold Joint.pieces
  split
  · rw [spelled_append, spelled_append]
    exact ⟨⟨by decide, spelled⟩, by decide⟩
  · exact spelled

theorem spelled_joined {rows : List (Connector × List Piece)} (each : ∀ row ∈ rows, Spelled row.2) :
    Spelled (joinedPieces rows) := by
  induction rows with
  | nil => rfl
  | cons row rest ih =>
    rw [List.forall_mem_cons] at each
    rw [joinedPieces, List.flatMap_cons, ← joinedPieces, List.cons_append, List.cons_append, List.cons_append,
      spelled_cons, spelled_cons, spelled_cons, spelled_append]
    refine ⟨by decide, ?_, by decide, each.1, ih each.2⟩
    cases row.1 <;> decide

theorem spelled_level {rows : List (Connector × List Piece)} (each : ∀ row ∈ rows, Spelled row.2) :
    Spelled (levelPieces rows) := by
  cases rows with
  | nil => rfl
  | cons first rest =>
    rw [List.forall_mem_cons] at each
    rw [levelPieces, spelled_append]
    exact ⟨each.1, spelled_joined each.2⟩

mutual

theorem Part.spelled (part : Part) (index : Nat) (sound : ∀ p ∈ part.predicates, p.Sound) :
    Spelled (part.pieces index) := by
  cases part with
  | predicate joint p => exact Joint.spelled (p.spelled (sound p (List.mem_singleton.2 rfl)) index)
  | group joint parts =>
    have level := spelled_level (Part.rows_spelled parts index sound)
    rw [Part.pieces]
    apply Joint.spelled
    rw [List.cons_append, spelled_cons, spelled_append]
    exact ⟨by decide, level, by decide⟩

theorem Part.rows_spelled (parts : List Part) (index : Nat) (sound : ∀ p ∈ Part.listPredicates parts, p.Sound) :
    ∀ row ∈ Part.rows index parts, Spelled row.2 := by
  cases parts with
  | nil =>
    intro row member
    cases member
  | cons part rest =>
    rw [Part.listPredicates, List.forall_mem_append] at sound
    rw [Part.rows, List.forall_mem_cons]
    exact ⟨Part.spelled part index sound.1, Part.rows_spelled rest _ sound.2⟩

end

/-! The text of a clause is not that of an absent one. -/

theorem Part.bracket_start {part : Part} {index : Nat} {rest : List Char}
    (start : spell (part.pieces index) = '(' :: rest) :
    ∃ c tail, rest = c :: tail ∧ c ∈ [')', 'i', '(', 'N'] := by
  cases part with
  | predicate joint p =>
    obtain ⟨tail, opens⟩ := p.spell_start index
    have text := Joint.spell_pieces joint (p.pieces index) []
    rw [List.append_nil, ← Part.pieces, start, opens] at text
    cases negated : joint.negated <;> rw [negated] at text <;> cases text
  | group joint parts =>
    have text := Joint.spell_pieces joint
      (.symbol .openParen :: levelPieces (Part.rows index parts) ++ [.symbol .closeParen]) []
    rw [List.append_nil, ← Part.pieces, start, spell_bracketed] at text
    cases negated : joint.negated with
    | true =>
      rw [negated] at text
      cases text
    | false =>
      rw [negated] at text
      rw [(List.cons.inj text).2]
      cases parts with
      | nil => exact ⟨')', _, rfl, by decide⟩
      | cons first others =>
        obtain ⟨c, tail, opens, known⟩ := first.spell_start index
        rw [Part.rows, levelPieces, spell_append, opens]
        exact ⟨c, _, rfl, List.mem_cons_of_mem _ known⟩

theorem Part.level_ne_none (parts : List Part) (index : Nat) :
    spell (levelPieces (Part.rows index parts)) ≠ "(none)".toList := by
  intro same
  cases parts with
  | nil => cases same
  | cons part rest =>
    obtain ⟨c, tail, start, -⟩ := part.spell_start index
    rw [Part.rows, levelPieces, spell_append, start] at same
    obtain ⟨rfl, behind⟩ := List.cons.inj same
    obtain ⟨d, more, rfl, known⟩ := Part.bracket_start start
    obtain ⟨rfl, -⟩ := List.cons.inj behind
    exact absurd known (by decide)

/-! Each line is known from its text. -/

theorem quoted_reads (text other : String) (rest after : List Char)
    (same : quotedChars text.toList ++ rest = quotedChars other.toList ++ after) : text = other ∧ rest = after :=
  (quotedChars_inj same).imp_left String.toList_inj.1

theorem SortKey.sql_reads {key other : SortKey} {rest after : List Char} (fit : isIdentifier key.field = true)
    (fits : isIdentifier other.field = true) (same : key.sql.toList ++ rest = other.sql.toList ++ after) :
    key = other ∧ rest = after := by
  obtain ⟨field, direction⟩ := key
  obtain ⟨name, way⟩ := other
  simp only [SortKey.sql, String.toList_append, List.append_assoc] at same
  obtain ⟨rfl, behind⟩ := column_inj fit fits same
  cases direction <;> cases way <;> simp_all [Direction.text]

namespace ParamValue

theorem toList_explain_list (values : List String) : (list values).explain.toList =
    '(' :: (", ".toList.intercalate (values.map fun text => quotedChars text.toList) ++ [')']) := by
  have texts : (values.map quoted).map String.toList = values.map fun text => quotedChars text.toList := by
    rw [List.map_map]
    exact List.map_congr_left fun text _ => String.toList_ofList
  rw [explain, String.toList_append, String.toList_append, String.toList_intercalate, texts]
  rfl

theorem toList_explain_scalar (value : String) : (scalar value).explain.toList = quotedChars value.toList :=
  String.toList_ofList

theorem isPrintable_explain (value : ParamValue) : ∀ c ∈ value.explain.toList, isPrintable c = true := by
  cases value with
  | scalar value =>
    rw [toList_explain_scalar]
    exact fun c => isPrintable_quotedChars
  | list values =>
    rw [toList_explain_list, List.forall_mem_cons, List.forall_mem_append]
    refine ⟨by decide, forall_mem_intercalate ?_ ?_, ?_⟩
    · exact List.all_eq_true.1 (by decide)
    · exact List.forall_mem_map.2 fun text _ c => isPrintable_quotedChars
    · exact List.all_eq_true.1 (by decide)

theorem explain_inj {value other : ParamValue} (same : value.explain = other.explain) : value = other := by
  replace same := congrArg String.toList same
  cases value with
  | scalar text =>
    cases other with
    | scalar text' =>
      rw [toList_explain_scalar, toList_explain_scalar] at same
      rw [(quoted_reads text text' [] [] (congrArg (· ++ []) same)).1]
    | list others =>
      rw [toList_explain_scalar, toList_explain_list] at same
      exact absurd (List.cons.inj same).1 (by decide)
  | list values =>
    cases other with
    | scalar text =>
      rw [toList_explain_scalar, toList_explain_list] at same
      exact absurd (List.cons.inj same).1 (by decide)
    | list others =>
      rw [toList_explain_list, toList_explain_list] at same
      have inside := List.append_cancel_right (List.cons.inj same).2
      have filled : ∀ text : String, quotedChars text.toList ≠ [] := fun text => List.cons_ne_nil _ _
      have reads : ∀ (a b : String) (rest after : List Char), True → True →
          quotedChars a.toList ++ rest = quotedChars b.toList ++ after → a = b ∧ rest = after :=
        fun a b rest after _ _ => quoted_reads a b rest after
      rw [intercalate_inj reads filled (by decide) (fun _ _ => trivial) (fun _ _ => trivial) inside]

end ParamValue

def Param.line (param : Param) : String :=
  "  :" ++ param.name ++ " = " ++ param.value.explain

theorem Param.toList_line (param : Param) :
    param.line.toList = ' ' :: ' ' :: ':' :: (param.name.toList ++ " = ".toList ++ param.value.explain.toList) := by
  simp [line]

theorem Param.line_inj {param other : Param} (fit : IsName param.name) (fits : IsName other.name)
    (same : param.line = other.line) : param = other := by
  have blank : ∀ text : List Char, ∀ c ∈ (" = ".toList ++ text).head?, isNameChar c = false := by
    intro text c head
    cases head
    decide
  have text := congrArg String.toList same
  rw [Param.toList_line, Param.toList_line, List.append_assoc, List.append_assoc] at text
  replace text := (List.cons.inj (List.cons.inj (List.cons.inj text).2).2).2
  obtain ⟨name, value⟩ := run_inj fit.all fits.all (blank _) (blank _) text
  obtain ⟨_, _⟩ := param
  obtain ⟨_, _⟩ := other
  cases String.toList_inj.1 name
  cases ParamValue.explain_inj (String.toList_inj.1 (List.append_cancel_left value))
  rfl

namespace Filter

def clauseLine (filter : Filter) : String :=
  "where:    " ++ filter.clause.getD "(none)"

def orderingLines (filter : Filter) : List String :=
  if filter.ordering.isEmpty then [] else ["order by: " ++ ", ".intercalate filter.ordering]

theorem explainLines_eq (filter : Filter) :
    filter.explainLines = filter.clauseLine :: (filter.orderingLines ++ filter.params.map Param.line) := by
  obtain ⟨clause, params, ordering⟩ := filter
  cases ordering <;> rfl

/-- The lines of a filter can be read back. -/
structure Legible (filter : Filter) : Prop where
  clause : ∀ clause ∈ filter.clause, clause ≠ "(none)" ∧ ∀ c ∈ clause.toList, isClauseChar c = true
  ordering : ∃ keys : List SortKey, (∀ key ∈ keys, isIdentifier key.field = true) ∧
    filter.ordering = keys.map SortKey.sql
  named : ∀ param ∈ filter.params, IsName param.name

variable {filter other : Filter}

theorem Legible.clauseLine_inj (legible : filter.Legible) (legibleO : other.Legible)
    (same : filter.clauseLine = other.clauseLine) : filter.clause = other.clause := by
  have text := (String.append_right_inj "where:    ").1 same
  have marked := legible.clause
  have marks := legibleO.clause
  cases first : filter.clause with
  | none =>
    cases second : other.clause with
    | none => rfl
    | some clause =>
      rw [first, second] at text
      exact absurd text.symm (marks clause second).1
  | some clause =>
    cases second : other.clause with
    | none =>
      rw [first, second] at text
      exact absurd text (marked clause first).1
    | some clause' =>
      rw [first, second] at text
      exact congrArg some text

theorem toList_orderingLine (fragments : List String) : ("order by: " ++ ", ".intercalate fragments).toList =
    "order by: ".toList ++ ", ".toList.intercalate (fragments.map String.toList) := by
  rw [String.toList_append, String.toList_intercalate]

theorem Legible.newline_not_mem (legible : filter.Legible) : ∀ line ∈ filter.explainLines, '\n' ∉ line.toList := by
  have outside : ∀ {p : Char → Bool} {text : List Char}, p '\n' = false → (∀ c ∈ text, p c = true) → '\n' ∉ text :=
    fun newline all member => by rw [all _ member] at newline; cases newline
  rw [explainLines_eq, List.forall_mem_cons, List.forall_mem_append, List.forall_mem_map]
  refine ⟨?_, ?_, ?_⟩
  · rw [clauseLine, String.toList_append, List.mem_append, not_or]
    refine ⟨by decide, ?_⟩
    cases first : filter.clause with
    | none => decide
    | some clause => exact outside (by decide) (legible.clause clause first).2
  · obtain ⟨keys, named, written⟩ := legible.ordering
    intro line member
    unfold orderingLines at member
    split at member
    · cases member
    · rw [List.mem_singleton.1 member, toList_orderingLine, List.mem_append, not_or, written]
      refine ⟨by decide, ?_⟩
      have chars := @forall_mem_intercalate _ (· ≠ '\n') ", ".toList ((keys.map SortKey.sql).map String.toList)
      have mark : '\n' ∉ ", ".toList := by decide
      refine fun inside => chars (fun c member same => mark (same ▸ member)) ?_ _ inside rfl
      simp only [List.forall_mem_map]
      intro key given c inside newline
      exact outside (by decide) (SortKey.isClauseChar_sql (named key given)) (newline ▸ inside)
  · intro param member
    rw [Param.toList_line]
    simp only [List.mem_cons, List.mem_append, not_or]
    refine ⟨by decide, by decide, by decide, ⟨?_, by decide⟩, ?_⟩
    · exact (legible.named param member).not_mem (by decide)
    · exact outside (by decide) param.value.isPrintable_explain

theorem Legible.lines (legible : filter.Legible) :
    filter.explain.toList.splitOn '\n' = filter.explainLines.map String.toList := by
  rw [explain, String.toList_intercalate]
  apply List.splitOn_intercalate
  · exact List.forall_mem_map.2 legible.newline_not_mem
  · rw [explainLines_eq]
    exact List.cons_ne_nil _ _

theorem orderingLines_ne_params (filter : Filter) (lines : List String) (params : List Param) :
    ("order by: " ++ ", ".intercalate filter.ordering) :: lines ≠ params.map Param.line := by
  intro same
  cases params with
  | nil => cases same
  | cons param rest =>
    have start := congrArg String.toList (List.cons.inj same).1
    rw [toList_orderingLine, Param.toList_line] at start
    exact absurd (List.cons.inj start).1 (by decide)

theorem Legible.ordering_inj (legible : filter.Legible) (legibleO : other.Legible)
    (same : ", ".intercalate filter.ordering = ", ".intercalate other.ordering) :
    filter.ordering = other.ordering := by
  obtain ⟨keys, fit, written⟩ := legible.ordering
  obtain ⟨others, fits, writes⟩ := legibleO.ordering
  have text := congrArg String.toList same
  rw [String.toList_intercalate, String.toList_intercalate, written, writes, List.map_map, List.map_map] at text
  have filled : ∀ key : SortKey, (String.toList ∘ SortKey.sql) key ≠ [] := by
    intro key empty
    rw [Function.comp_apply, SortKey.sql, column, tableAlias, String.append_assoc, String.append_assoc,
      String.toList_append] at empty
    cases empty
  have keys : keys = others := by
    refine intercalate_inj ?_ filled (by decide) fit fits text
    exact fun a b rest after fit fits => SortKey.sql_reads fit fits
  rw [written, writes, keys]

theorem Legible.params_inj {params others : List Param} (named : ∀ param ∈ params, IsName param.name)
    (names : ∀ param ∈ others, IsName param.name) (same : params.map Param.line = others.map Param.line) :
    params = others := by
  induction params generalizing others with
  | nil => exact (List.map_eq_nil_iff.1 same.symm).symm
  | cons param rest ih =>
    cases others with
    | nil => cases same
    | cons other after =>
      rw [List.forall_mem_cons] at named names
      obtain ⟨first, later⟩ := List.cons.inj same
      rw [Param.line_inj named.1 names.1 first, ih named.2 names.2 later]

/-- A filter whose lines can be read back is known from its text. -/
theorem Legible.explain_inj (legible : filter.Legible) (legibleO : other.Legible)
    (same : filter.explain = other.explain) : filter = other := by
  have lines : filter.explainLines = other.explainLines := by
    apply List.map_injective_iff.2 fun _ _ => String.toList_inj.1
    rw [← legible.lines, ← legibleO.lines, same]
  rw [explainLines_eq, explainLines_eq] at lines
  obtain ⟨first, behind⟩ := List.cons.inj lines
  have clause := legible.clauseLine_inj legibleO first
  have rest : filter.ordering = other.ordering ∧ filter.params.map Param.line = other.params.map Param.line := by
    unfold orderingLines at behind
    cases one : filter.ordering.isEmpty <;> cases two : other.ordering.isEmpty <;>
      simp only [one, two, if_true, Bool.false_eq_true, if_false, List.nil_append, List.singleton_append] at behind
    · obtain ⟨line, params⟩ := List.cons.inj behind
      exact ⟨legible.ordering_inj legibleO ((String.append_right_inj _).1 line), params⟩
    · exact absurd behind (orderingLines_ne_params filter _ _)
    · exact absurd behind.symm (orderingLines_ne_params other _ _)
    · rw [List.isEmpty_iff.1 one, List.isEmpty_iff.1 two]
      exact ⟨rfl, behind⟩
  have params := params_inj legible.named legibleO.named rest.2
  obtain ⟨_, _, _⟩ := filter
  obtain ⟨_, _, _⟩ := other
  cases clause
  cases rest.1
  cases params
  rfl

end Filter

theorem NormalQuery.legible {query : NormalQuery} (sound : query.Sound) : query.filter.Legible := by
  constructor
  · intro clause member
    unfold filter at member
    split at member
    · cases member
    · cases member
      have spelled := spelled_level (Part.rows_spelled query.parts 0 sound.predicates)
      rw [String.toList_ofList]
      refine ⟨fun same => Part.level_ne_none query.parts 0 ?_, spelled_iff.1 spelled⟩
      rw [← same, String.toList_ofList, clausePieces]
  · exact ⟨query.ordering, sound.ordering, rfl⟩
  · exact query.supplied.named

/-- The text that shows the filter of a valid query tells the filter. Whatever the values are, its lines are the
conditions, the ordering if there is any, and the parameters one by one. -/
theorem Query.explain_eq_iff {a b : Query} {filter other : Filter} (validA : a.validate = .ok ())
    (validB : b.validate = .ok ()) (compiledA : a.compile = .ok filter) (compiledB : b.compile = .ok other) :
    (filter.explain = other.explain ↔ filter = other) ∧
      filter.explain.toList.splitOn '\n' =
        ("where:    " ++ filter.clause.getD "(none)").toList ::
          ((if filter.ordering.isEmpty then [] else [("order by: " ++ ", ".intercalate filter.ordering).toList]) ++
            filter.params.map fun param => ("  :" ++ param.name ++ " = " ++ param.value.explain).toList) := by
  obtain ⟨compilesA, rfl⟩ := Query.compile_eq_ok.1 compiledA
  obtain ⟨compilesB, rfl⟩ := Query.compile_eq_ok.1 compiledB
  have legibleA := NormalQuery.legible (Query.sound_normal validA compilesA)
  have legibleB := NormalQuery.legible (Query.sound_normal validB compilesB)
  refine ⟨⟨legibleA.explain_inj legibleB, congrArg Filter.explain⟩, ?_⟩
  rw [legibleA.lines, Filter.explainLines_eq, List.map_cons, List.map_append, List.map_map, Filter.orderingLines]
  split <;> rfl

/-- Values that look like the line of another parameter and like two texts of a list. -/
def mimicQuery : Query where
  conditions := [.predicate ⟨"title", .eq, ["x\"\n  :value1 = \"y"]⟩, .predicate ⟨"status", .isIn, ["a\", \"b"]⟩]

def mimickedQuery : Query where
  conditions := [.predicate ⟨"title", .eq, ["x\"\n  :value1 = \"y"]⟩, .predicate ⟨"status", .isIn, ["a", "b"]⟩]

theorem mimicQuery_explain :
    mimicQuery.normal.filter.explain ≠ mimickedQuery.normal.filter.explain ∧
      mimicQuery.normal.filter.explain.toList.splitOn '\n' =
        ["where:    issue.title = :value0 AND issue.status IN (:...values1)".toList,
          "  :value0 = \"x\\\"\\n  :value1 = \\\"y\"".toList, "  :values1 = (\"a\\\", \\\"b\")".toList] := by
  have mimic : mimicQuery.compile = .ok mimicQuery.normal.filter := by decide +kernel
  have mimicked : mimickedQuery.compile = .ok mimickedQuery.normal.filter := by decide +kernel
  have told := Query.explain_eq_iff (by decide +kernel) (by decide +kernel) mimic mimicked
  constructor
  · rw [Ne, told.1]
    decide +kernel
  · rw [told.2]
    decide +kernel

end IssueQuery
