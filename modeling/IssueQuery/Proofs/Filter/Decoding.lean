import IssueQuery.Proofs.Filter.Selection

/-!
The filter of a query tells its normal form. Two clauses are read side by side: what stands in front of them is of
one kind, so they go on in the same way, and the parameters tell the values.
-/

namespace IssueQuery
open Sql

/-! Predicates. -/

theorem column_inj {field other : String} {rest after : List Char} (fit : isIdentifier field = true)
    (fits : isIdentifier other = true)
    (same : (column field).toList ++ ' ' :: rest = (column other).toList ++ ' ' :: after) :
    field = other ∧ rest = after := by
  have blank : ∀ tail : List Char, ∀ c ∈ (' ' :: tail).head?, isNameChar c = false := by
    intro tail c head
    cases head
    decide
  simp only [column, String.toList_append, List.append_assoc] at same
  have names := List.append_cancel_left (List.append_cancel_left same)
  obtain ⟨text, behind⟩ := Text.run_inj (isName_column fit).all (isName_column fits).all (blank rest) (blank after) names
  exact ⟨String.toList_inj.1 text, (List.cons.inj behind).2⟩

theorem Operator.sql_prefix : ∀ a ∈ all, ∀ b ∈ all,
    (a.sql.toList ++ [' ']).isPrefixOf (b.sql.toList ++ [' ']) = true → a = b ∨ (a = is ∧ b = isNot) := by
  decide +kernel

/-- Of two operators that start the same text one is the other, but for `IS` and `IS NOT`. -/
theorem Operator.sql_inj {a b : Operator} {rest after : List Char}
    (same : a.sql.toList ++ ' ' :: rest = b.sql.toList ++ ' ' :: after) :
    a = b ∨ (a = is ∧ b = isNot ∧ rest = "NOT ".toList ++ after) ∨
      (a = isNot ∧ b = is ∧ after = "NOT ".toList ++ rest) := by
  have left : a.sql.toList ++ [' '] <+: a.sql.toList ++ ' ' :: rest := ⟨rest, by simp⟩
  have right : b.sql.toList ++ [' '] <+: a.sql.toList ++ ' ' :: rest := ⟨after, by simp [same]⟩
  rcases List.prefix_or_prefix_of_prefix left right with first | second
  · rcases sql_prefix a (mem_all a) b (mem_all b) (List.isPrefixOf_iff_prefix.2 first) with rfl | ⟨rfl, rfl⟩
    · exact .inl rfl
    · exact .inr (.inl ⟨rfl, rfl, by simpa [sql, Operator.text] using same⟩)
  · rcases sql_prefix b (mem_all b) a (mem_all a) (List.isPrefixOf_iff_prefix.2 second) with rfl | ⟨rfl, rfl⟩
    · exact .inl rfl
    · exact .inr (.inr ⟨rfl, rfl, by simpa [sql, Operator.text] using same.symm⟩)

/-- No keyword is the start of another, and none starts like `NOT`. -/
theorem keyword_inj {keyword other : String} {rest after : List Char} (known : keyword ∈ ["NULL", "TRUE", "FALSE"])
    (knows : other ∈ ["NULL", "TRUE", "FALSE"]) (same : keyword.toList ++ rest = other.toList ++ after) :
    keyword = other ∧ rest = after := by
  simp only [List.mem_cons, List.not_mem_nil, or_false] at known knows
  rcases known with rfl | rfl | rfl <;> rcases knows with rfl | rfl | rfl <;> simp_all

theorem keyword_ne_not {keyword : String} {rest after : List Char} (known : keyword ∈ ["NULL", "TRUE", "FALSE"]) :
    keyword.toList ++ rest ≠ "NOT ".toList ++ after := by
  simp only [List.mem_cons, List.not_mem_nil, or_false] at known
  rcases known with rfl | rfl | rfl <;> simp

namespace Predicate

theorem spell_pieces (predicate : Predicate) (index : Nat) (rest : List Char) :
    spell (predicate.pieces index) ++ rest =
      (column predicate.field).toList ++ ' ' :: (predicate.operator.sql.toList ++
        ' ' :: ((predicate.operandPiece index).chars ++ rest)) := by
  rw [pieces, spell_append, spell_append, spell_column, spell_cons, spell_operator]
  simp [spell]

/-- A predicate is known from its text and its parameters, whatever stands behind them. -/
theorem written_inj {p q : Predicate} (soundP : p.Sound) (soundQ : q.Sound) {index : Nat}
    {rest after : List Char} {more others : List Param}
    (text : spell (p.pieces index) ++ rest = spell (q.pieces index) ++ after)
    (params : p.params index ++ more = q.params index ++ others) : p = q ∧ rest = after ∧ more = others := by
  rw [spell_pieces, spell_pieces] at text
  obtain ⟨field, tail⟩ := column_inj soundP.field soundQ.field text
  have keywordP := soundP.keyword
  have keywordQ := soundQ.keyword
  have countP := soundP.count
  have countQ := soundQ.count
  obtain ⟨fieldP, operator, valuesP⟩ := p
  obtain ⟨fieldQ, other, valuesQ⟩ := q
  cases field
  rcases Operator.sql_inj tail with rfl | ⟨rfl, rfl, operand⟩ | ⟨rfl, rfl, operand⟩
  · have operand := (List.cons.inj (List.append_cancel_left tail)).2
    cases operator with
    | isIn =>
      obtain ⟨first, others⟩ := List.cons.inj params
      cases first
      exact ⟨rfl, List.append_cancel_left operand, others⟩
    | is | isNot =>
      obtain ⟨value, rfl⟩ := Operator.single_of_takes (by simp) countP
      obtain ⟨value, rfl⟩ := Operator.single_of_takes (by simp) countQ
      obtain ⟨same, behind⟩ := keyword_inj (keywordP rfl) (keywordQ rfl) operand
      cases same
      exact ⟨rfl, behind, params⟩
    | _ =>
      obtain ⟨value, rfl⟩ := Operator.single_of_takes (by simp) countP
      obtain ⟨value, rfl⟩ := Operator.single_of_takes (by simp) countQ
      obtain ⟨first, others⟩ := List.cons.inj params
      cases first
      exact ⟨rfl, List.append_cancel_left operand, others⟩
  · exact absurd operand (keyword_ne_not (keywordP rfl))
  · exact absurd operand (keyword_ne_not (keywordQ rfl))

theorem spell_start (predicate : Predicate) (index : Nat) : ∃ rest, spell (predicate.pieces index) = 'i' :: rest := by
  have start := predicate.spell_pieces index []
  rw [List.append_nil, column, tableAlias, String.append_assoc, String.toList_append] at start
  exact ⟨_, start⟩

end Predicate

/-! Parts. What is negated stands in brackets of its own. -/

def Joint.behind (joint : Joint) (rest : List Char) : List Char :=
  if joint.negated then ')' :: rest else rest

theorem Joint.behind_inj {joint : Joint} {rest after : List Char} (same : joint.behind rest = joint.behind after) :
    rest = after := by
  unfold behind at same
  split at same
  · exact (List.cons.inj same).2
  · exact same

theorem Joint.spell_pieces (joint : Joint) (inner : List Piece) (rest : List Char) :
    spell (joint.pieces inner) ++ rest =
      (if joint.negated then "NOT (".toList else []) ++ (spell inner ++ joint.behind rest) := by
  cases negated : joint.negated <;>
    simp [Joint.pieces, Joint.behind, negated, spell, Piece.word, Piece.symbol, Symbol.chars]

/-- What does not start like `NOT` shows whether it has been negated. -/
theorem Joint.written_inj {joint other : Joint} {inner outer : List Piece} {rest after : List Char}
    (opens : ∃ c tail, spell inner = c :: tail ∧ c ≠ 'N') (starts : ∃ c tail, spell outer = c :: tail ∧ c ≠ 'N')
    (connector : joint.connector = other.connector)
    (text : spell (joint.pieces inner) ++ rest = spell (other.pieces outer) ++ after) :
    joint = other ∧ spell inner ++ joint.behind rest = spell outer ++ joint.behind after := by
  obtain ⟨c, more, first, plain⟩ := opens
  obtain ⟨d, others, second, plains⟩ := starts
  rw [Joint.spell_pieces, Joint.spell_pieces, first, second] at text
  rw [first, second]
  obtain ⟨connector, negated⟩ := joint
  obtain ⟨joins, negates⟩ := other
  cases connector
  cases negated with
  | false =>
    cases negates with
    | false => exact ⟨rfl, text⟩
    | true => exact absurd (List.cons.inj text).1 plain
  | true =>
    cases negates with
    | false => exact absurd (List.cons.inj text).1.symm plains
    | true => exact ⟨rfl, List.append_cancel_left text⟩

mutual

/-- A part as it stands in a normal form that compiles. No connector is kept for the first part of a group. -/
def Part.Regular : Part → Prop
  | .predicate _ p => p.Sound
  | .group _ parts => Part.level parts = parts ∧ Part.AllRegular parts

def Part.AllRegular : List Part → Prop
  | [] => True
  | part :: rest => part.Regular ∧ AllRegular rest

end

def LevelEnds (rest : List Char) : Prop :=
  ∀ c ∈ rest.head?, c = ')'

theorem spell_bracketed (inner : List Piece) (rest : List Char) :
    spell (.symbol .openParen :: inner ++ [.symbol .closeParen]) ++ rest = '(' :: (spell inner ++ ')' :: rest) := by
  simp [spell, Piece.symbol, Symbol.chars]

theorem spell_joined (row : Connector × List Piece) (rows : List (Connector × List Piece)) (rest : List Char) :
    spell (joinedPieces (row :: rows)) ++ rest =
      ' ' :: (row.1.text.toList ++ ' ' :: (spell row.2 ++ (spell (joinedPieces rows) ++ rest))) := by
  simp [joinedPieces, spell, Piece.word]

theorem LevelEnds.not_joined {rest : List Char} (ends : LevelEnds rest) (row : Connector × List Piece)
    (rows : List (Connector × List Piece)) (after : List Char) : rest ≠ spell (joinedPieces (row :: rows)) ++ after := by
  rintro rfl
  rw [spell_joined] at ends
  exact absurd (ends ' ' rfl) (by decide)

theorem Connector.text_inj {connector other : Connector} {rest after : List Char}
    (same : connector.text.toList ++ ' ' :: rest = other.text.toList ++ ' ' :: after) :
    connector = other ∧ rest = after := by
  cases connector <;> cases other <;> simp_all [Connector.text]

theorem Part.connector_of_level {part : Part} {rest : List Part} (led : Part.level (part :: rest) = part :: rest) :
    part.connector = .and := by
  rw [← (List.cons.inj led).1]
  cases part <;> rfl

theorem Part.spell_start (part : Part) (index : Nat) :
    ∃ c rest, spell (part.pieces index) = c :: rest ∧ c ∈ ['i', '(', 'N'] := by
  cases part with
  | predicate joint p =>
    obtain ⟨rest, start⟩ := p.spell_start index
    cases negated : joint.negated with
    | false => exact ⟨'i', rest, by rw [Part.pieces, Joint.pieces, negated]; exact start, by decide⟩
    | true => exact ⟨'N', _, by rw [Part.pieces, Joint.pieces, negated]; rfl, by decide⟩
  | group joint parts =>
    cases negated : joint.negated with
    | false => exact ⟨'(', _, by rw [Part.pieces, Joint.pieces, negated]; rfl, by decide⟩
    | true => exact ⟨'N', _, by rw [Part.pieces, Joint.pieces, negated]; rfl, by decide⟩

theorem LevelEnds.not_level {rest : List Char} (ends : LevelEnds rest) (part : Part) (parts : List Part) (index : Nat)
    (after : List Char) : rest ≠ spell (levelPieces (Part.rows index (part :: parts))) ++ after := by
  rintro rfl
  obtain ⟨c, tail, start, opens⟩ := part.spell_start index
  rw [Part.rows, levelPieces, spell_append, start] at ends
  rw [ends c rfl] at opens
  exact absurd opens (by decide)

mutual

/-- A part is known from its text, its parameters and its connector, whatever stands behind them. -/
theorem Part.written_inj {a b : Part} {index : Nat} {rest after : List Char} {more others : List Param}
    (regular : a.Regular) (regulars : b.Regular) (connector : a.connector = b.connector)
    (text : spell (a.pieces index) ++ rest = spell (b.pieces index) ++ after)
    (params : numberedParams index a.predicates ++ more = numberedParams index b.predicates ++ others) :
    a = b ∧ rest = after ∧ more = others := by
  cases a with
  | predicate joint p =>
    obtain ⟨_, start⟩ := p.spell_start index
    cases b with
    | predicate other q =>
      obtain ⟨_, starts⟩ := q.spell_start index
      obtain ⟨rfl, inner⟩ := Joint.written_inj ⟨_, _, start, by decide⟩ ⟨_, _, starts, by decide⟩ connector text
      simp only [Part.predicates, numberedParams, List.zipIdx_singleton, List.flatMap_singleton] at params
      obtain ⟨rfl, behind, others⟩ := Predicate.written_inj regular regulars inner params
      exact ⟨rfl, Joint.behind_inj behind, others⟩
    | group other parts =>
      obtain ⟨rfl, inner⟩ := Joint.written_inj ⟨_, _, start, by decide⟩ ⟨_, _, rfl, by decide⟩ connector text
      rw [start, spell_bracketed] at inner
      cases inner
  | group joint parts =>
    cases b with
    | predicate other q =>
      obtain ⟨_, starts⟩ := q.spell_start index
      obtain ⟨rfl, inner⟩ := Joint.written_inj ⟨_, _, rfl, by decide⟩ ⟨_, _, starts, by decide⟩ connector text
      rw [starts, spell_bracketed] at inner
      cases inner
    | group other brackets =>
      obtain ⟨rfl, inner⟩ := Joint.written_inj ⟨_, _, rfl, by decide⟩ ⟨_, _, rfl, by decide⟩ connector text
      rw [spell_bracketed, spell_bracketed] at inner
      have ends : ∀ tail : List Char, LevelEnds (')' :: tail) := by
        intro tail c head
        cases head
        rfl
      obtain ⟨rfl, behind, others⟩ := Part.level_inj regular.1 regulars.1 regular.2 regulars.2 (ends _) (ends _)
        (List.cons.inj inner).2 params
      exact ⟨rfl, Joint.behind_inj (List.cons.inj behind).2, others⟩

theorem Part.joined_inj {as bs : List Part} {index : Nat} {rest after : List Char} {more others : List Param}
    (regular : Part.AllRegular as) (regulars : Part.AllRegular bs) (ends : LevelEnds rest) (stops : LevelEnds after)
    (text : spell (joinedPieces (Part.rows index as)) ++ rest = spell (joinedPieces (Part.rows index bs)) ++ after)
    (params : numberedParams index (Part.listPredicates as) ++ more =
      numberedParams index (Part.listPredicates bs) ++ others) :
    as = bs ∧ rest = after ∧ more = others := by
  cases as with
  | nil =>
    cases bs with
    | nil => exact ⟨rfl, text, params⟩
    | cons b bs => exact absurd text (ends.not_joined _ _ after)
  | cons a as =>
    cases bs with
    | nil => exact absurd text.symm (stops.not_joined _ _ rest)
    | cons b bs =>
      rw [Part.rows, Part.rows, spell_joined, spell_joined] at text
      rw [Part.listPredicates, Part.listPredicates, numberedParams_append, numberedParams_append, List.append_assoc,
        List.append_assoc] at params
      obtain ⟨connector, parts⟩ := Connector.text_inj (List.cons.inj text).2
      obtain ⟨rfl, text, params⟩ := Part.written_inj regular.1 regulars.1 connector parts params
      obtain ⟨rfl, text, params⟩ := Part.joined_inj regular.2 regulars.2 ends stops text params
      exact ⟨rfl, text, params⟩

theorem Part.level_inj {as bs : List Part} {index : Nat} {rest after : List Char} {more others : List Param}
    (levelA : Part.level as = as) (levelB : Part.level bs = bs) (regular : Part.AllRegular as)
    (regulars : Part.AllRegular bs) (ends : LevelEnds rest) (stops : LevelEnds after)
    (text : spell (levelPieces (Part.rows index as)) ++ rest = spell (levelPieces (Part.rows index bs)) ++ after)
    (params : numberedParams index (Part.listPredicates as) ++ more =
      numberedParams index (Part.listPredicates bs) ++ others) :
    as = bs ∧ rest = after ∧ more = others := by
  cases as with
  | nil =>
    cases bs with
    | nil => exact ⟨rfl, text, params⟩
    | cons b bs => exact absurd text (ends.not_level b bs index after)
  | cons a as =>
    cases bs with
    | nil => exact absurd text.symm (stops.not_level a as index rest)
    | cons b bs =>
      have connector : a.connector = b.connector :=
        (Part.connector_of_level levelA).trans (Part.connector_of_level levelB).symm
      rw [Part.rows, Part.rows, levelPieces, levelPieces, spell_append, spell_append, List.append_assoc,
        List.append_assoc] at text
      rw [Part.listPredicates, Part.listPredicates, numberedParams_append, numberedParams_append, List.append_assoc,
        List.append_assoc] at params
      obtain ⟨rfl, text, params⟩ := Part.written_inj regular.1 regulars.1 connector text params
      obtain ⟨rfl, text, params⟩ := Part.joined_inj regular.2 regulars.2 ends stops text params
      exact ⟨rfl, text, params⟩

end

/-! Normal forms. -/

theorem Part.allRegular_append {a b : List Part} :
    Part.AllRegular (a ++ b) ↔ Part.AllRegular a ∧ Part.AllRegular b := by
  induction a with
  | nil => simp [Part.AllRegular]
  | cons part a ih => rw [List.cons_append, Part.AllRegular, Part.AllRegular, ih, and_assoc]

theorem Part.allRegular_level {parts : List Part} (regular : Part.AllRegular parts) :
    Part.AllRegular (Part.level parts) := by
  cases parts with
  | nil => exact regular
  | cons part rest => cases part <;> exact regular

theorem Part.level_level (parts : List Part) : Part.level (Part.level parts) = Part.level parts := by
  cases parts with
  | nil => rfl
  | cons part rest => cases part <;> rfl

mutual

theorem Element.part?_regular (element : Element) (ambient : Marker)
    (sound : ∀ p ∈ element.predicates, p.normal.Sound) : Part.AllRegular (element.part? ambient).toList := by
  cases element with
  | marker m => trivial
  | predicate p => exact ⟨sound p (List.mem_singleton.2 rfl), trivial⟩
  | group elements =>
    have inner := Element.parts_regular elements .and sound
    rw [Element.part?]
    split
    · trivial
    · exact ⟨⟨Part.level_level _, Part.allRegular_level inner⟩, trivial⟩

theorem Element.parts_regular (elements : List Element) (ambient : Marker)
    (sound : ∀ p ∈ Element.levelPredicates elements, p.normal.Sound) :
    Part.AllRegular (Element.parts ambient elements) := by
  cases elements with
  | nil => trivial
  | cons element rest =>
    rw [Element.levelPredicates] at sound
    rw [Element.parts]
    exact Part.allRegular_append.2
      ⟨element.part?_regular ambient fun p member => sound p (List.mem_append_left _ member),
        Element.parts_regular rest _ fun p member => sound p (List.mem_append_right _ member)⟩

end

theorem Direction.text_inj {direction other : Direction} (same : direction.text = other.text) : direction = other := by
  cases direction <;> cases other <;> simp_all [Direction.text]

theorem SortKey.sql_inj {key other : SortKey} (fit : isIdentifier key.field = true)
    (fits : isIdentifier other.field = true) (same : key.sql = other.sql) : key = other := by
  obtain ⟨field, direction⟩ := key
  obtain ⟨name, way⟩ := other
  have text := congrArg String.toList same
  simp only [SortKey.sql, String.toList_append, List.append_assoc] at text
  obtain ⟨rfl, behind⟩ := column_inj fit fits text
  rw [Direction.text_inj (String.toList_inj.1 behind)]

theorem ordering_inj {keys others : List SortKey} (fit : ∀ key ∈ keys, isIdentifier key.field = true)
    (fits : ∀ key ∈ others, isIdentifier key.field = true) (same : keys.map SortKey.sql = others.map SortKey.sql) :
    keys = others := by
  induction keys generalizing others with
  | nil => exact (List.map_eq_nil_iff.1 same.symm).symm
  | cons key rest ih =>
    cases others with
    | nil => cases same
    | cons other after =>
      rw [List.forall_mem_cons] at fit fits
      obtain ⟨first, later⟩ := List.cons.inj same
      rw [SortKey.sql_inj fit.1 fits.1 first, ih fit.2 fits.2 later]

/-- A normal form as it is kept for a query that is valid and compiles. -/
structure NormalQuery.Regular (query : NormalQuery) : Prop where
  level : Part.level query.parts = query.parts
  parts : Part.AllRegular query.parts
  ordering : ∀ key ∈ query.ordering, isIdentifier key.field = true

theorem Query.regular_normal {query : Query} (valid : query.validate = .ok ())
    (compiles : ∀ p ∈ query.predicates, p.Compiles) : query.normal.Regular := by
  obtain ⟨predicates, keys⟩ := Query.validate_ok.1 valid
  have sound : ∀ p ∈ query.predicates, p.normal.Sound :=
    fun p member => Predicate.sound_normal (predicates p member) (compiles p member)
  refine ⟨Part.level_level _, Part.allRegular_level (Element.parts_regular query.conditions .and sound), ?_⟩
  exact fun key member => SortKey.validate_ok.1 (keys key member)

namespace NormalQuery

theorem filter_text (query : NormalQuery) : (query.filter.clause.getD "").toList = spell query.clausePieces := by
  unfold filter clausePieces
  cases query.parts with
  | nil => rfl
  | cons part rest => exact String.toList_ofList

/-- The filter of a normal form tells the normal form. -/
theorem filter_inj {a b : NormalQuery} (regular : a.Regular) (regulars : b.Regular) (same : a.filter = b.filter) :
    a = b := by
  have text : spell a.clausePieces = spell b.clausePieces := by
    rw [← filter_text, ← filter_text, same]
  have params : numberedParams 0 a.predicates = numberedParams 0 b.predicates := congrArg Filter.params same
  have ends : LevelEnds [] := by
    intro c head
    cases head
  have clause : spell (levelPieces (Part.rows 0 a.parts)) ++ [] = spell (levelPieces (Part.rows 0 b.parts)) ++ [] :=
    congrArg (· ++ []) text
  obtain ⟨parts, -⟩ := Part.level_inj regular.level regulars.level regular.parts regulars.parts ends ends clause
    (congrArg (· ++ []) params)
  have ordering : a.ordering = b.ordering :=
    ordering_inj regular.ordering regulars.ordering (congrArg Filter.ordering same)
  cases a
  cases b
  cases parts
  cases ordering
  rfl

end NormalQuery

/-- Two valid queries compile to the same filter if and only if they have the same normal form. -/
theorem Query.compile_eq_iff {a b : Query} {filter other : Filter} (validA : a.validate = .ok ())
    (validB : b.validate = .ok ()) (compiledA : a.compile = .ok filter) (compiledB : b.compile = .ok other) :
    a.compile = b.compile ↔ a.normal = b.normal := by
  obtain ⟨compilesA, rfl⟩ := Query.compile_eq_ok.1 compiledA
  obtain ⟨compilesB, rfl⟩ := Query.compile_eq_ok.1 compiledB
  rw [compiledA, compiledB, Except.ok.injEq]
  constructor
  · exact NormalQuery.filter_inj (Query.regular_normal validA compilesA) (Query.regular_normal validB compilesB)
  · exact congrArg NormalQuery.filter

def loudQuery : Query where
  conditions := [.marker .or, .predicate ⟨"resolved", .is, ["null"]⟩, .marker .and, .group [.marker .not, .group []],
    .marker .not, .group [.marker .or, .predicate ⟨"AND", .isIn, ["a", "b"]⟩]]
  ordering := [⟨"id", .desc⟩]

def quietQuery : Query where
  conditions := [.predicate ⟨"resolved", .is, ["NULL"]⟩, .marker .not, .group [.predicate ⟨"AND", .isIn, ["a", "b"]⟩]]
  ordering := [⟨"id", .desc⟩]

def flatQuery : Query where
  conditions := [.predicate ⟨"resolved", .is, ["NULL"]⟩, .marker .not, .predicate ⟨"AND", .isIn, ["a", "b"]⟩]
  ordering := [⟨"id", .desc⟩]

theorem loudQuery_compile :
    loudQuery.compile = quietQuery.compile ∧ quietQuery.compile ≠ flatQuery.compile := by
  have loud : loudQuery.compile = .ok loudQuery.normal.filter := by decide +kernel
  have quiet : quietQuery.compile = .ok quietQuery.normal.filter := by decide +kernel
  have flat : flatQuery.compile = .ok flatQuery.normal.filter := by decide +kernel
  constructor
  · exact (Query.compile_eq_iff (by decide +kernel) (by decide +kernel) loud quiet).2 (by rfl)
  · intro same
    have normal := (Query.compile_eq_iff (by decide +kernel) (by decide +kernel) quiet flat).1 same
    cases normal

end IssueQuery
