import IssueQuery.Proofs.Filter.Reading

/-!
Reading a clause back and what it is true of. A part is read as an operand with the part's truth; the connectors
of a level are read with AND before OR, which gives the truth of its runs.
-/

namespace IssueQuery
open Sql

/-! The truth of a level, one connector after the other. -/

theorem levelTruth_singleton (connector : Connector) (a : Truth) : levelTruth [(connector, a)] = a := by
  cases a <;> rfl

/-- The first run of a level starts with its first part, whatever the truth of that part. -/
theorem runs_cons (rest : List (Connector × Truth)) :
    ∃ run others, ∀ connector a, runs ((connector, a) :: rest) = (a :: run) :: others := by
  cases rest with
  | nil => exact ⟨[], [], fun _ _ => rfl⟩
  | cons next rest =>
    obtain ⟨joint, c⟩ := next
    cases joint with
    | or => exact ⟨[], runs ((.or, c) :: rest), fun _ _ => rfl⟩
    | and =>
      cases shape : runs ((.and, c) :: rest) with
      | nil =>
        refine ⟨[], [], ?_⟩
        intro connector a
        unfold runs
        rw [shape]
      | cons run others =>
        refine ⟨run, others, ?_⟩
        intro connector a
        unfold runs
        rw [shape]

theorem levelTruth_and (connector : Connector) (a b : Truth) (rest : List (Connector × Truth)) :
    levelTruth ((connector, a) :: (.and, b) :: rest) = levelTruth ((connector, a.and b) :: rest) := by
  obtain ⟨run, others, first⟩ := runs_cons rest
  have joined : runs ((connector, a) :: (.and, b) :: rest) = (a :: b :: run) :: others := by
    unfold runs
    rw [first]
  have same : Truth.all (a :: b :: run) = Truth.all (a.and b :: run) := (Truth.and_assoc a b (Truth.all run)).symm
  rw [levelTruth, levelTruth, joined, first, List.map_cons, List.map_cons, same]

theorem levelTruth_or (connector : Connector) (a b : Truth) (rest : List (Connector × Truth)) :
    levelTruth ((connector, a) :: (.or, b) :: rest) = a.or (levelTruth ((.or, b) :: rest)) := by
  have single : Truth.all [a] = a := by cases a <;> rfl
  change Truth.any (([a] :: runs ((.or, b) :: rest)).map Truth.all) = _
  rw [List.map_cons, single]
  rfl

def NormalQuery.truth (query : NormalQuery) (row : Row) : Truth :=
  match query.parts with
  | [] => .yes
  | parts => levelTruth (Part.truths row parts)

theorem Query.truth_normal (query : Query) (row : Row) : query.truth row = query.normal.truth row := rfl

mutual

def Part.Filled : Part → Prop
  | .predicate _ _ => True
  | .group _ parts => parts ≠ [] ∧ Part.AllFilled parts

def Part.AllFilled : List Part → Prop
  | [] => True
  | part :: rest => part.Filled ∧ AllFilled rest

end

namespace Sql

/-- Each parameter of predicates that are numbered from this index on has its value. -/
def Bound (bindings : Bindings) (index : Nat) (predicates : List Predicate) : Prop :=
  ∀ pair ∈ (numberedParams index predicates).flatMap Param.bindings, bindings.lookup pair.1 = some pair.2

/-- The expression names the columns of these predicates, and if all of them exist it has this truth. -/
structure StandsFor (bindings : Bindings) (expr : Expr) (predicates : List Predicate) (truth : Row → Truth) :
    Prop where
  columns : expr.columns.map ColumnName.name = predicates.map Predicate.field
  evaluate : (∀ p ∈ predicates, (Column.ofName? p.field).isSome) →
    ∀ row, expr.evaluate bindings row = truth row

/-- The tokens are read as an operand, whatever stands behind them. -/
def Pushes (tokens : List Token) (operand : Expr) : Prop :=
  ∀ outer pending after, readOperand outer pending (tokens ++ after) =
    readOperator outer (pending.push operand) after

theorem Bound.left {bindings : Bindings} {index : Nat} {a b : List Predicate}
    (bound : Bound bindings index (a ++ b)) : Bound bindings index a := by
  rw [Bound, numberedParams_append, List.flatMap_append] at bound
  exact fun pair member => bound pair (List.mem_append_left _ member)

theorem Bound.right {bindings : Bindings} {index : Nat} {a b : List Predicate}
    (bound : Bound bindings index (a ++ b)) : Bound bindings (index + a.length) b := by
  rw [Bound, numberedParams_append, List.flatMap_append] at bound
  exact fun pair member => bound pair (List.mem_append_right _ member)

theorem pushes_comparison {tokens : List Token} {offset : Nat} {operand : Expr}
    (start : ∃ more, tokens = ⟨.word, tableAlias, offset⟩ :: more)
    (read : ∀ after, readComparison (tokens ++ after) = .ok (operand, after)) : Pushes tokens operand := by
  obtain ⟨more, rfl⟩ := start
  have positive := isKeyword_word (show (tableAlias.toList.map Char.toUpper == "NOT".toList) = false by decide) offset
  intro outer pending after
  specialize read after
  rw [List.cons_append] at read ⊢
  rw [readOperand, positive]
  have other : (⟨.word, tableAlias, offset⟩ : Token).isSymbol .openParen = false := rfl
  rw [other]
  simp only [Bool.false_eq_true, if_false]
  split
  · next e error => rw [read] at error; cases error
  · next operand after found =>
    rw [read] at found
    cases found
    rfl

theorem negate_not (count : Nat) (operand : Expr) : negate count (.not operand) = .not (negate count operand) := by
  induction count with
  | zero => rfl
  | succ count ih => rw [negate, negate, ih]

theorem pushes_not {tokens : List Token} {operand : Expr} (pushes : Pushes tokens operand) (offset : Nat) :
    Pushes (⟨.word, "NOT", offset⟩ :: tokens) (.not operand) := by
  intro outer pending after
  have word := isKeyword_word (show ("NOT".toList.map Char.toUpper == "NOT".toList) = true by decide) offset
  have same : ({ pending with negations := pending.negations + 1 } : Pending).push operand =
      pending.push (.not operand) := by
    rw [Pending.push, Pending.push, negate_not]
    rfl
  rw [List.cons_append, readOperand, word, if_pos rfl, pushes, same]

theorem pushes_brackets {tokens : List Token} {complete : Complete} {first last : Nat}
    (read : ∀ outer after, readOperand outer {} (tokens ++ after) = readOperator outer complete after) :
    Pushes (⟨.symbol .openParen, String.ofList Symbol.openParen.chars, first⟩ :: tokens ++
      [⟨.symbol .closeParen, String.ofList Symbol.closeParen.chars, last⟩]) complete.expr := by
  intro outer pending after
  rw [List.append_assoc, List.cons_append, readOperand]
  have positive : (⟨.symbol .openParen, String.ofList Symbol.openParen.chars, first⟩ : Token).isKeyword "NOT" =
      false := rfl
  have opening : (⟨.symbol .openParen, String.ofList Symbol.openParen.chars, first⟩ : Token).isSymbol .openParen =
      true := rfl
  rw [positive, opening, if_neg (by decide), if_pos rfl, read, List.singleton_append, readOperator]
  rfl

theorem any_bound {bindings : Bindings} {names values : List String} (lengths : names.length = values.length)
    (bound : ∀ pair ∈ names.zip values, bindings.lookup pair.1 = some pair.2) (value : Cell) :
    (Test.isIn names).evaluate bindings value =
      .any (values.map fun operand => Comparison.eq.test value operand) := by
  rw [Test.evaluate]
  congr 1
  induction names generalizing values with
  | nil =>
    cases values with
    | nil => rfl
    | cons operand rest => cases lengths
  | cons name names ih =>
    cases values with
    | nil => cases lengths
    | cons operand rest =>
      have first : bindings.lookup name = some operand := bound (name, operand) List.mem_cons_self
      have others := ih (Nat.succ.inj lengths) fun pair member => bound pair (List.mem_cons_of_mem _ member)
      rw [List.map_cons, List.map_cons, others, first]

theorem test_evaluate {bindings : Bindings} {predicate : Predicate} {index : Nat} (sound : predicate.Sound)
    (bound : Bound bindings index [predicate]) (value : Cell) :
    (predicate.test index).evaluate bindings value = predicate.operator.truth value predicate.values := by
  have count := sound.count
  have keyword := sound.keyword
  simp only [Bound, numberedParams, List.zipIdx_singleton, List.flatMap_singleton] at bound
  obtain ⟨field, operator, values⟩ := predicate
  cases operator with
  | isIn =>
    refine any_bound (by simp [Param.listNames]) ?_ value
    intro pair member
    apply bound pair
    rw [Predicate.params, List.flatMap_singleton]
    exact member
  | is | isNot =>
    obtain ⟨operand, rfl⟩ := Operator.single_of_takes (by simp) count
    obtain ⟨literal, found⟩ := literalOf_known (keyword rfl)
    rw [List.headD_cons] at found
    simp only [Predicate.test, List.headD_cons, Operator.truth, found]
    rfl
  | _ =>
    obtain ⟨operand, rfl⟩ := Operator.single_of_takes (by simp) count
    have first := bound (":" ++ ("value" ++ toString index), operand) (List.mem_singleton.2 rfl)
    simp only [Predicate.test, Test.evaluate, first]
    rfl

theorem Predicate.standsFor {bindings : Bindings} {predicate : Predicate} {index offset : Nat}
    (sound : predicate.Sound) (bound : Bound bindings index [predicate]) :
    StandsFor bindings (.test ⟨predicate.field, offset⟩ (predicate.test index)) [predicate] predicate.truth := by
  refine ⟨rfl, ?_⟩
  intro known row
  obtain ⟨column, found⟩ := Option.isSome_iff_exists.1 (known predicate List.mem_cons_self)
  rw [Expr.evaluate, test_evaluate sound bound, ColumnName.value, Predicate.truth, found]
  rfl

theorem StandsFor.joint {bindings : Bindings} {expr : Expr} {predicates : List Predicate} {truth : Row → Truth}
    (stands : StandsFor bindings expr predicates truth) (joint : Joint) :
    StandsFor bindings (if joint.negated then .not expr else expr) predicates
      fun row => joint.apply (truth row) := by
  cases negated : joint.negated with
  | false => simpa [Joint.apply, negated] using stands
  | true =>
    refine ⟨stands.columns, ?_⟩
    intro known row
    rw [if_pos rfl, Expr.evaluate, stands.evaluate known, Joint.apply, negated]
    rfl

/-- What is negated stands in brackets behind `NOT`. -/
theorem cuts_joint {joint : Joint} {tokens : List Token} {inner : List Piece}
    (cut : Cuts tokens (joint.pieces inner)) :
    ∃ middle, Cuts middle inner ∧
      ∀ operand, Pushes middle operand → Pushes tokens (if joint.negated then .not operand else operand) := by
  cases negated : joint.negated with
  | false =>
    rw [Joint.pieces, negated, if_neg (by decide)] at cut
    exact ⟨tokens, cut, fun operand pushes => pushes⟩
  | true =>
    rw [Joint.pieces, negated, if_pos rfl, List.append_assoc, List.cons_append, cuts_word] at cut
    obtain ⟨first, _, rfl, cut⟩ := cut
    rw [List.cons_append, cuts_blank, List.singleton_append, cuts_symbol] at cut
    obtain ⟨second, _, rfl, cut⟩ := cut
    rw [cuts_append] at cut
    obtain ⟨middle, _, rfl, inside, cut⟩ := cut
    rw [cuts_symbol] at cut
    obtain ⟨third, _, rfl, cut⟩ := cut
    cases cuts_nil.1 cut
    refine ⟨middle, inside, ?_⟩
    intro operand pushes
    have alone : ∀ outer after, readOperand outer {} (middle ++ after) =
        readOperator outer (({} : Pending).push operand) after := fun outer => pushes outer {}
    exact pushes_not (pushes_brackets alone) first

def Complete.truth (complete : Complete) (bindings : Bindings) (row : Row) (rest : List (Connector × Truth)) :
    Truth :=
  match complete.disjuncts with
  | none => levelTruth ((.and, complete.conjuncts.evaluate bindings row) :: rest)
  | some left => (left.evaluate bindings row).or
      (levelTruth ((.and, complete.conjuncts.evaluate bindings row) :: rest))

def Complete.add (complete : Complete) (operand : Expr) : Connector → Complete
  | .and => ⟨complete.disjuncts, .and complete.conjuncts operand⟩
  | .or => ⟨some complete.expr, operand⟩

theorem Complete.truth_nil (complete : Complete) (bindings : Bindings) (row : Row) :
    complete.truth bindings row [] = complete.expr.evaluate bindings row := by
  obtain ⟨disjuncts, conjuncts⟩ := complete
  cases disjuncts <;> simp [Complete.truth, Complete.expr, levelTruth_singleton, Expr.evaluate]

/-- Reading one operand more keeps the truth of the whole level. -/
theorem Complete.truth_add (complete : Complete) (bindings : Bindings) (row : Row) (operand : Expr)
    (connector : Connector) (rest : List (Connector × Truth)) :
    (complete.add operand connector).truth bindings row rest =
      complete.truth bindings row ((connector, operand.evaluate bindings row) :: rest) := by
  obtain ⟨disjuncts, conjuncts⟩ := complete
  have first : ∀ a, levelTruth ((.and, a) :: rest) = levelTruth ((.or, a) :: rest) := fun _ => rfl
  cases connector with
  | and =>
    cases disjuncts <;> simp only [Complete.add, Complete.truth, levelTruth_and, Expr.evaluate]
  | or =>
    cases disjuncts <;>
      simp only [Complete.add, Complete.truth, Complete.expr, levelTruth_or, Expr.evaluate, Truth.or_assoc, first]

theorem Complete.columns_add (complete : Complete) (operand : Expr) (connector : Connector) :
    (complete.add operand connector).expr.columns = complete.expr.columns ++ operand.columns := by
  obtain ⟨disjuncts, conjuncts⟩ := complete
  cases connector <;> cases disjuncts <;>
    simp [Complete.add, Complete.expr, Expr.columns]

theorem readOperator_add {tokens : List Token} {operand : Expr} (pushes : Pushes tokens operand)
    (connector : Connector) (offset : Nat) (outer : List Pending) (complete : Complete) (after : List Token) :
    readOperator outer complete (⟨.word, connector.text, offset⟩ :: tokens ++ after) =
      readOperator outer (complete.add operand connector) after := by
  cases connector with
  | and =>
    have word := isKeyword_word (show ("AND".toList.map Char.toUpper == "AND".toList) = true by decide) offset
    have read := pushes outer ⟨complete.disjuncts, some complete.conjuncts, 0⟩ after
    rw [List.cons_append, readOperator.eq_def]
    simp only [Connector.text, word, if_true, read]
    rfl
  | or =>
    have word := isKeyword_word (show ("OR".toList.map Char.toUpper == "OR".toList) = true by decide) offset
    have other := isKeyword_word (show ("OR".toList.map Char.toUpper == "AND".toList) = false by decide) offset
    have read := pushes outer ⟨some complete.expr, none, 0⟩ after
    rw [List.cons_append, readOperator.eq_def]
    simp only [Connector.text, other, word, Bool.false_eq_true, if_false, if_true, read]
    rfl

end Sql

mutual

/-- A part is read as an operand with the truth of the part. -/
theorem Part.pushes (part : Part) (index : Nat) {bindings : Bindings} {tokens : List Sql.Token}
    (filled : part.Filled) (sound : ∀ p ∈ part.predicates, p.Sound)
    (words : ∀ p ∈ part.predicates, IsColumnWord p.field) (bound : Bound bindings index part.predicates)
    (cut : Cuts tokens (part.pieces index)) :
    ∃ operand, StandsFor bindings operand part.predicates (fun row => (part.truth row).2) ∧
      Pushes tokens operand := by
  cases part with
  | predicate joint p =>
    have member : p ∈ (Part.predicate joint p).predicates := List.mem_singleton.2 rfl
    obtain ⟨middle, inside, pushes⟩ := cuts_joint cut
    obtain ⟨offset, more, shape, read⟩ := readComparison_pieces (sound p member) (words p member) inside
    exact ⟨_, (Predicate.standsFor (sound p member) bound).joint joint, pushes _ (pushes_comparison ⟨more, shape⟩ read)⟩
  | group joint parts =>
    obtain ⟨middle, inside, pushes⟩ := cuts_joint cut
    rw [List.cons_append, cuts_symbol] at inside
    obtain ⟨first, _, rfl, inside⟩ := inside
    rw [cuts_append] at inside
    obtain ⟨level, _, rfl, inside, close⟩ := inside
    rw [cuts_symbol] at close
    obtain ⟨last, _, rfl, close⟩ := close
    cases cuts_nil.1 close
    obtain ⟨whole, stands, read⟩ := Part.readOperand_level parts index filled.1 filled.2 sound words bound inside
    exact ⟨_, stands.joint joint, pushes _ (pushes_brackets read)⟩

theorem Part.readOperand_level (parts : List Part) (index : Nat) {bindings : Bindings}
    {tokens : List Sql.Token} (some : parts ≠ []) (filled : Part.AllFilled parts)
    (sound : ∀ p ∈ Part.listPredicates parts, p.Sound)
    (words : ∀ p ∈ Part.listPredicates parts, IsColumnWord p.field)
    (bound : Bound bindings index (Part.listPredicates parts))
    (cut : Cuts tokens (levelPieces (Part.rows index parts))) :
    ∃ whole : Complete,
      StandsFor bindings whole.expr (Part.listPredicates parts) (fun row => levelTruth (Part.truths row parts)) ∧
      ∀ outer after, readOperand outer {} (tokens ++ after) = readOperator outer whole after := by
  cases parts with
  | nil => exact absurd rfl some
  | cons part rest =>
    rw [Part.listPredicates] at sound words bound
    rw [Part.rows, levelPieces, cuts_append] at cut
    obtain ⟨first, others, rfl, cut, more⟩ := cut
    obtain ⟨operand, stands, pushes⟩ := Part.pushes part index filled.1
      (fun p member => sound p (List.mem_append_left _ member))
      (fun p member => words p (List.mem_append_left _ member)) bound.left cut
    obtain ⟨whole, columns, evaluate, read⟩ := Part.readOperator_joined rest (index + part.predicates.length)
      filled.2 (fun p member => sound p (List.mem_append_right _ member))
      (fun p member => words p (List.mem_append_right _ member)) bound.right more
      (({} : Pending).push operand)
    refine ⟨whole, ⟨?_, ?_⟩, ?_⟩
    · rw [columns, Part.listPredicates, List.map_append, ← stands.columns]
      rfl
    · intro known row
      rw [Part.listPredicates] at known
      have start := stands.evaluate (fun p member => known p (List.mem_append_left _ member)) row
      rw [evaluate (fun p member => known p (List.mem_append_right _ member)), Part.truths, Complete.truth]
      change levelTruth ((Connector.and, operand.evaluate bindings row) :: _) = _
      rw [start]
      rfl
    · intro outer after
      rw [List.append_assoc, pushes, read]

theorem Part.readOperator_joined (parts : List Part) (index : Nat) {bindings : Bindings}
    {tokens : List Sql.Token} (filled : Part.AllFilled parts) (sound : ∀ p ∈ Part.listPredicates parts, p.Sound)
    (words : ∀ p ∈ Part.listPredicates parts, IsColumnWord p.field)
    (bound : Bound bindings index (Part.listPredicates parts))
    (cut : Cuts tokens (joinedPieces (Part.rows index parts))) (complete : Complete) :
    ∃ whole : Complete,
      whole.expr.columns.map ColumnName.name =
        complete.expr.columns.map ColumnName.name ++ (Part.listPredicates parts).map Predicate.field ∧
      ((∀ p ∈ Part.listPredicates parts, (Column.ofName? p.field).isSome) →
        ∀ row, whole.expr.evaluate bindings row = complete.truth bindings row (Part.truths row parts)) ∧
      ∀ outer after, readOperator outer complete (tokens ++ after) = readOperator outer whole after := by
  cases parts with
  | nil =>
    cases cuts_nil.1 cut
    refine ⟨complete, (List.append_nil _).symm, ?_, fun _ _ => rfl⟩
    intro _ row
    exact (complete.truth_nil bindings row).symm
  | cons part rest =>
    rw [Part.listPredicates] at sound words bound
    rw [Part.rows, joinedPieces, List.flatMap_cons, ← joinedPieces] at cut
    rw [cuts_append] at cut
    obtain ⟨row, others, rfl, cut, more⟩ := cut
    rw [cuts_blank, cuts_word] at cut
    obtain ⟨offset, middle, rfl, cut⟩ := cut
    obtain ⟨operand, stands, pushes⟩ := Part.pushes part index filled.1
      (fun p member => sound p (List.mem_append_left _ member))
      (fun p member => words p (List.mem_append_left _ member)) bound.left cut
    obtain ⟨whole, columns, evaluate, read⟩ := Part.readOperator_joined rest (index + part.predicates.length)
      filled.2 (fun p member => sound p (List.mem_append_right _ member))
      (fun p member => words p (List.mem_append_right _ member)) bound.right more
      (complete.add operand part.connector)
    refine ⟨whole, ?_, ?_, ?_⟩
    · rw [columns, complete.columns_add, Part.listPredicates, List.map_append, List.map_append, stands.columns,
        List.append_assoc]
    · intro known row
      rw [Part.listPredicates] at known
      have first := stands.evaluate (fun p member => known p (List.mem_append_left _ member)) row
      rw [evaluate (fun p member => known p (List.mem_append_right _ member)), complete.truth_add, first]
      cases part <;> rfl
    · intro outer after
      rw [List.append_assoc, readOperator_add pushes, read]

end

end IssueQuery
