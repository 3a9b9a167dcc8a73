import IssueQuery.Filter.Select
import IssueQuery.Proofs.Sql.Pieces
import IssueQuery.Query.Parser

/-!
Columns in SQL text. A field that starts with a digit is no name there: it makes one token with the point
before it.
-/

namespace IssueQuery.Sql

def isNumberChar (c : Char) : Bool :=
  c.isDigit || c == '_'

def exponentLength : List Char → Nat
  | e :: c :: rest =>
    if (e == 'e' || e == 'E') && (c.isDigit || (c == '+' || c == '-') && rest.head?.any Char.isDigit) then
      2 + (rest.takeWhile isNumberChar).length
    else 0
  | _ => 0

theorem numberLength_point (text : List Char) :
    numberLength ('.' :: text) =
      1 + (text.takeWhile isNumberChar).length +
        exponentLength (text.drop (text.takeWhile isNumberChar).length) := by
  have same : (fun c : Char => c.isDigit || c == '_') = isNumberChar := rfl
  simp only [numberLength, List.drop_succ_cons, List.drop_zero, same, Nat.add_comm 1]
  generalize (text.takeWhile isNumberChar).length = size
  generalize text.drop size = tail
  match tail with
  | [] => rfl
  | [c] => simp [exponentLength]
  | e :: c :: rest =>
    rw [exponentLength]
    split
    · grind
    · grind
    · next noLower noUpper =>
      have other : (e == 'e' || e == 'E') = false := by
        simp only [Bool.or_eq_false_iff, beq_eq_false_iff_ne]
        exact ⟨fun same => noLower c rest (same ▸ rfl), fun same => noUpper c rest (same ▸ rfl)⟩
      simp [other]

/-- What may be an exponent lies within the name, for no stop is a digit or a sign. -/
theorem exponentLength_append {name rest : List Char} (all : ∀ c ∈ name, isNameChar c = true)
    (stops : Stops rest) :
    exponentLength (name ++ rest) = exponentLength name ∧ exponentLength name ≤ name.length := by
  have digits : ∀ text : List Char,
      (text ++ rest).takeWhile isNumberChar = text.takeWhile isNumberChar := by
    apply Text.takeWhile_append_stop
    intro c head
    rcases stops c head with rfl | rfl | rfl <;> decide
  match name, rest with
  | [], [] => exact ⟨rfl, Nat.le_refl _⟩
  | [], [c] => exact ⟨rfl, Nat.le_refl _⟩
  | [], c :: d :: rest =>
    rcases stops c rfl with rfl | rfl | rfl <;> exact ⟨rfl, Nat.le_refl _⟩
  | [a], [] => exact ⟨rfl, Nat.zero_le 1⟩
  | [a], c :: rest =>
    have stop : (c.isDigit || (c == '+' || c == '-') && rest.head?.any Char.isDigit) = false := by
      rcases stops c rfl with rfl | rfl | rfl <;> rfl
    refine ⟨?_, Nat.zero_le 1⟩
    rw [List.singleton_append, exponentLength, stop, Bool.and_false]
    rfl
  | a :: b :: name, rest =>
    have second : isNameChar b = true := all b (by simp)
    have noSign : (b == '+' || b == '-') = false := by
      cases sign : b == '+' || b == '-' with
      | false => rfl
      | true =>
        simp only [Bool.or_eq_true, beq_iff_eq] at sign
        rcases sign with rfl | rfl <;> exact absurd second (by decide)
    have shorter : (name.takeWhile isNumberChar).length ≤ name.length :=
      (List.takeWhile_sublist _).length_le
    simp only [List.cons_append, exponentLength, noSign, Bool.false_and, digits, List.length_cons, true_and]
    split <;> omega

/-- A name that starts with a digit makes one token with the point before it. -/
theorem nextToken_point {c : Char} {name rest : List Char} (digit : c.isDigit = true)
    (all : ∀ d ∈ c :: name, isNameChar d = true) (stops : Stops rest) :
    nextToken '.' (c :: name ++ rest) = ((nextToken '.' (c :: name)).1, name.length + 2) ∧
      (nextToken '.' (c :: name)).1 ≠ .placeholder := by
  have exponent := exponentLength_append
    (fun d member => all d (List.mem_of_mem_drop (i := ((c :: name).takeWhile isNumberChar).length) member)) stops
  have size : ((c :: name).takeWhile isNumberChar).length ≤ (c :: name).length :=
    (List.takeWhile_sublist _).length_le
  have digits : (c :: name ++ rest).takeWhile isNumberChar = (c :: name).takeWhile isNumberChar := by
    refine Text.takeWhile_append_stop ?_ _
    intro d head
    rcases stops d head with rfl | rfl | rfl <;> decide
  have number : numberLength ('.' :: (c :: name ++ rest)) = numberLength ('.' :: c :: name) := by
    rw [numberLength_point, numberLength_point, digits, List.drop_append_of_le_length size, exponent.1]
  have bound : numberLength ('.' :: c :: name) ≤ name.length + 2 := by
    rw [numberLength_point]
    have := exponent.2
    rw [List.length_drop] at this
    simp only [List.length_cons] at this size ⊢
    omega
  obtain ⟨reach, known⟩ : ∃ reach, numberLength ('.' :: c :: name) = reach + 1 := by
    rw [numberLength_point, Nat.add_assoc, Nat.add_comm 1]
    exact ⟨_, rfl⟩
  have inside : ∀ d ∈ (c :: name).drop reach, isNameChar d = true :=
    fun d member => all d (List.mem_of_mem_drop member)
  have trailing : ((c :: name ++ rest).drop reach).takeWhile isNameChar = (c :: name).drop reach := by
    rw [List.drop_append_of_le_length (by simp only [List.length_cons]; omega)]
    exact Text.takeWhile_run inside stops.endsName
  have alone : ((c :: name).drop reach).takeWhile isNameChar = (c :: name).drop reach := by
    simpa using Text.takeWhile_run inside stops_nil.endsName
  have start : ∀ more : List Char,
      (Char.isDigit '.' || ('.' == '.' && (c :: more).head?.any Char.isDigit)) = true := by
    intro more
    simp [digit]
  constructor
  · rw [List.cons_append] at number trailing
    simp only [nextToken, List.cons_append, start, if_true, number, known, List.drop_succ_cons, trailing, alone]
    refine Prod.ext rfl ?_
    simp only [List.length_drop, List.length_cons]
    omega
  · simp only [nextToken, start, if_true]
    split <;> simp

theorem isNameChar_of_identifier {c : Char} (fit : (Text.isAlphanumeric c || c == '_') = true) :
    isNameChar c = true := by
  rcases Bool.or_eq_true _ _ ▸ fit with alphanumeric | underscore
  · by_cases ascii : c.toNat < 0x80
    · rw [Text.isAlphanumeric, if_pos ascii] at alphanumeric
      simp [isNameChar, alphanumeric]
    · have beyond : 0x80 ≤ c.toNat := Nat.le_of_not_lt ascii
      simp [isNameChar, beyond]
  · simp [isNameChar, underscore]

/-- A field under the table's name. The point and a digit behind it make one token. -/
def columnPieces (field : String) : List Piece :=
  Piece.word tableAlias ::
    if field.toList.head?.any Char.isDigit then
      [.token (nextToken '.' field.toList).1 ("." ++ field)]
    else [.symbol .dot, .word field]

theorem spell_column (field : String) : spell (columnPieces field) = (column field).toList := by
  unfold columnPieces
  split <;> simp [spell, Piece.word, Piece.symbol, Symbol.chars, column]

theorem isName_column {field : String} (fit : isIdentifier field = true) : IsName field := by
  rw [isIdentifier, Bool.and_eq_true, List.all_eq_true] at fit
  constructor
  · rintro rfl
    exact absurd fit.1 (by decide)
  · exact fun c member => isNameChar_of_identifier (fit.2 c member)

theorem lexed_column {field : String} {rest : List Char} (fit : isIdentifier field = true)
    (stops : Stops rest) : Lexed rest (columnPieces field) := by
  obtain ⟨nonempty, all⟩ := isName_column fit
  have table : ∀ more : List Char, (Piece.word tableAlias).LexesBefore ('.' :: more) := by
    intro more
    obtain ⟨name, letter⟩ := isBareWord_iff.1 (show isBareWord tableAlias = true by decide)
    apply lexes_word name letter
    intro c head
    cases head
    decide
  cases shape : field.toList with
  | nil => exact absurd (String.toList_eq_nil_iff.1 shape) nonempty
  | cons c name =>
    cases digit : c.isDigit with
    | true =>
      rw [shape] at all
      have token := (nextToken_point digit all stops).1
      simp only [columnPieces, shape, List.head?_cons, Option.any_some, digit, if_true]
      refine ⟨?_, ⟨'.', c :: name, by simp [shape], by decide, ?_⟩, trivial⟩
      · simpa [spell] using table _
      · simpa [spell] using token
    | false =>
      simp only [columnPieces, shape, List.head?_cons, Option.any_some, digit, Bool.false_eq_true, if_false]
      refine ⟨?_, ?_, ?_, trivial⟩
      · simpa [spell, Piece.symbol, Symbol.chars] using table _
      · simpa [spell, Piece.word, shape] using lexes_dot digit _
      · refine lexes_word ⟨nonempty, all⟩ ?_ stops.endsName
        intro d head
        rw [shape] at head
        cases head
        exact digit

end IssueQuery.Sql
