import IssueQuery.Proofs.Filter.Placeholders
import IssueQuery.Proofs.Sql.Names
import IssueQuery.Query.Meaning

/-!
Reading the statement of a normal form back. Only the tokens count, not their places; every part is read up to
its last token, whatever stands behind it.
-/

namespace IssueQuery
open Sql

def Predicate.test (predicate : Predicate) (index : Nat) : Test :=
  match predicate.operator with
  | .isIn => .isIn (Param.listNames ("values" ++ toString index) predicate.values.length)
  | .is => .is ((literalOf? (predicate.values.headD "")).getD .null)
  | .isNot => .isNot ((literalOf? (predicate.values.headD "")).getD .null)
  | operator => .compare (operator.comparison?.getD .eq) (":" ++ ("value" ++ toString index))

namespace Sql

def Cuts (tokens : List Token) (pieces : List Piece) : Prop :=
  tokens.map Token.lexeme = lexemes (pieces.flatMap Piece.expand)

theorem cuts_nil {tokens : List Token} : Cuts tokens [] ↔ tokens = [] :=
  List.map_eq_nil_iff

theorem cuts_append {tokens : List Token} {a b : List Piece} :
    Cuts tokens (a ++ b) ↔ ∃ first second, tokens = first ++ second ∧ Cuts first a ∧ Cuts second b := by
  unfold Cuts
  rw [List.flatMap_append, lexemes, List.filterMap_append]
  exact List.map_eq_append_iff

theorem cuts_blank {tokens : List Token} {rest : List Piece} :
    Cuts tokens (.blank :: rest) ↔ Cuts tokens rest := Iff.rfl

theorem cuts_list {tokens : List Token} {name : String} {count : Nat} {rest : List Piece} :
    Cuts tokens (.list name count :: rest) ↔ Cuts tokens (written name count ++ rest) := by
  rw [Cuts, Cuts, List.flatMap_cons, List.flatMap_append, flatMap_expand_written]
  rfl

theorem cuts_token {tokens : List Token} {kind : Kind} {text : String} {rest : List Piece} :
    Cuts tokens (.token kind text :: rest) ↔
      ∃ offset more, tokens = ⟨kind, text, offset⟩ :: more ∧ Cuts more rest := by
  unfold Cuts
  rw [List.flatMap_cons]
  change _ = (kind, text) :: lexemes (rest.flatMap Piece.expand) ↔ _
  rw [List.map_eq_cons_iff]
  constructor
  · rintro ⟨token, more, rfl, same, others⟩
    obtain ⟨k, t, offset⟩ := token
    cases same
    exact ⟨offset, more, rfl, others⟩
  · rintro ⟨offset, more, rfl, others⟩
    exact ⟨_, more, rfl, rfl, others⟩

theorem cuts_word {tokens : List Token} {text : String} {rest : List Piece} :
    Cuts tokens (.word text :: rest) ↔
      ∃ offset more, tokens = ⟨.word, text, offset⟩ :: more ∧ Cuts more rest :=
  cuts_token

theorem cuts_symbol {tokens : List Token} {s : Symbol} {rest : List Piece} :
    Cuts tokens (.symbol s :: rest) ↔
      ∃ offset more, tokens = ⟨.symbol s, String.ofList s.chars, offset⟩ :: more ∧ Cuts more rest :=
  cuts_token

theorem isKeyword_word {text keyword : String} {answer : Bool}
    (same : (text.toList.map Char.toUpper == keyword.toList) = answer) (offset : Nat) :
    (⟨.word, text, offset⟩ : Token).isKeyword keyword = answer :=
  same

theorem IsColumnWord.isName {text : String} (fit : IsColumnWord text) (offset : Nat) :
    (⟨.word, text, offset⟩ : Token).isName = true := by
  rw [Token.isName, Bool.and_eq_true, Bool.not_eq_true', List.any_eq_false]
  refine ⟨rfl, ?_⟩
  intro keyword member reserved
  rw [Token.isKeyword, Bool.and_eq_true, beq_iff_eq] at reserved
  exact fit.free (List.mem_map.2 ⟨keyword, member, (beq_iff_eq.1 reserved.2).symm⟩)

theorem readColumn_pieces {field : String} {tokens : List Token} (fit : IsColumnWord field)
    (cut : Cuts tokens (columnPieces field)) :
    ∃ offset more, tokens = ⟨.word, tableAlias, offset⟩ :: more ∧
      ∀ after, readColumn (tokens ++ after) = .ok (⟨field, offset⟩, after) := by
  have letter : field.toList.head?.any Char.isDigit = false := by
    cases shape : field.toList.head? with
    | none => rfl
    | some c => exact fit.letter c shape
  rw [columnPieces, letter, if_neg (by decide), cuts_word] at cut
  obtain ⟨first, _, rfl, cut⟩ := cut
  rw [cuts_symbol] at cut
  obtain ⟨second, _, rfl, cut⟩ := cut
  rw [cuts_word] at cut
  obtain ⟨third, _, rfl, cut⟩ := cut
  cases cuts_nil.1 cut
  refine ⟨first, _, rfl, ?_⟩
  intro after
  have table : (⟨.word, tableAlias, first⟩ : Token).isKeyword "ISSUE" = true :=
    isKeyword_word (by decide) first
  have dot : (⟨.symbol .dot, String.ofList Symbol.dot.chars, second⟩ : Token).isSymbol .dot = true := by rfl
  simp only [readColumn, List.cons_append, List.nil_append, expect, table, dot, fit.isName third, if_true, bind,
    Except.bind]
  rfl

theorem readPlaceholders_listed {name : String} {names : List String} {tokens : List Token}
    (cut : Cuts tokens (listed ((name :: names).map fun placeholder => [.token .placeholder placeholder]) ++
      [.symbol .closeParen])) (after : List Token) :
    readPlaceholders (tokens ++ after) = .ok (name :: names, after) := by
  induction names generalizing name tokens with
  | nil =>
    rw [List.map_singleton, listed_singleton] at cut
    rw [List.singleton_append, cuts_token] at cut
    obtain ⟨first, _, rfl, cut⟩ := cut
    rw [cuts_symbol] at cut
    obtain ⟨second, _, rfl, cut⟩ := cut
    cases cuts_nil.1 cut
    rfl
  | cons next rest ih =>
    have shape : listed ((name :: next :: rest).map fun placeholder => [Piece.token .placeholder placeholder]) =
        .token .placeholder name :: .symbol .comma :: .blank ::
          listed ((next :: rest).map fun placeholder => [Piece.token .placeholder placeholder]) := rfl
    rw [shape, List.cons_append, List.cons_append, List.cons_append] at cut
    rw [cuts_token] at cut
    obtain ⟨first, _, rfl, cut⟩ := cut
    rw [cuts_symbol] at cut
    obtain ⟨second, more, rfl, cut⟩ := cut
    have others := ih (cuts_blank.1 cut)
    have comma : (⟨.symbol .comma, String.ofList Symbol.comma.chars, second⟩ : Token).isSymbol .comma = true := by rfl
    rw [List.cons_append, List.cons_append, readPlaceholders]
    simp only [comma, if_true, others]
    rfl

theorem readList_filled {mark : Token} {rest : List Token} (first : Nat) (more : mark.isSymbol .closeParen = false) :
    readList (⟨.symbol .openParen, String.ofList Symbol.openParen.chars, first⟩ :: mark :: rest) =
      readPlaceholders (mark :: rest) := by
  have opening : (⟨.symbol .openParen, String.ofList Symbol.openParen.chars, first⟩ : Token).isSymbol .openParen =
      true := by rfl
  rw [readList, expect, opening]
  simp only [if_true, bind, Except.bind, more]
  rfl

theorem readList_written {name : String} {count : Nat} {tokens : List Token}
    (cut : Cuts tokens (written name count)) (after : List Token) :
    readList (tokens ++ after) = .ok (Param.listNames name count, after) := by
  rw [written, List.cons_append] at cut
  rw [cuts_symbol] at cut
  obtain ⟨first, more, rfl, cut⟩ := cut
  rw [List.cons_append]
  cases names : Param.listNames name count with
  | nil =>
    rw [names, List.map_nil, show listed [] = [] from rfl, List.nil_append, cuts_symbol] at cut
    obtain ⟨second, _, rfl, cut⟩ := cut
    cases cuts_nil.1 cut
    rfl
  | cons head tail =>
    rw [names] at cut
    have read := readPlaceholders_listed cut after
    cases shape : more ++ after with
    | nil => rw [shape] at read; cases read
    | cons mark rest =>
      rw [shape] at read
      cases close : mark.isSymbol .closeParen with
      | false => rw [readList_filled first close, read]
      | true =>
        have kind : mark.kind = .symbol .closeParen := beq_iff_eq.1 close
        cases rest <;> simp [readPlaceholders, kind] at read

theorem literalOf_known {text : String} (known : text ∈ ["NULL", "TRUE", "FALSE"]) :
    ∃ literal, literalOf? text = some literal := by
  simp only [List.mem_cons, List.not_mem_nil, or_false] at known
  rcases known with rfl | rfl | rfl
  · exact ⟨.null, by decide⟩
  · exact ⟨.isTrue, by decide⟩
  · exact ⟨.isFalse, by decide⟩

theorem readLiteral_keyword {text : String} (known : text ∈ ["NULL", "TRUE", "FALSE"]) (offset : Nat)
    (after : List Token) :
    readLiteral (⟨.word, text, offset⟩ :: after) = .ok ((literalOf? text).getD .null, after) := by
  simp only [List.mem_cons, List.not_mem_nil, or_false] at known
  rcases known with rfl | rfl | rfl
  · have word := isKeyword_word (show ("NULL".toList.map Char.toUpper == "NULL".toList) = true by decide) offset
    have literal : (literalOf? "NULL").getD .null = .null := by decide
    simp only [readLiteral, Token.literal?, word, if_true, literal]
  · have other := isKeyword_word (show ("TRUE".toList.map Char.toUpper == "NULL".toList) = false by decide) offset
    have word := isKeyword_word (show ("TRUE".toList.map Char.toUpper == "TRUE".toList) = true by decide) offset
    have literal : (literalOf? "TRUE").getD .null = .isTrue := by decide
    simp only [readLiteral, Token.literal?, other, word, if_true, literal]
    rfl
  · have other := isKeyword_word (show ("FALSE".toList.map Char.toUpper == "NULL".toList) = false by decide) offset
    have second := isKeyword_word (show ("FALSE".toList.map Char.toUpper == "TRUE".toList) = false by decide) offset
    have word := isKeyword_word (show ("FALSE".toList.map Char.toUpper == "FALSE".toList) = true by decide) offset
    have literal : (literalOf? "FALSE").getD .null = .isFalse := by decide
    simp only [readLiteral, Token.literal?, other, second, word, if_true, literal]
    rfl

theorem readTest_pieces {predicate : Predicate} (sound : predicate.Sound) {index : Nat} {tokens : List Token}
    (cut : Cuts tokens (predicate.operator.pieces ++ [.blank, predicate.operandPiece index]))
    (after : List Token) : readTest (tokens ++ after) = .ok (predicate.test index, after) := by
  have keyword := sound.keyword
  obtain ⟨field, operator, values⟩ := predicate
  cases operator with
  | isIn =>
    simp only [Operator.pieces, List.cons_append, List.nil_append, cuts_word, cuts_blank] at cut
    obtain ⟨first, more, rfl, cut⟩ := cut
    have list := readList_written (by rw [← List.append_nil (written _ _)]; exact cuts_list.1 cut) after
    have word := isKeyword_word (show ("IN".toList.map Char.toUpper == "IN".toList) = true by decide) first
    have other := isKeyword_word (show ("IN".toList.map Char.toUpper == "LIKE".toList) = false by decide) first
    simp only [List.cons_append, readTest, Token.comparison?, other, word, if_true, list]
    rfl
  | is =>
    have read := readLiteral_keyword (keyword rfl)
    simp only [Operator.pieces, List.cons_append, List.nil_append, cuts_word, cuts_blank, Predicate.operandPiece,
      cuts_nil] at cut
    obtain ⟨first, _, rfl, second, _, rfl, rfl⟩ := cut
    have word := isKeyword_word (show ("IS".toList.map Char.toUpper == "IS".toList) = true by decide) first
    have list := isKeyword_word (show ("IS".toList.map Char.toUpper == "IN".toList) = false by decide) first
    have other := isKeyword_word (show ("IS".toList.map Char.toUpper == "LIKE".toList) = false by decide) first
    have positive : (⟨.word, values.headD "", second⟩ : Token).isKeyword "NOT" = false := by
      have known := keyword rfl
      simp only [List.mem_cons, List.not_mem_nil, or_false] at known
      rcases known with same | same | same <;> exact isKeyword_word (by rw [same]; decide) second
    simp only [List.cons_append, List.nil_append, readTest, Token.comparison?, other, list, word, positive, read]
    rfl
  | isNot =>
    have read := readLiteral_keyword (keyword rfl)
    simp only [Operator.pieces, List.cons_append, List.nil_append, cuts_word, cuts_blank, Predicate.operandPiece,
      cuts_nil] at cut
    obtain ⟨first, _, rfl, second, _, rfl, third, _, rfl, rfl⟩ := cut
    have word := isKeyword_word (show ("IS".toList.map Char.toUpper == "IS".toList) = true by decide) first
    have list := isKeyword_word (show ("IS".toList.map Char.toUpper == "IN".toList) = false by decide) first
    have other := isKeyword_word (show ("IS".toList.map Char.toUpper == "LIKE".toList) = false by decide) first
    have negative := isKeyword_word (show ("NOT".toList.map Char.toUpper == "NOT".toList) = true by decide) second
    simp only [List.cons_append, List.nil_append, readTest, Token.comparison?, other, list, word, negative, read]
    rfl
  | contains =>
    simp only [Operator.pieces, List.cons_append, List.nil_append, cuts_word, cuts_blank, Predicate.operandPiece,
      cuts_token, cuts_nil] at cut
    obtain ⟨first, _, rfl, second, _, rfl, rfl⟩ := cut
    have word := isKeyword_word (show ("LIKE".toList.map Char.toUpper == "LIKE".toList) = true by decide) first
    simp only [List.cons_append, List.nil_append, readTest, Token.comparison?, word]
    rfl
  | _ =>
    simp only [Operator.pieces, List.cons_append, List.nil_append, cuts_symbol, cuts_blank, Predicate.operandPiece,
      cuts_token, cuts_nil] at cut
    obtain ⟨first, _, rfl, second, _, rfl, rfl⟩ := cut
    rfl

theorem readComparison_pieces {predicate : Predicate} (sound : predicate.Sound)
    (fit : IsColumnWord predicate.field) {index : Nat} {tokens : List Token}
    (cut : Cuts tokens (predicate.pieces index)) :
    ∃ offset more, tokens = ⟨.word, tableAlias, offset⟩ :: more ∧
      ∀ after, readComparison (tokens ++ after) =
        .ok (.test ⟨predicate.field, offset⟩ (predicate.test index), after) := by
  rw [Predicate.pieces, List.append_assoc, List.cons_append, cuts_append] at cut
  obtain ⟨first, second, rfl, column, test⟩ := cut
  obtain ⟨offset, more, rfl, read⟩ := readColumn_pieces fit column
  refine ⟨offset, more ++ second, rfl, ?_⟩
  intro after
  rw [List.append_assoc, readComparison, read]
  change (readTest (second ++ after) >>= _) = _
  rw [readTest_pieces sound (cuts_blank.1 test)]
  rfl

end Sql

end IssueQuery
