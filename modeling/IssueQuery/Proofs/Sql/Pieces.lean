import IssueQuery.Sql.Token
import IssueQuery.Proofs.Text.Runs

/-!
SQL text as a row of pieces: blanks, tokens, and placeholders of lists that are still to be written out.
Cutting the text of a row gives back its tokens, as long as no token runs into the text after it.
-/

namespace IssueQuery.Sql

def Symbol.chars : Symbol → List Char
  | openParen => ['(']
  | closeParen => [')']
  | comma => [',']
  | dot => ['.']
  | eq => ['=']
  | ne => ['<', '>']
  | lt => ['<']
  | gt => ['>']
  | le => ['<', '=']
  | ge => ['>', '=']

inductive Piece where
  | blank
  | token (kind : Kind) (text : String)
  /-- The placeholder of a list of `count` values. -/
  | list (name : String) (count : Nat)
  deriving DecidableEq, Repr

namespace Piece

def word (text : String) : Piece :=
  token .word text

def symbol (s : Symbol) : Piece :=
  token (.symbol s) (String.ofList s.chars)

def chars : Piece → List Char
  | blank => [' ']
  | token _ text => text.toList
  | list name _ => "(:...".toList ++ name.toList ++ [')']

@[simp] theorem chars_blank : blank.chars = [' '] := rfl

@[simp] theorem chars_token (kind : Kind) (text : String) : (token kind text).chars = text.toList := rfl

def lexeme? : Piece → Option (Kind × String)
  | token kind text => some (kind, text)
  | _ => none

end Piece

def spell (pieces : List Piece) : List Char :=
  pieces.flatMap Piece.chars

def lexemes (pieces : List Piece) : List (Kind × String) :=
  pieces.filterMap Piece.lexeme?

def listed (rows : List (List Piece)) : List Piece :=
  [Piece.symbol .comma, .blank].intercalate rows

def Token.lexeme (token : Token) : Kind × String :=
  (token.kind, token.text)

theorem spell_nil : spell [] = [] := rfl

theorem spell_cons (piece : Piece) (rest : List Piece) :
    spell (piece :: rest) = piece.chars ++ spell rest := rfl

theorem spell_append (a b : List Piece) : spell (a ++ b) = spell a ++ spell b :=
  List.flatMap_append

theorem listed_singleton (row : List Piece) : listed [row] = row :=
  List.intercalate_singleton

theorem listed_cons_cons (row next : List Piece) (rest : List (List Piece)) :
    listed (row :: next :: rest) = row ++ .symbol .comma :: .blank :: listed (next :: rest) := by
  rw [listed, List.intercalate_cons_cons, List.append_assoc]
  rfl

theorem spell_listed (rows : List (List Piece)) :
    spell (listed rows) = ", ".toList.intercalate (rows.map spell) := by
  induction rows with
  | nil => rfl
  | cons row rest ih =>
    cases rest with
    | nil => simp [listed]
    | cons next rest =>
      rw [listed_cons_cons, spell_append, spell_cons, spell_cons, ih]
      simp [List.intercalate_cons_cons, Piece.symbol, Symbol.chars]

/-- A name as SQL text has it, which may start with a digit behind a colon. -/
structure IsName (name : String) : Prop where
  nonempty : name ≠ ""
  all : ∀ c ∈ name.toList, isNameChar c = true

theorem IsName.not_mem {name : String} (fit : IsName name) {c : Char} (mark : isNameChar c = false) :
    c ∉ name.toList := by
  intro member
  rw [fit.all c member] at mark
  cases mark

theorem isName_of_all {name : String} (nonempty : name ≠ "") (all : name.toList.all isNameChar = true) :
    IsName name :=
  ⟨nonempty, List.all_eq_true.1 all⟩

def isBareWord (text : String) : Bool :=
  text != "" && text.toList.all isNameChar && text.toList.head?.all fun c => !c.isDigit

theorem isBareWord_iff {text : String} :
    isBareWord text = true ↔ IsName text ∧ ∀ c ∈ text.toList.head?, c.isDigit = false := by
  rw [isBareWord, Bool.and_eq_true, Bool.and_eq_true, bne_iff_ne, List.all_eq_true, Option.all_eq_true]
  constructor
  · rintro ⟨⟨nonempty, all⟩, letter⟩
    exact ⟨⟨nonempty, all⟩, fun c head => by simpa using letter c head⟩
  · rintro ⟨⟨nonempty, all⟩, letter⟩
    exact ⟨⟨nonempty, all⟩, fun c head => by simp [letter c head]⟩

/-! Where tokens end. -/

def EndsName (rest : List Char) : Prop :=
  ∀ c ∈ rest.head?, isNameChar c = false

def Stops (rest : List Char) : Prop :=
  ∀ c ∈ rest.head?, c = ' ' ∨ c = ',' ∨ c = ')'

theorem Stops.endsName {rest : List Char} (stops : Stops rest) : EndsName rest := by
  intro c head
  rcases stops c head with rfl | rfl | rfl <;> decide

theorem stops_nil : Stops [] := by
  intro c head
  cases head

theorem stops_cons {c : Char} (stop : c = ' ' ∨ c = ',' ∨ c = ')') (rest : List Char) :
    Stops (c :: rest) := by
  intro d head
  cases head
  exact stop

/-- The piece is cut from the text as it stands, whatever comes before it. -/
def Piece.LexesBefore (rest : List Char) : Piece → Prop
  | blank => True
  | token kind text =>
    ∃ c more, text.toList = c :: more ∧ isBlank c = false ∧
      nextToken c (more ++ rest) = (kind, more.length + 1)
  | list _ _ => False

def Lexed (rest : List Char) : List Piece → Prop
  | [] => True
  | piece :: more => piece.LexesBefore (spell more ++ rest) ∧ Lexed rest more

theorem lexed_append {rest : List Char} {a b : List Piece} :
    Lexed rest (a ++ b) ↔ Lexed (spell b ++ rest) a ∧ Lexed rest b := by
  induction a with
  | nil => simp [Lexed]
  | cons piece a ih =>
    rw [List.cons_append, Lexed, Lexed, ih, spell_append, List.append_assoc, and_assoc]

theorem tokens_spell {pieces : List Piece} (lexed : Lexed [] pieces) (offset : Nat) :
    (tokens offset (spell pieces)).map Token.lexeme = lexemes pieces := by
  induction pieces generalizing offset with
  | nil => simp [spell, tokens, lexemes]
  | cons piece rest ih =>
    obtain ⟨first, others⟩ := lexed
    rw [List.append_nil] at first
    cases piece with
    | blank =>
      rw [spell_cons, Piece.chars_blank, List.singleton_append, tokens, if_pos (by decide)]
      exact ih others _
    | token kind text =>
      obtain ⟨c, more, shape, visible, next⟩ := first
      have whole : text = String.ofList (c :: more) := by rw [← shape, String.ofList_toList]
      rw [spell_cons, Piece.chars_token, shape, List.cons_append, tokens, visible]
      simp only [Bool.false_eq_true, if_false, next, Nat.add_sub_cancel, List.take_left',
        List.drop_left', List.map_cons, ih others, Token.lexeme]
      rw [← whole]
      rfl
    | list name count => exact first.elim

theorem lexes_word {word : String} {rest : List Char} (fit : IsName word)
    (letter : ∀ c ∈ word.toList.head?, c.isDigit = false) (ends : EndsName rest) :
    (Piece.word word).LexesBefore rest := by
  have all := fit.all
  cases shape : word.toList with
  | nil => exact absurd (String.toList_eq_nil_iff.1 shape) fit.nonempty
  | cons c more =>
    rw [shape] at all letter
    have first : isNameChar c = true := all c (by simp)
    have noDigit : c.isDigit = false := letter c rfl
    have noDot : (c == '.') = false := by
      cases same : c == '.' with
      | false => rfl
      | true =>
        rw [beq_iff_eq.1 same] at first
        exact absurd first (by decide)
    refine ⟨c, more, shape, ?_, ?_⟩
    · cases blank : isBlank c with
      | false => rfl
      | true =>
        simp only [isBlank, Bool.or_eq_true, beq_iff_eq] at blank
        rcases blank with (((rfl | rfl) | rfl) | rfl) | rfl <;> exact absurd first (by decide)
    · have run : (more ++ rest).takeWhile isNameChar = more :=
        Text.takeWhile_run (fun d member => all d (by simp [member])) ends
      simp [nextToken, noDigit, noDot, first, run]

theorem lexes_placeholder {name : String} {rest : List Char} (fit : IsName name)
    (ends : EndsName rest) :
    (Piece.token .placeholder (":" ++ name)).LexesBefore rest := by
  refine ⟨':', name.toList, by simp, by decide, ?_⟩
  have run : (name.toList ++ rest).takeWhile isNameChar = name.toList := Text.takeWhile_run fit.all ends
  have some : name.toList.length ≠ 0 := by
    rw [String.length_toList]
    simpa using fit.nonempty
  simp only [nextToken, run]
  simp [some, show Char.isDigit ':' = false by decide, show isNameChar ':' = false by decide]

theorem lexes_mark {s : Symbol} (mark : s ∈ [.openParen, .closeParen, .comma]) (rest : List Char) :
    (Piece.symbol s).LexesBefore rest := by
  simp only [List.mem_cons, List.not_mem_nil, or_false] at mark
  rcases mark with rfl | rfl | rfl <;>
    exact ⟨_, [], String.toList_ofList, by decide, by rfl⟩

/-- Before a stop no symbol can be the start of a longer one. -/
theorem lexes_symbol (s : Symbol) {rest : List Char} (stops : Stops rest) :
    (Piece.symbol s).LexesBefore rest := by
  cases rest with
  | nil => cases s <;> exact ⟨_, _, String.toList_ofList, by decide, by rfl⟩
  | cons c rest =>
    rcases stops c rfl with rfl | rfl | rfl <;>
      cases s <;> exact ⟨_, _, String.toList_ofList, by decide, by rfl⟩

theorem lexes_dot {c : Char} (letter : c.isDigit = false) (rest : List Char) :
    (Piece.symbol .dot).LexesBefore (c :: rest) := by
  refine ⟨'.', [], String.toList_ofList, by decide, ?_⟩
  simp [nextToken, letter, show Char.isDigit '.' = false by decide, show isNameChar '.' = false by decide]

end IssueQuery.Sql
