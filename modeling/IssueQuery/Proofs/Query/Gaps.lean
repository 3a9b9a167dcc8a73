import IssueQuery.Proofs.Query.Lexing

/-!
What lies between tokens. Lexemes and gaps make up the whole text; a gap holds no character that starts a token
where it stands, and all gaps that are more than blanks are reported by their place.
-/

namespace IssueQuery
open Text

theorem Text.byteLength_eq (text : List Char) : byteLength text = (String.ofList text).utf8ByteSize := by
  induction text with
  | nil => rfl
  | cons c rest ih =>
    have split : String.ofList (c :: rest) = String.ofList [c] ++ String.ofList rest :=
      @String.ofList_append [c] rest
    have first : (String.ofList [c]).utf8ByteSize = c.utf8Size := by
      simp
    rw [byteLength, ih, split, String.utf8ByteSize_append, first]

theorem Token.describe_ofWord (name : String) : (ofWord name).describe = name := by
  fun_cases ofWord name <;> rfl

namespace Lexeme

/-- No token starts with this character where these stand behind it: it is of no word and no mark of its own, an
exclamation mark without an equals sign, or a quote that opens nothing. -/
structure Idle (c : Char) (rest : List Char) : Prop where
  word : isWord c = false
  mark : c ∉ ['<', '>', '=', '(', ')', ',']
  exclamation : c = '!' → rest.head? ≠ some '='
  quote : c = '"' → rest.head? = some '"' ∨ '"' ∉ rest

theorem quoted?_eq_none {rest : List Char} : quoted? rest = none ↔ rest.head? = some '"' ∨ '"' ∉ rest := by
  have whole := List.takeWhile_append_dropWhile (p := (· != '"')) (l := rest)
  unfold quoted?
  cases shape : rest.dropWhile (· != '"') with
  | nil =>
    have plain := List.dropWhile_eq_nil_iff.1 shape
    have absent : '"' ∉ rest := fun member => absurd (plain _ member) (by decide)
    exact ⟨fun _ => .inr absent, fun _ => rfl⟩
  | cons d after =>
    have closes : d = '"' := by
      have stop := List.head?_dropWhile_not (· != '"') rest
      simpa [shape] using stop
    rw [shape, closes] at whole
    have inside : '"' ∈ rest := by
      rw [← whole]
      simp
    cases inner : rest.takeWhile (· != '"') with
    | nil =>
      rw [inner] at whole
      simp [← whole]
    | cons e more =>
      have first : e ≠ '"' := by
        have member : e ∈ rest.takeWhile (· != '"') := inner ▸ List.mem_cons_self
        simpa using List.mem_takeWhile_imp member
      have head : rest.head? = some e := by
        rw [← whole, inner]
        rfl
      simp [head, first, inside]

/-- A text starts with no lexeme exactly if its first character is idle. -/
theorem next?_eq_none {c : Char} {rest : List Char} : next? c rest = none ↔ Idle c rest := by
  fun_cases next? c rest with
  | case1 c rest word => exact ⟨nofun, fun idle => absurd word (Bool.eq_false_iff.1 idle.word)⟩
  | case2 rest plain =>
    rw [quoted?_eq_none]
    exact ⟨fun opens => ⟨by decide, by decide, nofun, fun _ => opens⟩, fun idle => idle.quote rfl⟩
  | case5 after => exact ⟨nofun, fun idle => absurd rfl (idle.exclamation rfl)⟩
  | case12 c rest plain quote gt lt eq opening closing comma _ _ ne =>
    refine ⟨fun _ => ⟨Bool.eq_false_iff.2 plain, ?_, ?_, fun same => (quote same).elim⟩, fun _ => rfl⟩
    · simp only [List.mem_cons, List.not_mem_nil, or_false]
      rintro (same | same | same | same | same | same) <;> contradiction
    · intro same head
      obtain ⟨after, shape⟩ := List.head?_eq_some_iff.1 head
      exact ne after same shape
  | _ => exact ⟨nofun, fun idle => absurd (by decide) idle.mark⟩

/-- The characters spell the token. Between the words of a keyword any blanks may stand. -/
inductive Spells : List Char → Token → Prop
  | plain {text : List Char} {token : Token} (same : token.describe.toList = text) : Spells text token
  | orderBy {blanks : List Char} (filled : blanks ≠ []) (all : blank blanks = true) :
    Spells ("ORDER".toList ++ blanks ++ "BY".toList) (.order .orderBy)
  | isNot {blanks : List Char} (filled : blanks ≠ []) (all : blank blanks = true) :
    Spells ("IS".toList ++ blanks ++ "NOT".toList) (.operator .isNot)

theorem pair?_eq_some {first second word rest text after : List Char}
    (found : pair? first second word rest = some (text, after)) :
    ∃ blanks, blanks ≠ [] ∧ blank blanks = true ∧ word = first ∧ text = first ++ blanks ++ second ∧
      word ++ rest = text ++ after := by
  unfold pair? at found
  split at found
  · next same =>
    dsimp only at found
    split at found
    · next both =>
      cases found
      obtain ⟨filled, second⟩ := both
      refine ⟨rest.takeWhile isBlank, filled, List.all_eq_true.2 fun c => List.mem_takeWhile_imp, same, ?_, ?_⟩
      · rw [same]
      · rw [← second, List.append_assoc, List.append_assoc, List.takeWhile_append_dropWhile,
          List.takeWhile_append_dropWhile]
    · cases found
  · cases found

theorem ofWord_spells (word rest : List Char) :
    Spells (ofWord word rest).1.1 (ofWord word rest).1.2 ∧
      word ++ rest = (ofWord word rest).1.1 ++ (ofWord word rest).2 := by
  unfold ofWord
  split
  · next found =>
    obtain ⟨blanks, filled, all, _, rfl, whole⟩ := pair?_eq_some found
    exact ⟨.orderBy filled all, whole⟩
  · split
    · next found =>
      obtain ⟨blanks, filled, all, _, rfl, whole⟩ := pair?_eq_some found
      exact ⟨.isNot filled all, whole⟩
    · refine ⟨.plain ?_, rfl⟩
      rw [Token.describe_ofWord, String.toList_ofList]

theorem quoted?_spells {rest text after : List Char} {token : Token}
    (found : quoted? rest = some ((text, token), after)) : Spells text token ∧ '"' :: rest = text ++ after := by
  have whole := List.takeWhile_append_dropWhile (p := (· != '"')) (l := rest)
  have stop := List.head?_dropWhile_not (· != '"') rest
  unfold quoted? at found
  split at found
  · cases found
  · next d behind shape =>
    dsimp only at found
    split at found
    · cases found
    · cases found
      have closes : d = '"' := by
        simpa [shape] using stop
      rw [shape, closes] at whole
      refine ⟨.plain ?_, ?_⟩
      · rw [Token.quoted_describe, String.toList_ofList, List.cons_append]
      · rw [List.cons_append, List.cons_append, List.append_assoc, List.singleton_append, whole]

theorem next?_spells {c : Char} {rest text after : List Char} {token : Token}
    (found : next? c rest = some ((text, token), after)) : Spells text token ∧ c :: rest = text ++ after := by
  unfold next? at found
  split at found
  · obtain ⟨spells, whole⟩ := ofWord_spells (c :: rest.takeWhile isWord) (rest.dropWhile isWord)
    rw [Option.some.inj found, List.cons_append, List.takeWhile_append_dropWhile] at whole
    rw [Option.some.inj found] at spells
    exact ⟨spells, whole⟩
  · split at found
    · exact quoted?_spells found
    all_goals
      cases found
    all_goals exact ⟨.plain rfl, rfl⟩

def chars (lexeme : Lexeme) : List Char :=
  lexeme.gap ++ lexeme.text

end Lexeme

namespace Scan

def before (scan : Scan) (place : Nat) : List Char :=
  (scan.lexemes.take place).flatMap Lexeme.chars

def Passes (gap after : List Char) : Prop :=
  ∀ passed c rest, gap = passed ++ c :: rest → Lexeme.Idle c (rest ++ after)

theorem passes_cons {c : Char} {gap after : List Char} (idle : Lexeme.Idle c (gap ++ after))
    (passes : Passes gap after) : Passes (c :: gap) after := by
  intro passed d rest split
  rcases List.cons_eq_append_iff.1 split with ⟨_, shape⟩ | ⟨more, _, shape⟩
  · cases shape
    exact idle
  · exact passes more d rest shape

theorem gaps_cons (lexeme : Lexeme) (lexemes : List Lexeme) (tail : List Char) :
    gaps ⟨lexeme :: lexemes, tail⟩ = lexeme.gap :: gaps ⟨lexemes, tail⟩ := rfl

theorem before_cons (lexeme : Lexeme) (lexemes : List Lexeme) (tail : List Char) (place : Nat) :
    before ⟨lexeme :: lexemes, tail⟩ (place + 1) = lexeme.chars ++ before ⟨lexemes, tail⟩ place := rfl

/-- A gap that stands at this place in a text, with nothing in it that starts a token. -/
def Leaves (scan : Scan) (text : List Char) (place : Nat) (gap : List Char) : Prop :=
  ∃ after, text = scan.before place ++ gap ++ after ∧ Passes gap after

theorem leaves_skip {scan : Scan} {c : Char} {rest : List Char} (idle : Lexeme.Idle c rest)
    (leaves : ∀ place gap, scan.gaps[place]? = some gap → scan.Leaves rest place gap) :
    ∀ place gap, (scan.skip c).gaps[place]? = some gap → (scan.skip c).Leaves (c :: rest) place gap := by
  -- only the first gap grows, and the text before every other one
  have first : ∀ gap, scan.gaps[0]? = some gap → ∃ after, c :: rest = c :: gap ++ after ∧ Passes (c :: gap) after := by
    intro gap found
    obtain ⟨after, whole, passes⟩ := leaves 0 gap found
    have start : rest = gap ++ after := whole
    exact ⟨after, congrArg _ start, passes_cons (start ▸ idle) passes⟩
  obtain ⟨lexemes, tail⟩ := scan
  intro place gap found
  cases lexemes with
  | nil =>
    cases place with
    | zero =>
      cases found
      exact first tail rfl
    | succ place => cases found
  | cons lexeme lexemes =>
    cases place with
    | zero =>
      cases found
      exact first lexeme.gap rfl
    | succ place =>
      obtain ⟨after, whole, passes⟩ := leaves (place + 1) gap found
      exact ⟨after, congrArg _ whole, passes⟩

theorem leaves_ofChars (text : List Char) :
    ∀ place gap, (ofChars text).gaps[place]? = some gap → (ofChars text).Leaves text place gap := by
  fun_induction ofChars text with
  | case1 =>
    intro place gap found
    cases place with
    | zero =>
      cases found
      exact ⟨[], rfl, by rintro passed c rest split; simp at split⟩
    | succ place => cases found
  | case2 c rest text token after found scan ih =>
    obtain ⟨_, whole⟩ := Lexeme.next?_spells found
    intro place gap found
    cases place with
    | zero =>
      cases found
      exact ⟨c :: rest, rfl, by rintro passed d more split; simp at split⟩
    | succ place =>
      obtain ⟨behind, cut, passes⟩ := ih place gap found
      refine ⟨behind, ?_, passes⟩
      rw [whole, cut, before_cons, Lexeme.chars, List.nil_append]
      simp only [List.append_assoc]
      rfl
  | case3 c rest none ih => exact leaves_skip (Lexeme.next?_eq_none.1 none) ih

theorem spells_ofChars (text : List Char) : ∀ lexeme ∈ (ofChars text).lexemes, Lexeme.Spells lexeme.text lexeme.token := by
  fun_induction ofChars text with
  | case1 => exact fun _ member => absurd member List.not_mem_nil
  | case2 c rest text token after found scan ih =>
    rw [List.forall_mem_cons]
    exact ⟨(Lexeme.next?_spells found).1, ih⟩
  | case3 c rest none ih =>
    generalize ofChars rest = scan at ih
    obtain ⟨lexemes, tail⟩ := scan
    cases lexemes with
    | nil => exact ih
    | cons lexeme lexemes =>
      rw [List.forall_mem_cons] at ih
      exact List.forall_mem_cons.2 ih

def chars (scan : Scan) : List Char :=
  scan.lexemes.flatMap Lexeme.chars ++ scan.tail

theorem chars_skip (c : Char) (scan : Scan) : (scan.skip c).chars = c :: scan.chars := by
  obtain ⟨lexemes, tail⟩ := scan
  cases lexemes <;> rfl

theorem chars_ofChars (text : List Char) : (ofChars text).chars = text := by
  fun_induction ofChars text with
  | case1 => rfl
  | case2 c rest text token after found scan ih =>
    rw [(Lexeme.next?_spells found).2, ← ih]
    exact List.append_assoc _ _ _
  | case3 c rest none ih => rw [chars_skip, ih]

theorem before_zero (scan : Scan) : scan.before 0 = [] := rfl

theorem skippedFrom_eq (offset : Nat) (scan : Scan) :
    scan.skippedFrom offset = (scan.gaps.mapIdx fun place gap =>
      if blank gap then [] else [(offset + byteLength (scan.before place), trim gap)]).flatten := by
  obtain ⟨lexemes, tail⟩ := scan
  induction lexemes generalizing offset with
  | nil =>
    rw [skippedFrom, skippedFrom.report]
    exact (List.append_nil _).symm
  | cons lexeme lexemes ih =>
    rw [skippedFrom, skippedFrom.report, ih, gaps_cons, List.mapIdx_cons, List.flatten_cons]
    simp only [before_zero, before_cons, Lexeme.chars, byteLength_append, byteLength, Nat.add_zero, Nat.add_assoc]

end Scan

/-- Every text is made up of lexemes, which spell the tokens, and of gaps, in which nothing starts a token. All gaps
that are not blank are reported, with the byte at which they begin and without the blanks at their ends. -/
theorem Token.scan_lossless (text : String) :
    (scan text).chars = text.toList ∧
    (∀ lexeme ∈ (scan text).lexemes, Lexeme.Spells lexeme.text lexeme.token) ∧
    (∀ place gap, (scan text).gaps[place]? = some gap → ∃ after,
      text.toList = (scan text).before place ++ gap ++ after ∧
        ∀ passed c rest, gap = passed ++ c :: rest → Lexeme.Idle c (rest ++ after)) ∧
    skipped text = ((scan text).gaps.mapIdx fun place gap =>
      if blank gap then []
      else [⟨(String.ofList ((scan text).before place)).utf8ByteSize, String.ofList (trim gap)⟩]).flatten := by
  refine ⟨Scan.chars_ofChars _, Scan.spells_ofChars _, Scan.leaves_ofChars _, ?_⟩
  rw [skipped, Scan.skippedFrom_eq, List.map_flatten]
  congr 1
  apply List.ext_getElem?
  intro place
  simp only [List.getElem?_map, List.getElem?_mapIdx, Option.map_map]
  congr 1
  funext gap
  rw [Function.comp_apply, Nat.zero_add, byteLength_eq]
  cases blank gap <;> rfl

def tornText : String := "é ~ \"\"a! = \" ! IS \n NOT ;\""

theorem tornText_lossless :
    (Token.scan tornText).gaps = [[], [' ', '~', ' ', '"'], [' ', '!', ' '], [' ', ';', '"']] ∧
      Lexeme.Idle '"' "\"a! = \" ! IS \n NOT ;\"".toList ∧
      Token.skipped tornText = [⟨2, "~ \""⟩, ⟨13, "!"⟩, ⟨24, ";\""⟩] := by
  obtain ⟨_, _, idle, reports⟩ := Token.scan_lossless tornText
  have gaps : (Token.scan tornText).gaps = [[], [' ', '~', ' ', '"'], [' ', '!', ' '], [' ', ';', '"']] := by
    decide +kernel
  refine ⟨gaps, ?_, ?_⟩
  · obtain ⟨after, whole, passes⟩ := idle 1 [' ', '~', ' ', '"'] (by rw [gaps]; rfl)
    have first : (Token.scan tornText).before 1 = ['é'] := by decide +kernel
    have written : tornText.toList = ['é'] ++ [' ', '~', ' ', '"'] ++ "\"a! = \" ! IS \n NOT ;\"".toList := by
      decide +kernel
    rw [first, written] at whole
    rw [List.append_cancel_left whole]
    exact passes [' ', '~', ' '] '"' [] rfl
  · rw [reports]
    decide +kernel

end IssueQuery
