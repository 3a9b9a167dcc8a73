import IssueQuery.Proofs.Query.Gaps

/-!
Seams in query text. Two texts with blanks between them are read apart, unless the last word of one and the first
word of the other make up a keyword. For the same reason tokens that are spelled out again are read back.
-/

namespace IssueQuery
open Text

namespace Token

/-- Words that are one keyword where only blanks stand between them. -/
inductive Fuses : Token → Token → Prop
  | negation : Fuses (operator .is) (marker .not)
  | ordering : Fuses (word "ORDER") (word "BY")

theorem apart_iff {a b : Token} : a.Apart b ↔ ¬a.Fuses b := by
  constructor
  · rintro ⟨negation, ordering⟩ fuses
    cases fuses with
    | negation => exact negation ⟨rfl, rfl⟩
    | ordering => exact ordering ⟨rfl, rfl⟩
  · intro apart
    constructor
    · rintro ⟨rfl, rfl⟩
      exact apart .negation
    · rintro ⟨rfl, rfl⟩
      exact apart .ordering

theorem Fuses.reads {a b : Token} (fuses : a.Fuses b) {blanks tail : List Char} (filled : blanks ≠ [])
    (all : blank blanks = true) (stop : ∀ c ∈ tail.head?, isWord c = false) :
    ∃ keyword, keyword ≠ a ∧ Lexeme.Reads (a.describe.toList ++ blanks ++ b.describe.toList) keyword tail := by
  cases fuses with
  | negation => exact ⟨operator .isNot, by decide, Lexeme.reads_isNot filled all stop⟩
  | ordering => exact ⟨order .orderBy, by decide, Lexeme.reads_orderBy filled all stop⟩

/-- Spelled tokens are read back exactly if no two neighbours make up a keyword. -/
theorem tokens_spaced_iff {tokens : List Token} (spellable : ∀ token ∈ tokens, token.Spellable) :
    (Scan.ofChars (spaced tokens)).tokens = tokens ↔ tokens.IsChain Apart := by
  refine ⟨fun same => ?_, tokens_spaced spellable⟩
  induction tokens with
  | nil => exact .nil
  | cons token rest ih =>
    have fit := List.forall_mem_cons.1 spellable
    have next : ∀ b ∈ rest.head?, token.Apart b := by
      intro b head
      rw [apart_iff]
      intro fuses
      obtain ⟨others, rfl⟩ := List.head?_eq_some_iff.1 head
      -- two spellings in a row are read as a keyword, which the tokens do not begin with
      obtain ⟨keyword, other, reads⟩ := fuses.reads (List.cons_ne_nil ' ' []) rfl (spaced_stops others)
      have first := Scan.tokens_of_reads reads
      rw [List.append_assoc, List.append_assoc] at first
      rw [spaced_cons, Scan.tokens_space, spaced_cons] at same
      exact other (List.cons.inj (first.symm.trans same)).1
    have reads : Lexeme.Reads token.describe.toList token (spaced rest) :=
      Lexeme.reads_describe fit.1 (fun b head => fit.2 b (List.mem_of_mem_head? head)) next
    rw [spaced_cons, Scan.tokens_space, Scan.tokens_of_reads reads] at same
    exact List.isChain_cons.2 ⟨next, ih fit.2 (List.cons.inj same).2⟩

end Token

/-- Spelling out the tokens of a text and reading them again changes nothing, except where two neighbours make up a
keyword of two words. -/
theorem Token.tokenize_respelled (text : String) :
    tokenize (spell (tokenize text)) = tokenize text ↔ (tokenize text).IsChain Apart := by
  rw [tokenize_spell_eq, tokens_spaced_iff (tokenize_spellable text)]

namespace Lexeme

variable {c : Char} {rest text after more word first second : List Char} {token : Token}

theorem next?_blank (mark : isBlank c = true) : next? c rest = none := by
  rw [next?_eq_none]
  refine ⟨isWord_of_blank mark, ?_, ?_, ?_⟩
  · simp only [List.mem_cons, List.not_mem_nil, or_false]
    rintro (rfl | rfl | rfl | rfl | rfl | rfl) <;> cases mark
  · rintro rfl
    cases mark
  · rintro rfl
    cases mark

theorem pair?_blank (named : second ≠ []) (all : ∀ c ∈ rest, isBlank c = true) : pair? first second word rest = none := by
  unfold pair?
  split
  · simp only [List.dropWhile_eq_nil_iff.2 all, List.takeWhile_nil]
    rw [if_neg fun both => named both.2.symm]
  · rfl

theorem ofWord_blank (all : ∀ c ∈ rest, isBlank c = true) :
    ofWord word rest = ((word, Token.ofWord (String.ofList word)), rest) := by
  rw [ofWord, pair?_blank (by decide) all, pair?_blank (by decide) all]

theorem quoted?_append (found : quoted? rest = some ((text, token), after)) (more : List Char) :
    quoted? (rest ++ more) = some ((text, token), after ++ more) := by
  obtain ⟨inner, core, rfl, plain, stop⟩ := exists_run (· != '"') rest
  unfold quoted? at found ⊢
  rw [dropWhile_run plain stop, takeWhile_run plain stop] at found
  cases core with
  | nil => cases found
  | cons d core =>
    have far : ∀ e ∈ (d :: core ++ more).head?, (e != '"') = false := stop
    rw [List.append_assoc, dropWhile_run plain far, takeWhile_run plain far]
    dsimp only at found ⊢
    split at found
    · cases found
    · next filled =>
      cases found
      exact if_neg filled

section Added

variable (gap : ∃ d ∈ more.head?, isBlank d = true)

include gap

theorem gap_stops : ∀ c ∈ more.head?, isWord c = false := by
  obtain ⟨d, head, mark⟩ := gap
  intro c also
  cases Option.mem_unique head also
  exact isWord_of_blank mark

theorem add_unequal (other : ∀ behind, rest = '=' :: behind → False) :
    ∀ behind, rest ++ more = '=' :: behind → False := by
  obtain ⟨d, head, mark⟩ := gap
  obtain ⟨added, rfl⟩ := List.head?_eq_some_iff.1 head
  intro behind same
  cases rest with
  | nil =>
    cases same
    cases mark
  | cons e rest =>
    cases same
    exact other rest rfl

/-- A keyword of two words is found again in a longer text. It is found anew only if its second word is added behind
blanks. -/
theorem pair?_append (named : second ≠ [])
    (apart : word = first → blank rest = true → (more.dropWhile isBlank).takeWhile isWord ≠ second) :
    pair? first second word (rest ++ more) =
      (pair? first second word rest).map fun found => (found.1, found.2 ++ more) := by
  by_cases same : word = first
  · obtain ⟨blanks, core, rfl, spaces, start⟩ := exists_run isBlank rest
    cases core with
    | nil =>
      rw [List.append_nil] at apart ⊢
      rw [pair?_blank named spaces, pair?, if_pos same]
      simp only [List.dropWhile_append_of_pos spaces]
      exact if_neg fun both => apart same (List.all_eq_true.2 spaces) both.2
    | cons d core =>
      have far : ∀ e ∈ (d :: core ++ more).head?, isBlank e = false := start
      rw [List.append_assoc, pair?, pair?, if_pos same, if_pos same]
      simp only [takeWhile_run spaces far, dropWhile_run spaces far, takeWhile_run spaces start,
        dropWhile_run spaces start, takeWhile_append_stop (gap_stops gap), dropWhile_append_stop (gap_stops gap)]
      split <;> rfl
  · rw [pair?, pair?, if_neg same, if_neg same]
    rfl

theorem ofWord_append (found : ofWord word rest = ((text, token), after))
    (apart : blank after = true → ∀ second, token.Fuses second →
      (more.dropWhile isBlank).takeWhile isWord ≠ second.describe.toList) :
    ofWord word (rest ++ more) = ((text, token), after ++ more) := by
  -- where a keyword could come about only now, the word was read on its own
  have ordering : pair? "ORDER".toList "BY".toList word (rest ++ more) =
      (pair? "ORDER".toList "BY".toList word rest).map fun found => (found.1, found.2 ++ more) := by
    apply pair?_append gap (by decide)
    rintro rfl blanks
    cases found.symm.trans (ofWord_blank (List.all_eq_true.1 blanks))
    exact apart blanks _ .ordering
  have negation : pair? "IS".toList "NOT".toList word (rest ++ more) =
      (pair? "IS".toList "NOT".toList word rest).map fun found => (found.1, found.2 ++ more) := by
    apply pair?_append gap (by decide)
    rintro rfl blanks
    cases found.symm.trans (ofWord_blank (List.all_eq_true.1 blanks))
    exact apart blanks _ .negation
  unfold ofWord at found ⊢
  rw [ordering, negation]
  revert found
  cases pair? "ORDER".toList "BY".toList word rest with
  | some pair =>
    rintro ⟨⟩
    rfl
  | none =>
    cases pair? "IS".toList "NOT".toList word rest <;> rintro ⟨⟩ <;> rfl

theorem next?_append (found : next? c rest = some ((text, token), after))
    (apart : blank after = true → ∀ second, token.Fuses second →
      (more.dropWhile isBlank).takeWhile isWord ≠ second.describe.toList) :
    next? c (rest ++ more) = some ((text, token), after ++ more) := by
  unfold next? at found ⊢
  split at found
  · next word =>
    rw [if_pos word, takeWhile_append_stop (gap_stops gap), dropWhile_append_stop (gap_stops gap),
      ofWord_append gap (Option.some.inj found) apart]
  · next plain =>
    rw [if_neg plain]
    split at found
    · exact quoted?_append found more
    case h_5 other | h_6 other =>
      cases found
      -- with `shape` at hand, the operator of two characters is passed over
      have shape := add_unequal gap other
      simp
    all_goals
      cases found
    all_goals rfl

theorem idle_append (idle : Idle c rest) (other : c ≠ '"') : Idle c (rest ++ more) where
  word := idle.word
  mark := idle.mark
  exclamation same head := by
    obtain ⟨behind, shape⟩ := List.head?_eq_some_iff.1 head
    refine add_unequal gap (fun behind shape => idle.exclamation same ?_) behind shape
    rw [shape]
    rfl
  quote same := absurd same other

end Added

theorem Spells.of_part (spells : Spells text token)
    (part : (∃ second, token.Fuses second) ∨ ∃ first, Token.Fuses first token) : text = token.describe.toList := by
  cases spells with
  | plain same => exact same.symm
  | orderBy | isNot => obtain ⟨_, fuses⟩ | ⟨_, fuses⟩ := part <;> cases fuses

theorem ofWord_second {first second : Token} (fuses : first.Fuses second)
    (found : ofWord word rest = ((text, token), after)) : token = second ↔ word = second.describe.toList := by
  constructor
  · rintro rfl
    unfold ofWord at found
    split at found
    · cases found
      cases fuses
    · split at found
      · cases found
        cases fuses
      · cases found
        rw [Token.describe_ofWord, String.toList_ofList]
  · rintro rfl
    cases fuses <;> cases found <;> rfl

/-- The second word of a keyword is read where it stands as a whole word, and nowhere else. -/
theorem next?_second {first second : Token} (fuses : first.Fuses second)
    (found : next? c rest = some ((text, token), after)) :
    token = second ↔ (c :: rest).takeWhile isWord = second.describe.toList := by
  by_cases word : isWord c = true
  · unfold next? at found
    rw [if_pos word, Option.some.injEq] at found
    rw [List.takeWhile_cons_of_pos word, ofWord_second fuses found]
  · rw [List.takeWhile_cons_of_neg word]
    constructor
    · rintro rfl
      obtain ⟨spells, whole⟩ := next?_spells found
      rw [spells.of_part (.inr ⟨first, fuses⟩)] at whole
      cases fuses <;> cases whole <;> exact absurd rfl word
    · intro empty
      cases fuses <;> cases empty

end Lexeme

namespace Scan

def Ends (scan : Scan) (token : Token) : Prop :=
  ∃ lexeme ∈ scan.lexemes.getLast?, lexeme.token = token ∧ blank scan.tail = true

def Begins (scan : Scan) (token : Token) : Prop :=
  ∃ lexeme ∈ scan.lexemes.head?, lexeme.token = token ∧ blank lexeme.gap = true

instance (scan : Scan) (token : Token) : Decidable (scan.Ends token) :=
  inferInstanceAs (Decidable (∃ lexeme ∈ scan.lexemes.getLast?, lexeme.token = token ∧ blank scan.tail = true))

instance (scan : Scan) (token : Token) : Decidable (scan.Begins token) :=
  inferInstanceAs (Decidable (∃ lexeme ∈ scan.lexemes.head?, lexeme.token = token ∧ blank lexeme.gap = true))

variable {c : Char} {rest text after more : List Char} {token : Token}

theorem ofChars_blank (all : ∀ c ∈ text, isBlank c = true) : ofChars text = ⟨[], text⟩ := by
  induction text with
  | nil => simp [ofChars]
  | cons c rest ih =>
    rw [List.forall_mem_cons] at all
    rw [ofChars_skip (Lexeme.next?_blank all.1), ih all.2]
    rfl

theorem ends_skip {scan : Scan} : (scan.skip c).Ends token ↔ scan.Ends token := by
  obtain ⟨lexemes, tail⟩ := scan
  cases lexemes with
  | nil => simp [skip, Ends]
  | cons lexeme lexemes =>
    cases lexemes with
    | nil => simp [skip, Ends]
    | cons next lexemes => simp [skip, Ends]

theorem ends_found {last : Token} (found : Lexeme.next? c rest = some ((text, token), after)) :
    (ofChars (c :: rest)).Ends last ↔ token = last ∧ blank after = true ∨ (ofChars after).Ends last := by
  have whole := chars_ofChars after
  rw [ofChars_found found]
  cases scan : ofChars after with
  | mk lexemes tail =>
    rw [scan] at whole
    cases lexemes with
    | nil =>
      have same : tail = after := whole
      simp [Ends, same]
    | cons lexeme lexemes =>
      have filled : blank after ≠ true := by
        intro all
        rw [ofChars_blank (List.all_eq_true.1 all)] at scan
        cases scan
      simp [Ends, filled]

theorem begins_skip (mark : isBlank c = true) {scan : Scan} : (scan.skip c).Begins token ↔ scan.Begins token := by
  obtain ⟨lexemes, tail⟩ := scan
  cases lexemes with
  | nil => simp [skip, Begins]
  | cons lexeme lexemes => simp [skip, Begins, blank, mark]

theorem kept_blanks {motive : Scan → Prop} {blanks core : List Char} (all : ∀ c ∈ blanks, isBlank c = true)
    (skips : ∀ c scan, isBlank c = true → motive scan → motive (scan.skip c)) (start : motive (ofChars core)) :
    motive (ofChars (blanks ++ core)) := by
  induction blanks with
  | nil => exact start
  | cons c blanks ih =>
    rw [List.forall_mem_cons] at all
    rw [List.cons_append, ofChars_skip (Lexeme.next?_blank all.1)]
    exact skips c _ all.1 (ih all.2)

theorem begins_blanks {blanks core : List Char} (all : ∀ c ∈ blanks, isBlank c = true) :
    (ofChars (blanks ++ core)).Begins token ↔ (ofChars core).Begins token :=
  kept_blanks (motive := fun scan => scan.Begins token ↔ (ofChars core).Begins token) all
    (fun _ _ mark same => (begins_skip mark).trans same) .rfl

theorem tokens_blanks {blanks core : List Char} (all : ∀ c ∈ blanks, isBlank c = true) :
    (ofChars (blanks ++ core)).tokens = (ofChars core).tokens :=
  kept_blanks (motive := fun scan => scan.tokens = (ofChars core).tokens) all
    (fun c scan _ same => (tokens_skip c scan).trans same) rfl

theorem begins_found {first : Token} (found : Lexeme.next? c rest = some ((text, token), after)) :
    (ofChars (c :: rest)).Begins first ↔ token = first := by
  rw [ofChars_found found]
  simp [Begins, blank]

theorem begins_idle {first : Token} (absent : Lexeme.next? c rest = none) (mark : isBlank c = false) :
    ¬(ofChars (c :: rest)).Begins first := by
  rw [ofChars_skip absent]
  cases ofChars rest with
  | mk lexemes tail => cases lexemes <;> simp [skip, Begins, blank, mark]

/-- A text begins with the second word of a keyword if that is its first word, behind blanks at most. -/
theorem begins_iff {first second : Token} (fuses : first.Fuses second) (text : List Char) :
    (ofChars text).Begins second ↔ (text.dropWhile isBlank).takeWhile isWord = second.describe.toList := by
  obtain ⟨blanks, core, rfl, spaces, start⟩ := exists_run isBlank text
  rw [begins_blanks spaces, dropWhile_run spaces start]
  have named : second.describe.toList ≠ [] := by
    cases fuses <;> decide
  cases core with
  | nil => simp [ofChars, Begins, named.symm]
  | cons c core =>
    cases found : Lexeme.next? c core with
    | none =>
      rw [List.takeWhile_cons_of_neg (Bool.eq_false_iff.1 (Lexeme.next?_eq_none.1 found).word)]
      exact iff_of_false (begins_idle found (start c rfl)) named.symm
    | some lexeme => rw [begins_found found, Lexeme.next?_second fuses found]

theorem tokens_fused {second : Token} (fuses : token.Fuses second)
    (found : Lexeme.next? c rest = some ((text, token), after)) (blanks : blank after = true)
    (gap : ∃ d ∈ more.head?, isBlank d = true) (begins : (ofChars more).Begins second) :
    ∃ keyword others, keyword ≠ token ∧ (ofChars (c :: rest ++ more)).tokens = keyword :: others := by
  obtain ⟨spells, whole⟩ := Lexeme.next?_spells found
  obtain ⟨spaces, core, rfl, inside, start⟩ := exists_run isBlank more
  obtain ⟨name, tail, rfl, words, stop⟩ := exists_run isWord core
  rw [begins_iff fuses, dropWhile_run inside start, takeWhile_run words stop] at begins
  have filled : after ++ spaces ≠ [] := by
    intro none
    obtain ⟨_, rfl⟩ := List.append_eq_nil_iff.1 none
    obtain ⟨d, head, mark⟩ := gap
    rw [start d head] at mark
    cases mark
  have all : blank (after ++ spaces) = true := by
    rw [blank, List.all_append, Bool.and_eq_true]
    exact ⟨blanks, List.all_eq_true.2 inside⟩
  obtain ⟨keyword, other, reads⟩ := fuses.reads filled all stop
  refine ⟨keyword, (ofChars tail).tokens, other, ?_⟩
  have written : c :: rest ++ (spaces ++ (name ++ tail)) =
      token.describe.toList ++ (after ++ spaces) ++ second.describe.toList ++ tail := by
    rw [whole, spells.of_part (.inl ⟨second, fuses⟩), begins]
    simp only [List.append_assoc]
  rw [written, tokens_of_reads reads]

/-- What is read of two texts together is what is read of each, unless a keyword comes about between them. -/
def Seam (a more : List Char) : Prop :=
  (ofChars (a ++ more)).tokens = (ofChars a).tokens ++ (ofChars more).tokens ↔
    ∀ first second, (ofChars a).Ends first → (ofChars more).Begins second → first.Apart second

theorem seam_found (found : Lexeme.next? c rest = some ((text, token), after))
    (gap : ∃ d ∈ more.head?, isBlank d = true) (seam : Seam after more) : Seam (c :: rest) more := by
  unfold Seam at seam ⊢
  simp only [ends_found found]
  by_cases fused : blank after = true ∧ ∃ second, token.Fuses second ∧ (ofChars more).Begins second
  · obtain ⟨blanks, second, fuses, begins⟩ := fused
    obtain ⟨keyword, others, other, read⟩ := tokens_fused fuses found blanks gap begins
    apply iff_of_false
    · intro same
      rw [read, ofChars_found found] at same
      exact other (List.cons.inj same).1
    · intro apart
      exact Token.apart_iff.1 (apart token second (.inl ⟨rfl, blanks⟩) begins) fuses
  · have longer := Lexeme.next?_append gap found fun blanks second fuses begins =>
      fused ⟨blanks, second, fuses, (begins_iff fuses more).2 begins⟩
    have tokens : (ofChars (c :: rest ++ more)).tokens = (ofChars (c :: rest)).tokens ++ (ofChars more).tokens ↔
        (ofChars (after ++ more)).tokens = (ofChars after).tokens ++ (ofChars more).tokens := by
      rw [List.cons_append, ofChars_found longer, ofChars_found found]
      exact List.cons_inj_right token
    rw [tokens, seam]
    constructor
    · rintro apart first second (⟨rfl, blanks⟩ | ends) begins
      · exact Token.apart_iff.2 fun fuses => fused ⟨blanks, second, fuses, begins⟩
      · exact apart first second ends begins
    · intro apart first second ends begins
      exact apart first second (.inr ends) begins

theorem seam_idle (absent : Lexeme.next? c rest = none) (other : c ≠ '"') (gap : ∃ d ∈ more.head?, isBlank d = true)
    (seam : Seam rest more) : Seam (c :: rest) more := by
  have still : Lexeme.next? c (rest ++ more) = none :=
    Lexeme.next?_eq_none.2 (Lexeme.idle_append gap (Lexeme.next?_eq_none.1 absent) other)
  unfold Seam at seam ⊢
  rw [List.cons_append, ofChars_skip still, ofChars_skip absent, tokens_skip, tokens_skip]
  simp only [ends_skip]
  exact seam

/-- A gap that grows holds the character that it grows by. -/
theorem closed_skip {scan : Scan} (closed : ∀ gap ∈ (scan.skip c).gaps, '"' ∉ gap) :
    c ≠ '"' ∧ ∀ gap ∈ scan.gaps, '"' ∉ gap := by
  obtain ⟨lexemes, tail⟩ := scan
  cases lexemes <;> simp_all [skip, gaps, eq_comm]

theorem seam_of_closed {a : List Char} (closed : ∀ gap ∈ (ofChars a).gaps, '"' ∉ gap)
    (gap : ∃ d ∈ more.head?, isBlank d = true) : Seam a more := by
  induction a using ofChars.induct with
  | case1 => simp [Seam, ofChars, tokens, Ends]
  | case2 c rest text token after found ih =>
    rw [ofChars_found found, gaps_cons, List.forall_mem_cons] at closed
    exact seam_found found gap (ih closed.2)
  | case3 c rest absent ih =>
    rw [ofChars_skip absent] at closed
    obtain ⟨other, closed⟩ := closed_skip closed
    exact seam_idle absent other gap (ih closed)

end Scan

/-- Two texts with blanks between them are read one after the other, if no quote is left open in the first. Only where it
ends with the first word of a keyword and the other begins with the second word, the two are read as that keyword. -/
theorem Token.tokenize_local {a blanks b : String} (closed : ∀ gap ∈ (scan a).gaps, '"' ∉ gap) (filled : blanks ≠ "")
    (all : ∀ c ∈ blanks.toList, isBlank c = true) :
    tokenize (a ++ blanks ++ b) = tokenize a ++ tokenize b ↔
      ∀ first second, (scan a).Ends first → (scan b).Begins second → first.Apart second := by
  have gap : ∃ d ∈ (blanks.toList ++ b.toList).head?, isBlank d = true := by
    cases shape : blanks.toList with
    | nil => exact absurd (String.toList_eq_nil_iff.1 shape) filled
    | cons d more =>
      rw [shape, List.forall_mem_cons] at all
      exact ⟨d, rfl, all.1⟩
  have seam := Scan.seam_of_closed closed gap
  rw [Scan.Seam, Scan.tokens_blanks all] at seam
  simp only [Scan.begins_blanks all] at seam
  rw [tokenize, tokenize, tokenize, scan, scan, scan, String.toList_append, String.toList_append, List.append_assoc]
  exact seam

def openText : String := "a != \"x (\" ; ! ORDER\n"

theorem openText_local :
    (∀ gap ∈ (Token.scan openText).gaps, '"' ∉ gap) ∧
      Token.tokenize (openText ++ "\t " ++ "  BYE IS") = Token.tokenize openText ++ Token.tokenize "  BYE IS" ∧
      Token.tokenize (openText ++ "\t " ++ "  BY id") ≠ Token.tokenize openText ++ Token.tokenize "  BY id" := by
  have closed : ∀ gap ∈ (Token.scan openText).gaps, '"' ∉ gap := by decide +kernel
  have all : ∀ c ∈ "\t ".toList, isBlank c = true := List.all_eq_true.1 (by decide)
  refine ⟨closed, ?_, ?_⟩
  · refine (Token.tokenize_local closed (by decide) all).2 ?_
    rintro first second _ ⟨lexeme, head, rfl, _⟩
    have begins : (Token.scan "  BYE IS").lexemes.head?.map Lexeme.token = some (.word "BYE") := by decide +kernel
    rw [Option.mem_def.1 head] at begins
    rw [Option.some.inj begins]
    exact ⟨fun both => Token.noConfusion both.2, fun both => absurd both.2 (by decide)⟩
  · intro same
    have apart := (Token.tokenize_local closed (by decide) all).1 same (.word "ORDER") (.word "BY") (by decide +kernel)
      (by decide +kernel)
    exact apart.ordering ⟨rfl, rfl⟩

end IssueQuery
