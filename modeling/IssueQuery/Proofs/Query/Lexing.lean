import IssueQuery.Query.Lexer
import IssueQuery.Query.Printer
import IssueQuery.Proofs.Text.Runs
import Mathlib.Data.List.Chain

/-!
Spelling and lexing. Tokens spelled with one space between each two are read back one by one, unless two of
them make up a keyword of two words.
-/

namespace IssueQuery

open Text

namespace Token

/-- The spelling is read as this token: a word is no keyword, a quoted text is not empty and holds no quote. -/
def Spellable : Token → Prop
  | word name => name ≠ "" ∧ (∀ c ∈ name.toList, isWord c = true) ∧ ofWord name = word name
  | quoted inner => inner ≠ "" ∧ '"' ∉ inner.toList
  | _ => True

/-- The spellings stay two tokens when only blanks stand between them. -/
structure Apart (a b : Token) : Prop where
  negation : ¬(a = operator .is ∧ b = marker .not)
  ordering : ¬(a = word "ORDER" ∧ b = word "BY")

def spaced (tokens : List Token) : List Char :=
  tokens.flatMap fun token => ' ' :: token.describe.toList

theorem spaced_cons (token : Token) (rest : List Token) :
    spaced (token :: rest) = ' ' :: (token.describe.toList ++ spaced rest) := rfl

theorem spell_cons (token : Token) (rest : List Token) :
    (spell (token :: rest)).toList = token.describe.toList ++ spaced rest := by
  rw [spell, String.toList_intercalate]
  induction rest generalizing token with
  | nil => simp [spaced]
  | cons next rest ih =>
    have later := ih next
    simp only [List.map_cons, List.intercalate_cons_cons] at later ⊢
    rw [later, spaced_cons]
    simp

theorem spaced_stops (tokens : List Token) : ∀ c ∈ (spaced tokens).head?, isWord c = false := by
  intro c head
  cases tokens with
  | nil => cases head
  | cons token rest =>
    cases head
    decide

def leading (token : Token) : List Char :=
  token.describe.toList.takeWhile isWord

theorem quoted_describe (inner : String) :
    (quoted inner).describe.toList = '"' :: (inner.toList ++ ['"']) := by
  simp [describe]

theorem describe_start {token : Token} (spellable : token.Spellable) :
    ∃ c more, token.describe.toList = c :: more ∧ isBlank c = false := by
  cases token with
  | word name =>
    obtain ⟨filled, inside, -⟩ := spellable
    cases shape : name.toList with
    | nil => exact absurd (String.toList_eq_nil_iff.1 shape) filled
    | cons c more => exact ⟨c, more, shape, isBlank_of_word (inside c (by simp [shape]))⟩
  | quoted inner => exact ⟨'"', _, quoted_describe inner, by decide⟩
  | operator op => cases op <;> exact ⟨_, _, rfl, by decide⟩
  | marker m => cases m <;> exact ⟨_, _, rfl, by decide⟩
  | punct p => cases p <;> exact ⟨_, _, rfl, by decide⟩
  | order keyword => cases keyword <;> exact ⟨_, _, rfl, by decide⟩

theorem leading_word {name : String} (spellable : (word name).Spellable) :
    (word name).leading = name.toList :=
  List.takeWhile_eq_self_iff.2 spellable.2.1

theorem leading_not {token : Token} (spellable : token.Spellable) (starts : token.leading = "NOT".toList) :
    token = marker .not := by
  cases token with
  | word name =>
    rw [leading_word spellable, String.toList_inj] at starts
    have keyword := spellable.2.2
    rw [starts] at keyword
    cases keyword
  | quoted inner =>
    rw [leading, quoted_describe] at starts
    cases starts
  | operator op => cases op <;> cases starts
  | marker m =>
    cases m with
    | not => rfl
    | and | or => cases starts
  | punct p => cases p <;> cases starts
  | order keyword => cases keyword <;> cases starts

theorem leading_by {token : Token} (spellable : token.Spellable) (starts : token.leading = "BY".toList) :
    token = word "BY" := by
  cases token with
  | word name => rw [String.toList_inj.1 ((leading_word spellable).symm.trans starts)]
  | quoted inner =>
    rw [leading, quoted_describe] at starts
    cases starts
  | operator op => cases op <;> cases starts
  | marker m => cases m <;> cases starts
  | punct p => cases p <;> cases starts
  | order keyword => cases keyword <;> cases starts

end Token

namespace Lexeme

theorem next?_run {c : Char} {more tail : List Char} (inside : ∀ d ∈ c :: more, isWord d = true)
    (stop : ∀ d ∈ tail.head?, isWord d = false) : next? c (more ++ tail) = some (ofWord (c :: more) tail) := by
  have within : ∀ d ∈ more, isWord d = true := fun d member => inside d (List.mem_cons_of_mem c member)
  unfold next?
  rw [if_pos (inside c List.mem_cons_self), takeWhile_run within stop, dropWhile_run within stop]

/-- After the first word of a pair, its second word is what the next token starts with or is not there. -/
theorem pair?_spaced {first second word : List Char} {rest : List Token}
    (spellable : ∀ b ∈ rest.head?, b.Spellable)
    (other : word = first → ∀ b ∈ rest.head?, b.leading ≠ second) :
    pair? first second word (Token.spaced rest) = none := by
  by_cases same : word = first
  · cases rest with
    | nil => simp [pair?, Token.spaced]
    | cons b rest =>
      obtain ⟨c, more, shape, mark⟩ := Token.describe_start (spellable b rfl)
      have blanks : (Token.spaced (b :: rest)).dropWhile isBlank = b.describe.toList ++ Token.spaced rest := by
        rw [Token.spaced_cons, List.dropWhile_cons_of_pos (by decide), shape, List.cons_append,
          List.dropWhile_cons_of_neg (by simp [mark])]
      have leads : (b.describe.toList ++ Token.spaced rest).takeWhile isWord = b.leading :=
        takeWhile_append_stop (Token.spaced_stops rest) _
      rw [pair?, if_pos same]
      simp only [blanks, leads]
      rw [if_neg fun both => other same b rfl both.2]
  · rw [pair?, if_neg same]

theorem ofWord_spaced {token : Token} {word : List Char} {rest : List Token}
    (reads : Token.ofWord (String.ofList word) = token) (spellable : ∀ b ∈ rest.head?, b.Spellable)
    (apart : ∀ b ∈ rest.head?, token.Apart b) :
    ofWord word (Token.spaced rest) = ((word, token), Token.spaced rest) := by
  -- either pair would need its second word behind the first, and those tokens are apart
  have ordering : pair? "ORDER".toList "BY".toList word (Token.spaced rest) = none := by
    apply pair?_spaced spellable
    intro same b head starts
    rw [same] at reads
    exact (apart b head).ordering ⟨reads.symm, Token.leading_by (spellable b head) starts⟩
  have negation : pair? "IS".toList "NOT".toList word (Token.spaced rest) = none := by
    apply pair?_spaced spellable
    intro same b head starts
    rw [same] at reads
    exact (apart b head).negation ⟨reads.symm, Token.leading_not (spellable b head) starts⟩
  rw [ofWord, ordering, negation]
  simp only [reads]

def Reads (text : List Char) (token : Token) (tail : List Char) : Prop :=
  ∃ c more, text = c :: more ∧ next? c (more ++ tail) = some ((text, token), tail)

theorem reads_word {token : Token} {word : List Char} {rest : List Token} (filled : word ≠ [])
    (inside : word.all isWord = true) (reads : Token.ofWord (String.ofList word) = token)
    (spellable : ∀ b ∈ rest.head?, b.Spellable) (apart : ∀ b ∈ rest.head?, token.Apart b) :
    Reads word token (Token.spaced rest) := by
  cases word with
  | nil => exact absurd rfl filled
  | cons c more =>
    refine ⟨c, more, rfl, ?_⟩
    rw [next?_run (List.all_eq_true.1 inside) (Token.spaced_stops rest), ofWord_spaced reads spellable apart]

theorem reads_quoted {inner : String} (spellable : (Token.quoted inner).Spellable) (tail : List Char) :
    Reads (Token.quoted inner).describe.toList (.quoted inner) tail := by
  obtain ⟨filled, plain⟩ := spellable
  have inside : ∀ c ∈ inner.toList, (c != '"') = true := by
    intro c member
    rw [bne_iff_ne]
    exact fun same => plain (same ▸ member)
  have stop : ∀ c ∈ ('"' :: tail).head?, (c != '"') = false := by
    intro c head
    cases head
    decide
  refine ⟨'"', inner.toList ++ ['"'], Token.quoted_describe inner, ?_⟩
  unfold next?
  rw [if_neg (by decide), List.append_assoc, List.singleton_append]
  simp only [quoted?, dropWhile_run inside stop, takeWhile_run inside stop]
  rw [if_neg (fun empty => filled (String.toList_eq_nil_iff.1 empty)), String.ofList_toList,
    Token.quoted_describe]
  rfl

section Pairs

variable {blanks tail : List Char} (filled : blanks ≠ []) (all : blank blanks = true)

include filled all

theorem reads_pair {c : Char} {more second : List Char} {token : Token} (inside : (c :: more).all isWord = true)
    (pairs : ofWord (c :: more) (blanks ++ (second ++ tail)) = ((c :: more ++ blanks ++ second, token), tail)) :
    Reads (c :: more ++ blanks ++ second) token tail := by
  have ends : ∀ d ∈ (blanks ++ (second ++ tail)).head?, isWord d = false := by
    obtain ⟨d, others, rfl⟩ := List.exists_cons_of_ne_nil filled
    intro e head
    cases head
    exact isWord_of_blank (List.all_eq_true.1 all d List.mem_cons_self)
  refine ⟨c, more ++ blanks ++ second, rfl, ?_⟩
  rw [List.append_assoc, List.append_assoc, next?_run (List.all_eq_true.1 inside) ends, pairs]

variable (stop : ∀ c ∈ tail.head?, isWord c = false)

include stop

theorem pair?_spelled {first second : List Char} (named : second ≠ []) (inside : second.all isWord = true) :
    pair? first second first (blanks ++ (second ++ tail)) = some (first ++ blanks ++ second, tail) := by
  have words := List.all_eq_true.1 inside
  have spaces := List.all_eq_true.1 all
  have ends : ∀ c ∈ (second ++ tail).head?, isBlank c = false := by
    obtain ⟨c, more, rfl⟩ := List.exists_cons_of_ne_nil named
    intro d head
    cases head
    exact isBlank_of_word (words c List.mem_cons_self)
  rw [pair?, if_pos rfl]
  simp only [takeWhile_run spaces ends, dropWhile_run spaces ends, takeWhile_run words stop, dropWhile_run words stop]
  rw [if_pos ⟨filled, trivial⟩]

theorem reads_orderBy : Reads ("ORDER".toList ++ blanks ++ "BY".toList) (.order .orderBy) tail := by
  have pair : pair? "ORDER".toList "BY".toList "ORDER".toList (blanks ++ ("BY".toList ++ tail)) =
      some ("ORDER".toList ++ blanks ++ "BY".toList, tail) :=
    pair?_spelled filled all stop (by decide) (by decide)
  change Reads ('O' :: "RDER".toList ++ blanks ++ "BY".toList) _ _
  apply reads_pair filled all (by decide)
  change ofWord "ORDER".toList _ = _
  rw [ofWord, pair]
  rfl

theorem reads_isNot : Reads ("IS".toList ++ blanks ++ "NOT".toList) (.operator .isNot) tail := by
  have other : pair? "ORDER".toList "BY".toList "IS".toList (blanks ++ ("NOT".toList ++ tail)) = none :=
    if_neg (by decide)
  have pair : pair? "IS".toList "NOT".toList "IS".toList (blanks ++ ("NOT".toList ++ tail)) =
      some ("IS".toList ++ blanks ++ "NOT".toList, tail) :=
    pair?_spelled filled all stop (by decide) (by decide)
  change Reads ('I' :: "S".toList ++ blanks ++ "NOT".toList) _ _
  apply reads_pair filled all (by decide)
  change ofWord "IS".toList _ = _
  rw [ofWord, other, pair]
  rfl

end Pairs

theorem reads_describe {token : Token} {rest : List Token} (fit : token.Spellable)
    (spellable : ∀ b ∈ rest.head?, b.Spellable) (apart : ∀ b ∈ rest.head?, token.Apart b) :
    Reads token.describe.toList token (Token.spaced rest) := by
  have stop := Token.spaced_stops rest
  cases token with
  | word name =>
    obtain ⟨filled, inside, reads⟩ := fit
    refine reads_word (fun empty => filled (String.toList_eq_nil_iff.1 empty)) (List.all_eq_true.2 inside) ?_ spellable apart
    rw [String.ofList_toList]
    exact reads
  | quoted inner => exact reads_quoted fit _
  | operator op =>
    cases op with
    | isIn | is | contains => exact reads_word (by decide) (by decide) (by decide) spellable apart
    | isNot => exact reads_isNot (List.cons_ne_nil ' ' []) rfl stop
    | eq | ne | gt | lt | ge | le => cases rest <;> exact ⟨_, _, rfl, rfl⟩
  | marker m => cases m <;> exact reads_word (by decide) (by decide) (by decide) spellable apart
  | punct p => cases p <;> exact ⟨_, _, rfl, rfl⟩
  | order keyword =>
    cases keyword with
    | orderBy => exact reads_orderBy (List.cons_ne_nil ' ' []) rfl stop
    | asc | desc => exact reads_word (by decide) (by decide) (by decide) spellable apart

end Lexeme

namespace Scan

theorem tokens_skip (c : Char) (scan : Scan) : (scan.skip c).tokens = scan.tokens := by
  obtain ⟨lexemes, tail⟩ := scan
  cases lexemes <;> rfl

theorem ofChars_found {c : Char} {rest text after : List Char} {token : Token}
    (found : Lexeme.next? c rest = some ((text, token), after)) :
    ofChars (c :: rest) = ⟨⟨[], text, token⟩ :: (ofChars after).lexemes, (ofChars after).tail⟩ := by
  rw [ofChars]
  split
  · next same =>
    rw [found] at same
    cases same
    rfl
  · next absent =>
    rw [found] at absent
    cases absent

theorem ofChars_skip {c : Char} {rest : List Char} (absent : Lexeme.next? c rest = none) :
    ofChars (c :: rest) = (ofChars rest).skip c := by
  rw [ofChars]
  split
  · next found =>
    rw [absent] at found
    cases found
  · rfl

theorem tokens_of_reads {text tail : List Char} {token : Token} (reads : Lexeme.Reads text token tail) :
    (ofChars (text ++ tail)).tokens = token :: (ofChars tail).tokens := by
  obtain ⟨c, more, rfl, found⟩ := reads
  rw [List.cons_append, ofChars_found found]
  rfl

theorem tokens_space (rest : List Char) : (ofChars (' ' :: rest)).tokens = (ofChars rest).tokens := by
  rw [ofChars_skip rfl, tokens_skip]

end Scan

namespace Token

/-- The induction is on the tokens: each is read whatever tokens follow it. -/
theorem tokens_spaced {tokens : List Token} (spellable : ∀ token ∈ tokens, token.Spellable)
    (apart : tokens.IsChain Apart) : (Scan.ofChars (spaced tokens)).tokens = tokens := by
  induction tokens with
  | nil => simp [spaced, Scan.ofChars, Scan.tokens]
  | cons token rest ih =>
    obtain ⟨next, later⟩ := List.isChain_cons.1 apart
    have fit := List.forall_mem_cons.1 spellable
    have reads : Lexeme.Reads token.describe.toList token (spaced rest) :=
      Lexeme.reads_describe fit.1 (fun b head => fit.2 b (List.mem_of_mem_head? head)) next
    rw [spaced_cons, Scan.tokens_space, Scan.tokens_of_reads reads, ih fit.2 later]

theorem tokenize_spell_eq (tokens : List Token) : tokenize (spell tokens) = (Scan.ofChars (spaced tokens)).tokens := by
  cases tokens with
  | nil => rfl
  | cons token rest => rw [spaced_cons, Scan.tokens_space, ← spell_cons, tokenize, scan]

/-- Tokens are read back from their spellings. -/
theorem tokenize_spell {tokens : List Token} (spellable : ∀ token ∈ tokens, token.Spellable)
    (apart : tokens.IsChain Apart) : tokenize (spell tokens) = tokens := by
  rw [tokenize_spell_eq, tokens_spaced spellable apart]

def IsWritable (text : String) : Prop :=
  text ≠ "" ∧ '"' ∉ text.toList

theorem Spellable.text_writable {token : Token} (spellable : token.Spellable) : IsWritable token.text := by
  cases token with
  | word name =>
    obtain ⟨filled, inside, -⟩ := spellable
    exact ⟨filled, fun member => absurd (inside _ member) (by decide)⟩
  | quoted inner => exact spellable
  | operator op => cases op <;> exact ⟨by decide, by decide⟩
  | marker m => cases m <;> exact ⟨by decide, by decide⟩
  | punct p => cases p <;> exact ⟨by decide, by decide⟩
  | order keyword => cases keyword <;> exact ⟨by decide, by decide⟩

theorem spellable_ofWord {name : String} (filled : name ≠ "") (inside : ∀ c ∈ name.toList, isWord c = true) :
    (ofWord name).Spellable := by
  fun_cases ofWord name with
  | case9 => exact ⟨filled, inside, by simp_all [ofWord]⟩
  | _ => trivial

theorem quoted?_spellable {rest text after : List Char} {token : Token}
    (found : Lexeme.quoted? rest = some ((text, token), after)) : token.Spellable := by
  unfold Lexeme.quoted? at found
  split at found
  · cases found
  · simp only at found
    split at found
    · cases found
    · next filled =>
      cases found
      constructor
      · intro empty
        have none := congrArg String.toList empty
        rw [String.toList_ofList] at none
        exact filled none
      · rw [String.toList_ofList]
        intro member
        simpa using List.mem_takeWhile_imp member

theorem next?_spellable {c : Char} {rest text after : List Char} {token : Token}
    (found : Lexeme.next? c rest = some ((text, token), after)) : token.Spellable := by
  unfold Lexeme.next? at found
  split at found
  · next word =>
    have run : (ofWord (String.ofList (c :: rest.takeWhile isWord))).Spellable := by
      apply spellable_ofWord
      · intro empty
        have none := congrArg String.toList empty
        rw [String.toList_ofList] at none
        cases none
      · rw [String.toList_ofList]
        intro d member
        rcases List.mem_cons.1 member with rfl | later
        · exact word
        · exact List.mem_takeWhile_imp later
    unfold Lexeme.ofWord at found
    split at found
    · cases found
      trivial
    · split at found
      · cases found
        trivial
      · cases found
        exact run
  · split at found
    · exact quoted?_spellable found
    all_goals
      cases found
    all_goals trivial

/-- Every token read from a text can be spelled. -/
theorem tokenize_spellable (text : String) : ∀ token ∈ tokenize text, token.Spellable := by
  rw [tokenize, scan]
  fun_induction Scan.ofChars text.toList with
  | case1 => simp [Scan.tokens]
  | case2 c rest text token after found scan ih =>
    intro other member
    rcases List.mem_cons.1 member with rfl | later
    · exact next?_spellable found
    · exact ih other later
  | case3 c rest none ih => rwa [Scan.tokens_skip]

end Token

end IssueQuery
