import IssueQuery.Filter.Explain
import IssueQuery.Proofs.Filter.Sharing
import IssueQuery.Proofs.Query.Printed
import IssueQuery.Proofs.Text.Quoted

/-!
Explained values, read as query text. Each comes back as one quoted token, and a list as its tokens in parentheses,
but query text knows no escapes: what comes back is the value as it stands between the quotes.
-/

namespace IssueQuery
open Text

def Text.escapedText (text : String) : String :=
  String.ofList (text.toList.flatMap escaped)

theorem escapedText_eq_iff {text : String} : escapedText text = text ↔ ∀ c ∈ text.toList, IsPlain c := by
  rw [← flatMap_escaped_eq_iff, escapedText, ← String.toList_inj, String.toList_ofList]

theorem quoted_eq_describe (text : String) : quoted text = (Token.quoted (escapedText text)).describe := by
  rw [← String.toList_inj, Token.quoted_describe, quoted, String.toList_ofList, escapedText, String.toList_ofList]
  rfl

/-- What can be written as a value can still be when it is escaped. -/
theorem writable_escapedText {text : String} (writable : Token.IsWritable text) :
    Token.IsWritable (escapedText text) := by
  obtain ⟨filled, plain⟩ := writable
  rw [Token.IsWritable, Ne, ← String.toList_eq_nil_iff, escapedText, String.toList_ofList]
  constructor
  · intro empty
    have length := length_le_escaped text.toList
    rw [empty, List.length_nil, Nat.le_zero_eq, List.length_eq_zero_iff] at length
    exact filled (String.toList_eq_nil_iff.1 length)
  · intro member
    obtain ⟨c, given, inside⟩ := List.mem_flatMap.1 member
    exact quote_not_mem_escaped (fun same => plain (same ▸ given)) inside

namespace ParamValue

def texts : ParamValue → List String
  | scalar value => [value]
  | list values => values

def tokens : ParamValue → List Token
  | scalar value => [.quoted value]
  | list values => .punct .openParen :: Token.valueTokens values ++ [.punct .closeParen]

def escaped : ParamValue → ParamValue
  | scalar value => scalar (escapedText value)
  | list values => list (values.map escapedText)

theorem tokens_inj {a b : ParamValue} (same : a.tokens = b.tokens) : a = b := by
  cases a with
  | scalar value =>
    cases b with
    | scalar other =>
      cases same
      rfl
    | list others => cases same
  | list values =>
    cases b with
    | scalar other => cases same
    | list others =>
      have inside := List.append_cancel_right (List.cons.inj same).2
      rw [← Token.entryValues_valueTokens values, inside, Token.entryValues_valueTokens]

theorem escaped_eq_iff {value : ParamValue} :
    value.escaped = value ↔ ∀ text ∈ value.texts, ∀ c ∈ text.toList, IsPlain c := by
  cases value with
  | scalar value => simp [escaped, texts, escapedText_eq_iff]
  | list values =>
    rw [escaped, list.injEq, texts]
    simp only [← escapedText_eq_iff]
    simpa using @List.map_inj_left _ _ values escapedText id

end ParamValue

namespace Scan

theorem tokens_quoted {text : String} (writable : Token.IsWritable text) (tail : List Char) :
    (ofChars ((quoted text).toList ++ tail)).tokens = .quoted (escapedText text) :: (ofChars tail).tokens := by
  rw [quoted_eq_describe]
  exact tokens_of_reads (Lexeme.reads_quoted (writable_escapedText writable) tail)

theorem tokens_punct (punct : Punct) (tail : List Char) :
    (ofChars (punct.text.toList ++ tail)).tokens = .punct punct :: (ofChars tail).tokens := by
  apply tokens_of_reads
  cases punct <;> exact ⟨_, _, rfl, rfl⟩

theorem tokens_listed {values : List String} (writable : ∀ value ∈ values, Token.IsWritable value)
    (tail : List Char) : (ofChars ((", ".intercalate (values.map quoted)).toList ++ tail)).tokens =
      Token.valueTokens (values.map escapedText) ++ (ofChars tail).tokens := by
  induction values with
  | nil => rfl
  | cons first rest ih =>
    obtain ⟨fit, others⟩ := List.forall_mem_cons.1 writable
    cases rest with
    | nil => simpa [Token.valueTokens_single] using tokens_quoted fit tail
    | cons second rest =>
      have comma := tokens_punct .comma (' ' :: ((", ".intercalate ((second :: rest).map quoted)).toList ++ tail))
      have text : (", ".intercalate ((first :: second :: rest).map quoted)).toList ++ tail = (quoted first).toList ++
          (Punct.comma.text.toList ++ ' ' :: ((", ".intercalate ((second :: rest).map quoted)).toList ++ tail)) := by
        simp [String.toList_intercalate, Punct.text]
      rw [text, tokens_quoted fit, comma, tokens_space, ih others]
      exact congrArg (· ++ _) (Token.valueTokens_cons_cons _ _ _).symm

end Scan

/-- An explained value is read as the tokens of what stands between its quotes. -/
theorem ParamValue.tokenize_explain {value : ParamValue} (writable : ∀ text ∈ value.texts, Token.IsWritable text) :
    Token.tokenize value.explain = value.escaped.tokens := by
  cases value with
  | scalar text =>
    have read := Scan.tokens_quoted (writable text List.mem_cons_self) []
    rw [List.append_nil] at read
    rw [explain, Token.tokenize, Token.scan, read, Scan.ofChars]
    rfl
  | list texts =>
    have text : (explain (.list texts)).toList = Punct.openParen.text.toList ++
        ((", ".intercalate (texts.map quoted)).toList ++ (Punct.closeParen.text.toList ++ [])) := by
      simp [explain, Punct.text]
    have fit : ∀ text ∈ texts, Token.IsWritable text := writable
    rw [Token.tokenize, Token.scan, text, Scan.tokens_punct, Scan.tokens_listed fit, Scan.tokens_punct, Scan.ofChars]
    rfl

theorem texts_numberedParams {index : Nat} {predicates : List Predicate} {param : Param}
    (member : param ∈ numberedParams index predicates) :
    ∀ text ∈ param.value.texts, ∃ p ∈ predicates, text ∈ p.values := by
  intro text given
  obtain ⟨⟨p, i⟩, numbered, inside⟩ := List.mem_flatMap.1 member
  refine ⟨p, List.fst_mem_of_mem_zipIdx numbered, ?_⟩
  simp only [Predicate.params] at inside
  split at inside
  · cases List.mem_singleton.1 inside
    exact given
  · cases inside
  · cases inside
  · obtain ⟨value, head, rfl⟩ := List.mem_map.1 inside
    cases List.mem_singleton.1 given
    exact List.mem_of_mem_head? (Option.mem_toList.1 head)

/-- Read as query text, an explained value gives its tokens as it stands between quotes, so that it gives the value
itself exactly if every character of it is plain: printable, no mark on another character, and no backslash. -/
theorem Query.explained_tokens {text : String} {prepared : Prepared} (accepted : prepare text = .ok prepared)
    {param : Param} (member : param ∈ prepared.filter.params) :
    Token.tokenize param.value.explain = param.value.escaped.tokens ∧
      (Token.tokenize param.value.explain = param.value.tokens ↔
        ∀ value ∈ param.value.texts, ∀ c ∈ value.toList, IsPlain c) := by
  obtain ⟨-, parsed, -, compiled⟩ := prepare_eq_ok.1 accepted
  rw [params_compile compiled] at member
  have read : Token.tokenize param.value.explain = param.value.escaped.tokens := by
    apply ParamValue.tokenize_explain
    intro value given
    obtain ⟨p, inside, held⟩ := texts_numberedParams member value given
    exact parse_writable parsed p inside value held
  refine ⟨read, ?_⟩
  rw [read, ← ParamValue.escaped_eq_iff]
  exact ⟨ParamValue.tokens_inj, congrArg ParamValue.tokens⟩

def slashedText : String :=
  "title = \"a\\b\" status IN (\"x, y\", done)"

theorem slashedText_params : (Query.prepare slashedText).map (fun prepared => prepared.filter.params) =
    .ok [⟨"value0", .scalar "a\\b"⟩, ⟨"values1", .list ["x, y", "done"]⟩] := by
  decide +kernel

theorem slashedText_tokens :
    ∃ prepared, Query.prepare slashedText = .ok prepared ∧
      ⟨"value0", .scalar "a\\b"⟩ ∈ prepared.filter.params ∧
      Token.tokenize (ParamValue.scalar "a\\b").explain ≠ (ParamValue.scalar "a\\b").tokens ∧
      ⟨"values1", .list ["x, y", "done"]⟩ ∈ prepared.filter.params ∧
      Token.tokenize (ParamValue.list ["x, y", "done"]).explain =
        [.punct .openParen, .quoted "x, y", .punct .comma, .quoted "done", .punct .closeParen] := by
  have params := slashedText_params
  cases accepted : Query.prepare slashedText with
  | error refused =>
    rw [accepted] at params
    cases params
  | ok prepared =>
    rw [accepted] at params
    have held : prepared.filter.params = _ := Except.ok.inj params
    have first : ⟨"value0", .scalar "a\\b"⟩ ∈ prepared.filter.params := by simp [held]
    have second : ⟨"values1", .list ["x, y", "done"]⟩ ∈ prepared.filter.params := by simp [held]
    have checked : (["x, y", "done"].all fun value => value.toList.all fun c => decide (IsPlain c)) = true := by
      decide +kernel
    have plain : ∀ value ∈ ["x, y", "done"], ∀ c ∈ value.toList, IsPlain c := by
      simpa only [List.all_eq_true, decide_eq_true_eq] using checked
    refine ⟨prepared, rfl, first, ?_, second, ?_⟩
    · rw [Ne, (Query.explained_tokens accepted first).2]
      exact fun plain => (plain "a\\b" List.mem_cons_self '\\' (by decide)).unescaped rfl
    · exact (Query.explained_tokens accepted second).2.2 plain

/-- The explanation of a value with a backslash is read as another value. -/
theorem backslash_doubled :
    (Query.prepare "title = \"a\\b\"").map (fun prepared => prepared.filter.params) =
        .ok [⟨"value0", .scalar "a\\b"⟩] ∧
      Token.tokenize (ParamValue.scalar "a\\b").explain = [.quoted "a\\\\b"] ∧
      Token.quoted "a\\\\b" ≠ .quoted "a\\b" := by
  decide +kernel

end IssueQuery
