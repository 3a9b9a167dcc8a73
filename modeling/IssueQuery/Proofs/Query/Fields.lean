import IssueQuery.Proofs.Query.Lexing
import IssueQuery.Proofs.Query.Reading

/-!
Fields of queries that were read from text. A bare word may hold marks, connectors and joiners, which no
identifier holds: a query with such a field is read and then refused, and nothing else that was read is.
-/

namespace IssueQuery
open Text

set_option maxRecDepth 4000

def Text.isWordOnly (c : Char) : Bool :=
  isWord c && !(isAlphanumeric c || c == '_')

theorem Text.isWordOnly_kind {c : Char} (only : isWordOnly c = true) :
    (covers markRanges c.toNat || isConnector c || isJoiner c) = true := by
  simp only [isWordOnly, Bool.and_eq_true, Bool.not_eq_true', Bool.or_eq_false_iff] at only
  obtain ⟨word, plain, underscore⟩ := only
  unfold isWord at word
  unfold isAlphanumeric at plain
  split at word
  · next ascii =>
    rw [if_pos ascii] at plain
    rw [plain, underscore] at word
    cases word
  · next beyond =>
    rw [if_neg beyond, Bool.or_eq_false_iff, Bool.or_eq_false_iff] at plain
    obtain ⟨⟨letter, digit⟩, -⟩ := plain
    simpa [letter, digit] using word

def Query.fieldNames (query : Query) : List String :=
  query.predicates.map Predicate.field ++ query.ordering.map SortKey.field

/-! Where a name was read from. -/

theorem Token.Names.isIdentifier_iff {token : Token} {name : String} (names : token.Names name)
    (spellable : token.Spellable) :
    isIdentifier name = true ↔ ∀ c ∈ name.toList, isWordOnly c = false := by
  cases names with
  | word =>
    obtain ⟨filled, inside, -⟩ := spellable
    rw [isIdentifier, Bool.and_eq_true, List.all_eq_true]
    constructor
    · rintro ⟨-, all⟩ c member
      rw [isWordOnly, all c member, Bool.not_true, Bool.and_false]
    · intro none
      refine ⟨by simpa using filled, ?_⟩
      intro c member
      have only := none c member
      rwa [isWordOnly, inside c member, Bool.true_and, Bool.not_eq_false'] at only
  | quoted fit =>
    refine ⟨?_, fun _ => fit⟩
    rw [isIdentifier, Bool.and_eq_true, List.all_eq_true]
    rintro ⟨-, all⟩ c member
    rw [isWordOnly, all c member, Bool.not_true, Bool.and_false]

structure Predicate.ReadFrom (tokens : List Token) (predicate : Predicate) : Prop where
  named : ∃ token ∈ tokens, token.Names predicate.field
  takes : predicate.operator.takes predicate.values.length = true

theorem Predicate.ReadFrom.mono {predicate : Predicate} {tokens more : List Token}
    (read : predicate.ReadFrom tokens) (within : tokens ⊆ more) : predicate.ReadFrom more := by
  obtain ⟨⟨token, member, names⟩, takes⟩ := read
  exact ⟨⟨token, within member, names⟩, takes⟩

theorem Token.AreEntries.some_text {entries : List Token} (fit : AreEntries entries) :
    0 < (entryValues entries).length := by
  obtain ⟨entry, inside, value⟩ := fit.some_value
  rw [entryValues, List.length_map]
  exact List.length_pos_of_mem (List.mem_filter.2 ⟨inside, decide_eq_true value⟩)

theorem Element.Derives.readFrom {tokens : List Token} {elements : List Element} (derived : Derives tokens elements) :
    ∀ p ∈ levelPredicates elements, p.ReadFrom tokens := by
  induction derived with
  | nil =>
    intro p member
    cases member
  | marker m more ih => exact fun p member => (ih p member).mono (by simp)
  | group inner more ihInner ihMore =>
    intro p member
    rcases List.mem_append.1 member with inside | later
    · exact (ihInner p inside).mono fun token within => by simp [within]
    · exact (ihMore p later).mono fun token within => by simp [within]
  | @single token _ _ operator _ _ names plain fit more ih =>
    intro p member
    rcases List.mem_cons.1 member with rfl | later
    · refine ⟨⟨token, by simp, names⟩, ?_⟩
      cases operator with
      | isIn => exact absurd rfl plain
      | _ => rfl
    · exact (ih p later).mono fun token within => by simp [within]
  | @list token _ entries _ _ names fit more ih =>
    intro p member
    rcases List.mem_cons.1 member with rfl | later
    · exact ⟨⟨token, by simp, names⟩, decide_eq_true fit.some_text⟩
    · exact (ih p later).mono fun token within => by simp [within]

theorem SortKey.parseTail_suffix (tokens : List Token) : (parseTail tokens).2 <:+ tokens := by
  fun_cases parseTail tokens with
  | case1 rest | case3 rest => exact (List.suffix_cons _ _).trans (List.suffix_cons _ _)
  | case2 rest | case4 rest | case5 rest => exact List.suffix_cons _ _
  | case6 rest => exact List.suffix_refl _

theorem SortKey.parseAll_named {tokens : List Token} {keys : List SortKey} (parsed : parseAll tokens = .ok keys) :
    ∀ key ∈ keys, ∃ token ∈ tokens, token.Names key.field := by
  fun_induction parseAll tokens generalizing keys with
  | case1 =>
    cases parsed
    simp
  | case2 token rest ih =>
    obtain ⟨field, named, parsed⟩ := ok_of_bind parsed
    obtain ⟨more, later, same⟩ := ok_of_bind parsed
    cases same
    intro key member
    rcases List.mem_cons.1 member with rfl | inside
    · exact ⟨token, List.mem_cons_self, Token.names_of_fieldName named⟩
    · obtain ⟨other, within, names⟩ := ih later key inside
      exact ⟨other, List.mem_cons_of_mem token ((parseTail_suffix rest).subset within), names⟩

/-! What a refusal is about. -/

theorem Predicate.validate_error {predicate : Predicate} {refusal : Failure}
    (takes : predicate.operator.takes predicate.values.length = true)
    (refused : predicate.validate = .error refusal) :
    isIdentifier predicate.field = false ∧ refusal = .invalidQuery (.badFieldName predicate.field) := by
  unfold Predicate.validate at refused
  cases identifier : isIdentifier predicate.field <;> simp_all

theorem SortKey.validate_error {key : SortKey} {refusal : Failure} (refused : key.validate = .error refusal) :
    isIdentifier key.field = false ∧ refusal = .invalidQuery (.badSortField key.field) := by
  unfold SortKey.validate at refused
  cases identifier : isIdentifier key.field <;> simp_all

mutual

theorem Element.validate_error {element : Element} {refusal : Failure}
    (refused : element.validate = .error refusal) : ∃ p ∈ element.predicates, p.validate = .error refusal := by
  cases element with
  | marker m => cases refused
  | predicate p => exact ⟨p, List.mem_singleton.2 rfl, refused⟩
  | group elements => exact Element.validateLevel_error refused

theorem Element.validateLevel_error {elements : List Element} {refusal : Failure}
    (refused : validateLevel elements = .error refusal) :
    ∃ p ∈ levelPredicates elements, p.validate = .error refusal := by
  cases elements with
  | nil => cases refused
  | cons element rest =>
    rcases error_of_bind refused with first | ⟨_, _, later⟩
    · obtain ⟨p, inside, same⟩ := Element.validate_error first
      exact ⟨p, List.mem_append_left _ inside, same⟩
    · obtain ⟨p, inside, same⟩ := Element.validateLevel_error later
      exact ⟨p, List.mem_append_right _ inside, same⟩

end

namespace Query

theorem ordering_error {keys : List SortKey} {refusal : Failure}
    (refused : keys.forM SortKey.validate = .error refusal) : ∃ key ∈ keys, key.validate = .error refusal := by
  induction keys with
  | nil => cases refused
  | cons key rest ih =>
    rw [List.forM_eq_forM, List.forM_cons] at refused
    rcases error_of_bind refused with first | ⟨_, _, later⟩
    · exact ⟨key, List.mem_cons_self, first⟩
    · obtain ⟨other, inside, same⟩ := ih later
      exact ⟨other, List.mem_cons_of_mem key inside, same⟩

/-- A refusal is that of a predicate or of an entry of the ordering. -/
theorem validate_error {query : Query} {refusal : Failure} (refused : query.validate = .error refusal) :
    (∃ p ∈ query.predicates, p.validate = .error refusal) ∨
      ∃ key ∈ query.ordering, key.validate = .error refusal := by
  rcases error_of_bind refused with conditions | ⟨_, _, ordering⟩
  · exact .inl (Element.validateLevel_error conditions)
  · exact .inr (ordering_error ordering)

theorem readFrom_parsed {text : String} {query : Query} (parsed : parse text = .ok query) :
    (∀ p ∈ query.predicates, p.ReadFrom (Token.tokenize text)) ∧
      ∀ key ∈ query.ordering, ∃ token ∈ Token.tokenize text, token.Names key.field := by
  obtain ⟨derived, entries⟩ := derives_of_parse parsed
  have tail : (splitOrdering (Token.tokenize text)).2 ⊆ Token.tokenize text :=
    ((List.drop_suffix _ _).trans (List.dropWhile_suffix _)).subset
  constructor
  · intro p member
    exact (derived.readFrom p member).mono (List.takeWhile_subset _)
  · intro key member
    obtain ⟨token, within, names⟩ := SortKey.parseAll_named entries key member
    exact ⟨token, tail within, names⟩

theorem validate_ok_fieldNames {query : Query}
    (takes : ∀ p ∈ query.predicates, p.operator.takes p.values.length = true) :
    query.validate = .ok () ↔ ∀ name ∈ query.fieldNames, isIdentifier name = true := by
  rw [validate_ok, fieldNames, List.forall_mem_append, List.forall_mem_map, List.forall_mem_map]
  refine and_congr (forall₂_congr ?_) (forall₂_congr fun key _ => SortKey.validate_ok)
  intro p member
  rw [Predicate.validate_ok, takes p member, and_iff_left rfl]

/-- A query that was read is valid if and only if no name of a field holds a character that only bare words may
hold. Otherwise a bare word of the text is refused that holds a mark, a connector or a joiner. -/
theorem validate_parsed {text : String} {query : Query} (parsed : parse text = .ok query) :
    (query.validate = .ok () ↔ ∀ name ∈ query.fieldNames, ∀ c ∈ name.toList, isWordOnly c = false) ∧
      ∀ refusal, query.validate = .error refusal → ∃ name ∈ query.fieldNames,
        Token.word name ∈ Token.tokenize text ∧
        (∃ c ∈ name.toList, (covers markRanges c.toNat || isConnector c || isJoiner c) = true) ∧
        (refusal = .invalidQuery (.badFieldName name) ∨ refusal = .invalidQuery (.badSortField name)) := by
  obtain ⟨predicates, keys⟩ := readFrom_parsed parsed
  have named : ∀ name ∈ query.fieldNames, ∃ token ∈ Token.tokenize text, token.Names name := by
    rw [fieldNames, List.forall_mem_append, List.forall_mem_map, List.forall_mem_map]
    exact ⟨fun p member => (predicates p member).named, keys⟩
  have identifier : ∀ name ∈ query.fieldNames,
      (isIdentifier name = true ↔ ∀ c ∈ name.toList, isWordOnly c = false) := by
    intro name member
    obtain ⟨token, within, names⟩ := named name member
    exact names.isIdentifier_iff (Token.tokenize_spellable text token within)
  constructor
  · rw [validate_ok_fieldNames fun p member => (predicates p member).takes]
    exact forall₂_congr identifier
  · intro refusal refused
    obtain ⟨name, member, bad, about⟩ : ∃ name ∈ query.fieldNames, isIdentifier name = false ∧
        (refusal = .invalidQuery (.badFieldName name) ∨ refusal = .invalidQuery (.badSortField name)) := by
      rcases validate_error refused with ⟨p, member, error⟩ | ⟨key, member, error⟩
      · obtain ⟨bad, same⟩ := Predicate.validate_error (predicates p member).takes error
        exact ⟨p.field, List.mem_append_left _ (List.mem_map_of_mem member), bad, .inl same⟩
      · obtain ⟨bad, same⟩ := SortKey.validate_error error
        exact ⟨key.field, List.mem_append_right _ (List.mem_map_of_mem member), bad, .inr same⟩
    obtain ⟨token, within, names⟩ := named name member
    have only : ∃ c ∈ name.toList, isWordOnly c = true := by
      by_contra none
      push Not at none
      rw [(identifier name member).2 fun c inside => by simpa using none c inside] at bad
      cases bad
    obtain ⟨c, inside, only⟩ := only
    refine ⟨name, member, ?_, ⟨c, inside, isWordOnly_kind only⟩, about⟩
    cases names with
    | word => exact within
    | quoted fit =>
      rw [fit] at bad
      cases bad

end Query

def spelledText : String :=
  "(größe = 1 OR \"m²\" IN (x)) ORDER BY ñ DESC \"AND\""

def spelledQuery : Query where
  conditions := [.group [.predicate ⟨"größe", .eq, ["1"]⟩, .marker .or, .predicate ⟨"m²", .isIn, ["x"]⟩]]
  ordering := [⟨"ñ", .desc⟩, ⟨"AND", .asc⟩]

theorem spelledText_valid : Query.parse spelledText = .ok spelledQuery ∧ spelledQuery.validate = .ok () := by
  have lexed : Token.tokenize spelledText =
      [.punct .openParen, .word "größe", .operator .eq, .word "1", .marker .or, .quoted "m²", .operator .isIn,
        .punct .openParen, .word "x", .punct .closeParen, .punct .closeParen, .order .orderBy, .word "ñ",
        .order .desc, .quoted "AND"] := by
    decide +kernel
  have parsed : Query.parse spelledText = .ok spelledQuery := by
    rw [Query.parse, lexed]
    with_unfolding_all rfl
  have plain : (spelledQuery.fieldNames.all fun name => name.toList.all fun c => !isWordOnly c) = true := by
    decide +kernel
  simp only [List.all_eq_true, Bool.not_eq_true'] at plain
  exact ⟨parsed, (Query.validate_parsed parsed).1.2 plain⟩

/-- A letter with its accent as a mark of its own names a field when the query is read, but not afterwards. -/
theorem accented_field_refused :
    Query.parse "e\u0301 = 1" = .ok ⟨[.predicate ⟨"e\u0301", .eq, ["1"]⟩], []⟩ ∧
      Query.validate ⟨[.predicate ⟨"e\u0301", .eq, ["1"]⟩], []⟩ =
        .error (.invalidQuery (.badFieldName "e\u0301")) := by
  have lexed : Token.tokenize "e\u0301 = 1" = [.word "e\u0301", .operator .eq, .word "1"] := by decide +kernel
  constructor
  · rw [Query.parse, lexed]
    with_unfolding_all rfl
  · decide +kernel

end IssueQuery
