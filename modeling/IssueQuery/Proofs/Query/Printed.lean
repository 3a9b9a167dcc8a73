import IssueQuery.Proofs.Query.Lexing
import IssueQuery.Proofs.Query.Reading
import IssueQuery.Query.Prepare

/-!
Printing and reading again. The printed tokens of a query derive it, none of them runs into its neighbour,
and no parenthesis stands where it would open or close a group that is not there.
-/

namespace IssueQuery

namespace Token

/-- Neighbours in printed text: an operator is followed by a quoted value, or by a parenthesis if it is
`IN`, and no word stands without quotes. -/
structure Follows (a b : Token) : Prop where
  bare : ∀ name, a ≠ .word name
  operand : ∀ op, a = .operator op → (∃ value, b = .quoted value) ∨ op = .isIn ∧ b = .punct .openParen

theorem Follows.apart {a b : Token} (follows : a.Follows b) : a.Apart b := by
  constructor
  · rintro ⟨rfl, rfl⟩
    rcases follows.operand _ rfl with ⟨value, same⟩ | ⟨same, -⟩ <;> cases same
  · exact fun both => follows.bare _ both.1

theorem Follows.clear {a b : Token} (follows : a.Follows b) : a.Clear b := by
  intro op same plain paren
  rcases follows.operand op same with ⟨value, rfl⟩ | ⟨isIn, -⟩
  · rcases paren with quoted | quoted <;> cases quoted
  · exact plain isIn

/-- Tokens that can be spelled one after the other, and before any that can. -/
structure Tidy (tokens : List Token) : Prop where
  spellable : ∀ token ∈ tokens, token.Spellable
  chain : ∀ rest, rest.IsChain Follows → (tokens ++ rest).IsChain Follows

theorem tidy_nil : Tidy [] :=
  ⟨fun _ member => absurd member List.not_mem_nil, fun _ chain => chain⟩

theorem Tidy.append {a b : List Token} (left : Tidy a) (right : Tidy b) : Tidy (a ++ b) := by
  constructor
  · intro token member
    exact (List.mem_append.1 member).elim (left.spellable token) (right.spellable token)
  · intro rest chain
    rw [List.append_assoc]
    exact left.chain _ (right.chain _ chain)

/-- Any token may follow one that is neither a word nor an operator. -/
theorem tidy_single {token : Token} (spellable : token.Spellable) (bare : ∀ name, token ≠ .word name)
    (plain : ∀ op, token ≠ .operator op) : Tidy [token] := by
  constructor
  · exact List.forall_mem_singleton.2 spellable
  · intro rest chain
    exact List.IsChain.cons chain fun _ _ => ⟨bare, fun op same => absurd same (plain op)⟩

theorem tidy_quoted {text : String} (writable : IsWritable text) : Tidy [.quoted text] :=
  tidy_single writable (by simp) (by simp)

theorem tidy_punct (punct : Punct) : Tidy [.punct punct] :=
  tidy_single trivial (by simp) (by simp)

theorem tidy_marker (marker : Marker) : Tidy [.marker marker] :=
  tidy_single trivial (by simp) (by simp)

theorem tidy_order (keyword : OrderKeyword) : Tidy [.order keyword] :=
  tidy_single trivial (by simp) (by simp)

theorem Tidy.operator {next : Token} {rest : List Token} {op : Operator} (tidy : Tidy (next :: rest))
    (operand : (∃ value, next = .quoted value) ∨ op = .isIn ∧ next = .punct .openParen) :
    Tidy (.operator op :: next :: rest) := by
  constructor
  · exact List.forall_mem_cons.2 ⟨trivial, tidy.spellable⟩
  · intro more chain
    apply List.IsChain.cons (tidy.chain more chain)
    intro token head
    cases head
    refine ⟨by simp, fun other same => ?_⟩
    cases same
    exact operand

theorem separated_cons_cons (a b : List Token) (rows : List (List Token)) :
    separated (a :: b :: rows) = a ++ .punct .comma :: separated (b :: rows) := by
  rw [separated, List.intercalate_cons_cons, List.append_assoc]
  rfl

theorem tidy_separated {rows : List (List Token)} (tidy : ∀ row ∈ rows, Tidy row) : Tidy (separated rows) := by
  induction rows with
  | nil => exact tidy_nil
  | cons row rest ih =>
    obtain ⟨first, later⟩ := List.forall_mem_cons.1 tidy
    cases rest with
    | nil => simpa [separated] using first
    | cons next rest =>
      rw [separated_cons_cons]
      exact first.append ((tidy_punct .comma).append (ih later))

def valueTokens (values : List String) : List Token :=
  separated (values.map fun value => [.quoted value])

theorem valueTokens_single (value : String) : valueTokens [value] = [.quoted value] := rfl

theorem valueTokens_cons_cons (first second : String) (rest : List String) :
    valueTokens (first :: second :: rest) =
      .quoted first :: .punct .comma :: valueTokens (second :: rest) :=
  separated_cons_cons [.quoted first] [.quoted second] _

theorem tidy_values {values : List String} (writable : ∀ value ∈ values, IsWritable value) :
    Tidy (valueTokens values) := by
  apply tidy_separated
  intro row member
  obtain ⟨value, given, rfl⟩ := List.mem_map.1 member
  exact tidy_quoted (writable value given)

theorem mem_valueTokens {values : List String} {token : Token} (member : token ∈ valueTokens values) :
    token = .punct .comma ∨ ∃ value, token = .quoted value := by
  induction values with
  | nil => cases member
  | cons first rest ih =>
    cases rest with
    | nil =>
      rw [valueTokens_single, List.mem_singleton] at member
      exact .inr ⟨first, member⟩
    | cons second rest =>
      rw [valueTokens_cons_cons] at member
      simp only [List.mem_cons] at member
      rcases member with rfl | rfl | later
      · exact .inr ⟨first, rfl⟩
      · exact .inl rfl
      · exact ih (by simpa using later)

theorem entryValues_valueTokens (values : List String) : entryValues (valueTokens values) = values := by
  induction values with
  | nil => rfl
  | cons first rest ih =>
    cases rest with
    | nil => rfl
    | cons second rest =>
      rw [valueTokens_cons_cons]
      simpa [entryValues, text] using ih

theorem areEntries_values {values : List String} (filled : values ≠ []) : AreEntries (valueTokens values) := by
  constructor
  · intro token member
    rcases mem_valueTokens member with rfl | ⟨value, rfl⟩ <;> rintro (paren | paren) <;> cases paren
  · obtain ⟨first, rest, rfl⟩ := List.exists_cons_of_ne_nil filled
    refine ⟨.quoted first, ?_, by simp⟩
    cases rest with
    | nil => simp [valueTokens_single]
    | cons second rest => simp [valueTokens_cons_cons]

end Token

theorem isWritable_of_identifier {name : String} (fit : isIdentifier name = true) : Token.IsWritable name := by
  rw [isIdentifier, Bool.and_eq_true, Bool.not_eq_true', List.all_eq_true] at fit
  obtain ⟨filled, inside⟩ := fit
  constructor
  · intro empty
    rw [empty] at filled
    cases filled
  · intro member
    exact absurd (inside _ member) (by decide)

structure Predicate.Printable (predicate : Predicate) : Prop where
  valid : predicate.validate = .ok ()
  writable : ∀ value ∈ predicate.values, Token.IsWritable value

namespace Element

structure Printed (tokens : List Token) (elements : List Element) : Prop where
  derived : Derives tokens elements
  tidy : Token.Tidy tokens
  unordered : .order .orderBy ∉ tokens

section

variable {rest : List Token} {elements : List Element}

theorem printed_single {field value : String} {op : Operator} (identifier : isIdentifier field = true)
    (writable : Token.IsWritable value) (plain : op ≠ .isIn) (more : Printed rest elements) :
    Printed (.quoted field :: .operator op :: .quoted value :: rest)
      (.predicate ⟨field, op, [value]⟩ :: elements) := by
  have named := Token.tidy_quoted (isWritable_of_identifier identifier)
  have operand : Token.Tidy [.operator op, .quoted value] := (Token.tidy_quoted writable).operator (.inl ⟨value, rfl⟩)
  constructor
  · exact .single (.quoted identifier) plain (by intro keyword same; cases same) more.derived
  · exact (named.append operand).append more.tidy
  · simp [more.unordered]

theorem printed_list {field : String} {values : List String} (identifier : isIdentifier field = true)
    (writable : ∀ value ∈ values, Token.IsWritable value) (filled : values ≠ []) (more : Printed rest elements) :
    Printed (.quoted field :: .operator .isIn :: .punct .openParen ::
      (Token.valueTokens values ++ .punct .closeParen :: rest)) (.predicate ⟨field, .isIn, values⟩ :: elements) := by
  have named := Token.tidy_quoted (isWritable_of_identifier identifier)
  have closed := ((Token.tidy_values writable).append (Token.tidy_punct .closeParen)).append more.tidy
  have opened := ((Token.tidy_punct .openParen).append closed).operator (.inr ⟨rfl, rfl⟩)
  rw [List.append_assoc] at opened
  constructor
  · have list := Derives.list (.quoted identifier) (Token.areEntries_values filled) more.derived
    rwa [Token.entryValues_valueTokens] at list
  · exact named.append opened
  · have commas : .order .orderBy ∉ Token.valueTokens values := by
      intro member
      rcases Token.mem_valueTokens member with same | ⟨value, same⟩ <;> cases same
    simp [commas, more.unordered]

theorem printed_predicate {p : Predicate} (printable : p.Printable) (more : Printed rest elements) :
    Printed (p.tokens ++ rest) (.predicate p :: elements) := by
  obtain ⟨field, op, values⟩ := p
  obtain ⟨valid, writable⟩ := printable
  obtain ⟨identifier, count⟩ := Predicate.validate_ok.1 valid
  by_cases isIn : op = .isIn
  · cases isIn
    have filled : values ≠ [] := by
      rintro rfl
      cases count
    have shape : Predicate.tokens ⟨field, .isIn, values⟩ ++ rest = .quoted field :: .operator .isIn ::
        .punct .openParen :: (Token.valueTokens values ++ .punct .closeParen :: rest) := by
      simp [Predicate.tokens, Token.valueTokens]
    rw [shape]
    exact printed_list identifier writable filled more
  · obtain ⟨value, rfl⟩ := Operator.single_of_takes isIn count
    have shape : Predicate.tokens ⟨field, op, [value]⟩ ++ rest =
        .quoted field :: .operator op :: .quoted value :: rest := by
      cases op <;> first | exact absurd rfl isIn | rfl
    rw [shape]
    exact printed_single identifier (writable value List.mem_cons_self) isIn more

theorem printed_marker (m : Marker) (more : Printed rest elements) :
    Printed (.marker m :: rest) (.marker m :: elements) := by
  constructor
  · exact .marker m more.derived
  · exact (Token.tidy_marker m).append more.tidy
  · simp [more.unordered]

theorem printed_group {inside : List Token} {members : List Element} (inner : Printed inside members)
    (more : Printed rest elements) :
    Printed (.punct .openParen :: inside ++ .punct .closeParen :: rest) (.group members :: elements) := by
  constructor
  · exact .group inner.derived more.derived
  · exact ((Token.tidy_punct .openParen).append inner.tidy).append ((Token.tidy_punct .closeParen).append more.tidy)
  · simp [inner.unordered, more.unordered]

end

mutual

theorem tokens_printed (element : Element) (printable : ∀ p ∈ element.predicates, p.Printable)
    {rest : List Token} {elements : List Element} (more : Printed rest elements) :
    Printed (element.tokens ++ rest) (element :: elements) := by
  cases element with
  | marker m => exact printed_marker m more
  | group members =>
    have inner := levelTokens_printed members printable
    rw [tokens, List.append_assoc]
    exact printed_group inner more
  | predicate p => exact printed_predicate (printable p List.mem_cons_self) more

theorem levelTokens_printed (elements : List Element) (printable : ∀ p ∈ levelPredicates elements, p.Printable) :
    Printed (levelTokens elements) elements := by
  cases elements with
  | nil => exact ⟨.nil, Token.tidy_nil, List.not_mem_nil⟩
  | cons element rest =>
    simp only [levelPredicates, List.mem_append, or_imp, forall_and] at printable
    exact tokens_printed element printable.1 (levelTokens_printed rest printable.2)

end

end Element

namespace SortKey

theorem tidy_tokens {key : SortKey} (fit : isIdentifier key.field = true) : Token.Tidy key.tokens :=
  (Token.tidy_quoted (isWritable_of_identifier fit)).append (Token.tidy_order _)

theorem written_keyword (direction : Direction) : direction.Written [.order direction.keyword] := by
  cases direction
  · exact .asc
  · exact .desc

theorem separated_derives {keys : List SortKey} (fit : ∀ key ∈ keys, isIdentifier key.field = true) :
    Derives (Token.separated (keys.map SortKey.tokens)) keys := by
  induction keys with
  | nil => exact .nil
  | cons key rest ih =>
    obtain ⟨first, later⟩ := List.forall_mem_cons.1 fit
    have names : (Token.quoted key.field).Names key.field := .quoted first
    cases rest with
    | nil => exact .entry names (written_keyword key.direction) (.inl rfl) .nil
    | cons next rest =>
      rw [List.map_cons, List.map_cons, Token.separated_cons_cons]
      change Derives (.quoted key.field :: [.order key.direction.keyword] ++ [.punct .comma] ++ _) _
      exact .entry names (written_keyword key.direction) (.inr rfl) (ih later)

end SortKey

namespace Query

theorem tidy_ordering {keys : List SortKey} (fit : ∀ key ∈ keys, isIdentifier key.field = true) :
    Token.Tidy (orderingTokens keys) := by
  cases keys with
  | nil => exact Token.tidy_nil
  | cons key rest =>
    have listed : Token.Tidy (Token.separated ((key :: rest).map SortKey.tokens)) := by
      apply Token.tidy_separated
      intro row member
      obtain ⟨other, given, rfl⟩ := List.mem_map.1 member
      exact SortKey.tidy_tokens (fit other given)
    exact (Token.tidy_order .orderBy).append listed

theorem splitOrdering_printed {tokens : List Token} (unordered : .order .orderBy ∉ tokens) (keys : List SortKey) :
    splitOrdering (tokens ++ orderingTokens keys) = (tokens, Token.separated (keys.map SortKey.tokens)) := by
  have inside : ∀ token ∈ tokens, decide (token ≠ .order .orderBy) = true := by
    intro token member
    exact decide_eq_true fun same => unordered (same ▸ member)
  rw [splitOrdering, List.takeWhile_append_of_pos inside, List.dropWhile_append_of_pos inside]
  cases keys with
  | nil => simp [orderingTokens, Token.separated]
  | cons key rest => simp [orderingTokens]

theorem parse_print {query : Query} (valid : query.validate = .ok ())
    (writable : ∀ p ∈ query.predicates, ∀ value ∈ p.values, Token.IsWritable value) :
    parse query.print = .ok query := by
  obtain ⟨predicates, keys⟩ := Query.validate_ok.1 valid
  have fit : ∀ key ∈ query.ordering, isIdentifier key.field = true :=
    fun key member => SortKey.validate_ok.1 (keys key member)
  have level := Element.levelTokens_printed query.conditions fun p member => ⟨predicates p member, writable p member⟩
  have tidy : Token.Tidy query.tokens := level.tidy.append (tidy_ordering fit)
  have chain : query.tokens.IsChain Token.Follows := by
    simpa using tidy.chain [] .nil
  have lexed : Token.tokenize query.print = query.tokens :=
    Token.tokenize_spell tidy.spellable (chain.imp fun _ _ follows => follows.apart)
  have clear : (Element.levelTokens query.conditions).IsChain Token.Clear :=
    (chain.imp fun _ _ follows => follows.clear).left_of_append
  calc
    parse query.print = ofTokens query.tokens := congrArg ofTokens lexed
    _ = .ok query := by
      rw [ofTokens, tokens, splitOrdering_printed level.unordered]
      simp only
      rw [level.derived.parseLevel clear, (SortKey.separated_derives fit).parseAll]
      rfl

theorem parse_writable {text : String} {query : Query} (parsed : parse text = .ok query) :
    ∀ p ∈ query.predicates, ∀ value ∈ p.values, Token.IsWritable value := by
  intro p member value given
  obtain ⟨token, within, rfl⟩ := (derives_of_parse parsed).1.values p member value given
  have lexed : token ∈ Token.tokenize text := (List.takeWhile_subset _) within
  exact (Token.tokenize_spellable text token lexed).text_writable

/-- A text is prepared if it is not blank, and can be read, is valid and compiles. -/
theorem prepare_eq_ok {text : String} {prepared : Prepared} :
    prepare text = .ok prepared ↔ Text.blank text.toList = false ∧ parse text = .ok prepared.query ∧
      prepared.query.validate = .ok () ∧ prepared.query.compile = .ok prepared.filter := by
  unfold prepare
  constructor
  · intro accepted
    split at accepted
    · cases accepted
    · next filled =>
      obtain ⟨query, parsed, accepted⟩ := ok_of_bind accepted
      obtain ⟨_, valid, accepted⟩ := ok_of_bind accepted
      obtain ⟨filter, compiled, same⟩ := ok_of_bind accepted
      cases same
      exact ⟨Bool.eq_false_iff.2 filled, parsed, valid, compiled⟩
  · rintro ⟨filled, parsed, valid, compiled⟩
    simp only [filled, parsed, valid, compiled, Bool.false_eq_true, if_false, bind, Except.bind]
    rfl

theorem prepare_ok {text : String} {prepared : Prepared} (accepted : prepare text = .ok prepared) :
    parse text = .ok prepared.query ∧ prepared.query.validate = .ok () := by
  obtain ⟨-, parsed, valid, -⟩ := prepare_eq_ok.1 accepted
  exact ⟨parsed, valid⟩

/-- Parsing undoes printing, and what has been prepared is printed so that it is read as it was. -/
theorem parse_undoes_print :
    (∀ query : Query, query.validate = .ok () →
      (∀ p ∈ query.predicates, ∀ value ∈ p.values, value ≠ "" ∧ '"' ∉ value.toList) →
      parse query.print = .ok query) ∧
    ∀ (text : String) (prepared : Prepared), prepare text = .ok prepared →
      ∃ query, parse text = .ok query ∧ parse query.print = parse text := by
  constructor
  · intro query valid writable
    exact parse_print valid writable
  · intro text prepared accepted
    obtain ⟨parsed, valid⟩ := prepare_ok accepted
    refine ⟨prepared.query, parsed, ?_⟩
    rw [parsed]
    exact parse_print valid (parse_writable parsed)

end Query

/-- A query of every kind of element, with values that would be other tokens without their quotes. -/
def quotedQuery : Query where
  conditions := [.marker .not, .marker .or, .predicate ⟨"title", .is, ["NOT"]⟩, .group [], .marker .and,
    .group [.predicate ⟨"status", .isIn, ["a, b", ")", "ORDER BY"]⟩, .group [.marker .not]],
    .predicate ⟨"resolved", .isNot, ["null"]⟩, .predicate ⟨"created_at", .gt, ["= (\n"]⟩]
  ordering := [⟨"id", .desc⟩, ⟨"title", .asc⟩]

example : quotedQuery.print =
    "NOT OR \"title\" IS \"NOT\" ( ) AND ( \"status\" IN ( \"a, b\" , \")\" , \"ORDER BY\" ) ( NOT ) ) " ++
      "\"resolved\" IS NOT \"null\" \"created_at\" > \"= (\n\" ORDER BY \"id\" DESC , \"title\" ASC" := by
  decide +kernel

def looseText : String :=
  "title=( NOT status IN(open,,done)ORDER BY id title DESC"

theorem quotedQuery_parse :
    Query.parse quotedQuery.print = .ok quotedQuery ∧
      ∃ query, Query.parse looseText = .ok query ∧ Query.parse query.print = Query.parse looseText := by
  have accepted : (Query.prepare looseText).isOk = true := by decide +kernel
  constructor
  · exact Query.parse_undoes_print.1 quotedQuery (by decide +kernel) (by decide +kernel)
  · cases prepared : Query.prepare looseText with
    | ok found => exact Query.parse_undoes_print.2 looseText found prepared
    | error refused =>
      rw [prepared] at accepted
      cases accepted

end IssueQuery
