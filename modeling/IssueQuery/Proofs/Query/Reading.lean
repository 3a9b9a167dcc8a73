import IssueQuery.Proofs.Query.Valid
import IssueQuery.Query.Grammar
import Mathlib.Data.List.Chain
import Mathlib.Data.List.TakeWhile

/-!
What the grammar derives is what the parser reads. Parentheses that stand for values would be taken for
those of groups, so no operator but `IN` may have one right after it.
-/

namespace IssueQuery

namespace Token

theorem Names.fieldName {token : Token} {field : String} (names : token.Names field) (place : FieldPlace) :
    token.fieldName place = .ok field := by
  cases names with
  | word => rfl
  | quoted fit => rw [Token.fieldName, if_pos fit]

theorem names_of_fieldName {token : Token} {field : String} {place : FieldPlace}
    (named : token.fieldName place = .ok field) : token.Names field := by
  cases token with
  | word name =>
    cases named
    exact .word _
  | quoted name =>
    rw [fieldName] at named
    split at named
    · next fit =>
      cases named
      exact .quoted fit
    · cases named
  | operator | marker | punct | order => cases named

theorem Names.not_paren {token : Token} {field : String} (names : token.Names field) : ¬token.IsParen := by
  cases names <;> rintro (same | same) <;> cases same

theorem splitGroup_cons {token : Token} (flat : ¬token.IsParen) (depth : Nat) (rest : List Token) :
    splitGroup depth (token :: rest) =
      (splitGroup depth rest).map fun found => (token :: found.1, found.2) := by
  rw [splitGroup]
  · exact fun same => flat (.inr same)
  · exact fun same => flat (.inl same)

/-- The search for a closing parenthesis passes over the tokens as a whole. -/
def Balanced (tokens : List Token) : Prop :=
  ∀ depth rest, splitGroup depth (tokens ++ rest) =
    (splitGroup depth rest).map fun found => (tokens ++ found.1, found.2)

theorem balanced_nil : Balanced [] := by
  intro depth rest
  exact Option.map_id'.symm

theorem Balanced.cons {token : Token} {rest : List Token} (flat : ¬token.IsParen) (more : Balanced rest) :
    Balanced (token :: rest) := by
  intro depth tail
  rw [List.cons_append, splitGroup_cons flat, more depth tail, Option.map_map]
  rfl

theorem Balanced.group {inside rest : List Token} (inner : Balanced inside) (more : Balanced rest) :
    Balanced (.punct .openParen :: inside ++ .punct .closeParen :: rest) := by
  intro depth tail
  rw [List.append_assoc, List.cons_append, List.cons_append, splitGroup, inner, splitGroup, more depth tail,
    Option.map_map, Option.map_map, Option.map_map]
  congr 1
  funext found
  simp

theorem balanced_of_flat {tokens : List Token} (flat : ∀ token ∈ tokens, ¬token.IsParen) : Balanced tokens := by
  induction tokens with
  | nil => exact balanced_nil
  | cons token rest ih =>
    obtain ⟨first, later⟩ := List.forall_mem_cons.1 flat
    exact (ih later).cons first

/-- Balanced tokens reach up to the parenthesis that closes the group. -/
theorem Balanced.splitGroup_close {inside : List Token} (balanced : Balanced inside) (rest : List Token) :
    splitGroup 0 (inside ++ .punct .closeParen :: rest) = some (inside, rest) := by
  rw [balanced 0, splitGroup, Option.map_some, List.append_nil]

theorem splitGroup_eq {depth : Nat} {tokens inner after : List Token}
    (found : splitGroup depth tokens = some (inner, after)) : tokens = inner ++ .punct .closeParen :: after := by
  fun_induction splitGroup depth tokens generalizing inner with
  | case1 => cases found
  | case2 =>
    cases found
    rfl
  | case3 _ _ ih | case4 _ _ ih | case5 _ _ _ _ _ ih =>
    obtain ⟨found, split, same⟩ := Option.map_eq_some_iff.1 found
    cases same
    rw [List.cons_append, ← ih split]

/-- Only `IN` may have a parenthesis right after it. -/
def Clear (a b : Token) : Prop :=
  ∀ op, a = .operator op → op ≠ .isIn → ¬b.IsParen

theorem listEntries_flat {entries : List Token} (flat : ∀ token ∈ entries, ¬token.IsParen) (rest : List Token) :
    listEntries (entries ++ .punct .closeParen :: rest) = some (entryValues entries, rest) := by
  induction entries with
  | nil => rfl
  | cons token entries ih =>
    obtain ⟨first, later⟩ := List.forall_mem_cons.1 flat
    by_cases comma : token = .punct .comma
    · rw [comma, List.cons_append, listEntries, ih later]
      simp [entryValues]
    · rw [List.cons_append, listEntries, ih later, Option.map_some]
      · simp [entryValues, comma]
      · exact fun same => first (.inl same)
      · exact fun same => first (.inr same)
      · exact comma

theorem listEntries_eq {tokens rest : List Token} {values : List String}
    (found : listEntries tokens = some (values, rest)) :
    ∃ entries, tokens = entries ++ .punct .closeParen :: rest ∧ (∀ token ∈ entries, ¬token.IsParen) ∧
      values = entryValues entries := by
  fun_induction listEntries tokens generalizing values with
  | case1 => cases found
  | case2 => cases found
  | case3 =>
    cases found
    exact ⟨[], rfl, by simp, rfl⟩
  | case4 rest ih =>
    obtain ⟨entries, shape, flat, same⟩ := ih found
    refine ⟨.punct .comma :: entries, by rw [shape, List.cons_append], ?_, by simpa [entryValues] using same⟩
    rw [List.forall_mem_cons]
    refine ⟨?_, flat⟩
    rintro (paren | paren) <;> cases paren
  | case5 token rest notOpen notClose notComma ih =>
    obtain ⟨⟨v, r⟩, later, same⟩ := Option.map_eq_some_iff.1 found
    cases same
    obtain ⟨entries, shape, flat, texts⟩ := ih later
    refine ⟨token :: entries, by rw [shape, List.cons_append], ?_, ?_⟩
    · rw [List.forall_mem_cons]
      exact ⟨fun paren => paren.elim notOpen notClose, flat⟩
    · rw [texts, entryValues, entryValues, List.filter_cons_of_pos (by simpa using notComma), List.map_cons]

theorem valueList?_eq {tokens rest : List Token} {values : List String}
    (found : Token.valueList? tokens = some (values, rest)) :
    ∃ entries, AreEntries entries ∧ tokens = .punct .openParen :: (entries ++ .punct .closeParen :: rest) ∧
      values = entryValues entries := by
  unfold Token.valueList? at found
  split at found
  · next inside =>
    split at found
    · cases found
    · next filled =>
      obtain ⟨entries, shape, flat, same⟩ := listEntries_eq found
      refine ⟨entries, ⟨flat, ?_⟩, by rw [shape], same⟩
      by_contra none
      have empty : values = [] := by
        rw [same, entryValues, List.map_eq_nil_iff, List.filter_eq_nil_iff]
        intro token member value
        exact none ⟨token, member, of_decide_eq_true value⟩
      rw [empty] at found
      exact filled rest found
  · cases found

theorem AreEntries.valueList? {entries : List Token} (fit : AreEntries entries) (rest : List Token) :
    Token.valueList? (.punct .openParen :: (entries ++ .punct .closeParen :: rest)) =
      some (entryValues entries, rest) := by
  have filled : entryValues entries ≠ [] := by
    obtain ⟨token, member, value⟩ := fit.some_value
    simp only [entryValues, ne_eq, List.map_eq_nil_iff, List.filter_eq_nil_iff, not_forall]
    exact ⟨token, member, by simpa using value⟩
  rw [Token.valueList?, listEntries_flat fit.flat]
  split
  · next same => exact absurd (congrArg Prod.fst (Option.some.inj same)) filled
  · rfl

end Token

namespace Predicate

theorem parse_single {value : Token} {operator : Operator} (plain : operator ≠ .isIn) (fit : value.IsValue)
    (field : String) (rest : List Token) :
    parse field (.operator operator :: value :: rest) = .ok (⟨field, operator, [value.text]⟩, rest) := by
  have read : parseValues field operator (value :: rest) = .ok ([value.text], rest) := by
    rw [parseValues, if_neg plain]
    exact fit
  rw [parse, read]
  rfl

theorem parse_list {entries : List Token} (fit : Token.AreEntries entries) (field : String) (rest : List Token) :
    parse field (.operator .isIn :: .punct .openParen :: (entries ++ .punct .closeParen :: rest)) =
      .ok (⟨field, .isIn, Token.entryValues entries⟩, rest) := by
  have read : parseValues field .isIn (.punct .openParen :: (entries ++ .punct .closeParen :: rest)) =
      .ok (Token.entryValues entries, rest) := by
    unfold parseValues
    rw [if_pos rfl, fit.valueList? rest]
  rw [parse, read]
  rfl

theorem parse_eq {field : String} {tokens after : List Token} {found : Predicate}
    (parsed : parse field tokens = .ok (found, after)) :
    (∃ operator value, operator ≠ .isIn ∧ value.IsValue ∧ tokens = .operator operator :: value :: after ∧
      found = ⟨field, operator, [value.text]⟩) ∨
    ∃ entries, Token.AreEntries entries ∧
      tokens = .operator .isIn :: .punct .openParen :: (entries ++ .punct .closeParen :: after) ∧
      found = ⟨field, .isIn, Token.entryValues entries⟩ := by
  unfold parse at parsed
  split at parsed
  · cases parsed
  · next operator rest =>
    obtain ⟨⟨values, later⟩, read, same⟩ := ok_of_bind parsed
    cases same
    unfold parseValues at read
    split at read
    · next isIn =>
      split at read
      · next list =>
        cases read
        obtain ⟨entries, fit, rfl, same⟩ := Token.valueList?_eq list
        exact .inr ⟨entries, fit, by rw [isIn], by rw [isIn, same]⟩
      · cases read
    · next plain =>
      split at read
      · cases read
      · cases read
      · next value rest fit =>
        cases read
        exact .inl ⟨operator, value, plain, fit, rfl, rfl⟩
  · cases parsed

end Predicate

namespace Element

theorem parseLevel_group {rest inner after : List Token} (split : Token.splitGroup 0 rest = some (inner, after)) :
    parseLevel (.punct .openParen :: rest) = (do
      let elements ← parseLevel inner
      let more ← parseLevel after
      return .group elements :: more) := by
  rw [parseLevel]
  split
  · next absent =>
    rw [split] at absent
    cases absent
  · next found =>
    rw [split] at found
    cases found
    rfl

theorem parseLevel_predicate {token : Token} {field : String} {rest after : List Token} {found : Predicate}
    (names : token.Names field) (parsed : Predicate.parse field rest = .ok (found, after)) :
    parseLevel (token :: rest) = (do
      let more ← parseLevel after
      return .predicate found :: more) := by
  have named := names.fieldName .condition
  rw [parseLevel]
  · rw [named]
    simp only [bind, Except.bind]
    split
    · next refused =>
      rw [parsed] at refused
      cases refused
    · next accepted =>
      rw [parsed] at accepted
      cases accepted
      rfl
  -- a name is none of the tokens that start another kind of element
  all_goals
    intros
    cases names <;> simp_all

theorem Derives.balanced {tokens : List Token} {elements : List Element} (derived : Derives tokens elements)
    (clear : tokens.IsChain Token.Clear) : Token.Balanced tokens := by
  induction derived with
  | nil => exact Token.balanced_nil
  | marker m more ih =>
    apply (ih clear.tail).cons
    rintro (same | same) <;> cases same
  | @group inside rest members elements inner more ihInner ihMore =>
    have parts := List.IsChain.tail clear
    exact (ihInner (List.IsChain.left_of_append parts)).group (ihMore (List.IsChain.right_of_append parts).tail)
  | single names plain fit more ih =>
    obtain ⟨-, after, later⟩ := (List.isChain_cons_cons.1 clear).imp_right List.isChain_cons_cons.1
    refine .cons names.not_paren (.cons ?_ ((ih later.tail).cons (after _ rfl plain)))
    rintro (same | same) <;> cases same
  | list names fit more ih =>
    have later := (List.IsChain.right_of_append clear.tail.tail.tail).tail
    refine .cons names.not_paren (.cons ?_ ((Token.balanced_of_flat fit.flat).group (ih later)))
    rintro (same | same) <;> cases same

/-- What the grammar derives is read as such. -/
theorem Derives.parseLevel {tokens : List Token} {elements : List Element} (derived : Derives tokens elements)
    (clear : tokens.IsChain Token.Clear) : Element.parseLevel tokens = .ok elements := by
  induction derived with
  | nil => rw [Element.parseLevel]
  | marker m more ih =>
    rw [Element.parseLevel, ih clear.tail]
    rfl
  | @group inside rest members elements inner more ihInner ihMore =>
    have parts := List.IsChain.tail clear
    have clearInside : inside.IsChain Token.Clear := List.IsChain.left_of_append parts
    have clearRest : rest.IsChain Token.Clear := (List.IsChain.right_of_append parts).tail
    have closes := (inner.balanced clearInside).splitGroup_close rest
    rw [List.cons_append, parseLevel_group closes, ihInner clearInside, ihMore clearRest]
    rfl
  | single names plain fit more ih =>
    rw [parseLevel_predicate names (Predicate.parse_single plain fit _ _), ih clear.tail.tail.tail]
    rfl
  | list names fit more ih =>
    have later := (List.IsChain.right_of_append clear.tail.tail.tail).tail
    rw [List.cons_append, List.cons_append, List.cons_append,
      parseLevel_predicate names (Predicate.parse_list fit _ _), ih later]
    rfl

/-- What is read has been derived by the grammar, however the parentheses stand. -/
theorem derives_of_parseLevel {tokens : List Token} {elements : List Element}
    (unordered : .order .orderBy ∉ tokens) (parsed : Element.parseLevel tokens = .ok elements) :
    Derives tokens elements := by
  fun_induction Element.parseLevel tokens generalizing elements with
  | case1 =>
    cases parsed
    exact .nil
  | case2 => cases parsed
  | case3 rest inner after split ihInner ihAfter =>
    obtain ⟨members, inside, parsed⟩ := ok_of_bind parsed
    obtain ⟨more, later, same⟩ := ok_of_bind parsed
    cases same
    have shape := Token.splitGroup_eq split
    -- whatever the group and its rest were read from has no ORDER BY either
    rw [shape, List.mem_cons, List.mem_append, List.mem_cons, not_or, not_or, not_or] at unordered
    rw [shape]
    exact .group (ihInner unordered.2.1 inside) (ihAfter unordered.2.2.2 later)
  | case4 m rest ih =>
    obtain ⟨more, later, same⟩ := ok_of_bind parsed
    cases same
    exact .marker m (ih (List.not_mem_of_not_mem_cons unordered) later)
  | case5 => exact absurd List.mem_cons_self unordered
  | case6 token rest _ _ _ ih =>
    obtain ⟨field, named, parsed⟩ := ok_of_bind parsed
    have names := Token.names_of_fieldName named
    split at parsed
    · cases parsed
    · next found after read =>
      obtain ⟨more, later, same⟩ := ok_of_bind parsed
      cases same
      rcases Predicate.parse_eq read with ⟨op, value, plain, fit, rfl, rfl⟩ | ⟨entries, fit, rfl, rfl⟩
      · exact .single names plain fit (ih _ _ _ read (fun within => unordered (by simp [within])) later)
      · exact .list names fit (ih _ _ _ read (fun within => unordered (by simp [within])) later)

theorem Derives.values {tokens : List Token} {elements : List Element} (derived : Derives tokens elements) :
    ∀ p ∈ levelPredicates elements, ∀ value ∈ p.values, ∃ token ∈ tokens, token.text = value := by
  induction derived with
  | nil =>
    intro p member
    cases member
  | marker m more ih =>
    intro p member value given
    obtain ⟨token, within, same⟩ := ih p member value given
    exact ⟨token, by simp [within], same⟩
  | group inner more ihInner ihMore =>
    intro p member value given
    rcases List.mem_append.1 member with inside | later
    · obtain ⟨token, within, same⟩ := ihInner p inside value given
      exact ⟨token, by simp [within], same⟩
    · obtain ⟨token, within, same⟩ := ihMore p later value given
      exact ⟨token, by simp [within], same⟩
  | @single _ value _ _ _ _ names plain fit more ih =>
    intro p member text given
    rcases List.mem_cons.1 member with rfl | later
    · exact ⟨value, by simp, (List.mem_singleton.1 given).symm⟩
    · obtain ⟨token, within, same⟩ := ih p later text given
      exact ⟨token, by simp [within], same⟩
  | list names fit more ih =>
    intro p member value given
    rcases List.mem_cons.1 member with rfl | later
    · obtain ⟨token, chosen, same⟩ := List.mem_map.1 given
      exact ⟨token, by simp [List.mem_of_mem_filter chosen], same⟩
    · obtain ⟨token, within, same⟩ := ih p later value given
      exact ⟨token, by simp [within], same⟩

end Element

namespace SortKey

theorem Derives.starts {tokens : List Token} {keys : List SortKey} (derived : Derives tokens keys) :
    tokens = [] ∨ ∃ token rest field, tokens = token :: rest ∧ token.Names field := by
  cases derived with
  | nil => exact .inl rfl
  | entry names => exact .inr ⟨_, _, _, rfl, names⟩

theorem parseTail_start {tokens : List Token} {keys : List SortKey} (derived : Derives tokens keys) :
    parseTail tokens = (.asc, tokens) := by
  rcases derived.starts with rfl | ⟨token, rest, field, rfl, names⟩
  · rfl
  · cases names <;> rfl

theorem parseTail_written {direction : Direction} {written comma rest : List Token} {keys : List SortKey}
    (spelled : direction.Written written) (optional : comma = [] ∨ comma = [.punct .comma])
    (more : Derives rest keys) : parseTail (written ++ comma ++ rest) = (direction, rest) := by
  rcases optional with rfl | rfl
  · rw [List.append_nil]
    cases spelled with
    | silent => exact parseTail_start more
    | asc | desc =>
      rcases more.starts with rfl | ⟨token, rest, field, rfl, names⟩
      · rfl
      · cases names <;> rfl
  · cases spelled <;> rfl

theorem Derives.parseAll {tokens : List Token} {keys : List SortKey} (derived : Derives tokens keys) :
    SortKey.parseAll tokens = .ok keys := by
  induction derived with
  | nil => rw [SortKey.parseAll]
  | entry names spelled optional more ih =>
    have tail := parseTail_written spelled optional more
    rw [List.cons_append, List.cons_append, SortKey.parseAll, tail, names.fieldName .ordering, ih]
    rfl

end SortKey

/-- A text is read in two parts. The conditions stand before the first `ORDER BY`. -/
theorem Query.derives_of_parse {text : String} {query : Query} (parsed : Query.parse text = .ok query) :
    Element.Derives (Query.splitOrdering (Token.tokenize text)).1 query.conditions ∧
      SortKey.parseAll (Query.splitOrdering (Token.tokenize text)).2 = .ok query.ordering := by
  obtain ⟨conditions, level, later⟩ := ok_of_bind parsed
  obtain ⟨ordering, entries, same⟩ := ok_of_bind later
  cases same
  have unordered : .order .orderBy ∉ (Query.splitOrdering (Token.tokenize text)).1 := by
    intro member
    simpa using List.mem_takeWhile_imp member
  exact ⟨Element.derives_of_parseLevel unordered level, entries⟩

end IssueQuery
