import IssueQuery.Proofs.Query.Reading
import IssueQuery.Query.Derivation

/-!
A level has one derivation at most, since parentheses tell where its groups and lists end, and all of its tokens
but the commas of lists can be read off the elements.
-/

namespace IssueQuery

theorem Token.Names.text_eq {token : Token} {field : String} (names : token.Names field) : token.text = field := by
  cases names <;> rfl

namespace Item

theorem levelTokens_group (items rest : List Item) :
    levelTokens id (group items :: rest) =
      .punct .openParen :: levelTokens id items ++ .punct .closeParen :: levelTokens id rest := by
  rw [levelTokens, tokens, List.append_assoc]
  rfl

theorem levelTokens_list (name : Token) (entries : List Token) (rest : List Item) :
    levelTokens id (list name entries :: rest) =
      name :: .operator .isIn :: .punct .openParen :: entries ++ .punct .closeParen :: levelTokens id rest := by
  rw [levelTokens, tokens, id, List.append_assoc]
  rfl

mutual

/-- All texts of an item but the commas of its lists are those of its element. -/
theorem Fits.texts_element {item : Item} (fit : item.Fits) :
    (item.tokens Token.entryTokens).map Token.text = item.element.texts := by
  cases item with
  | marker m => rfl
  | single name operator value =>
    obtain ⟨-, plain, -⟩ := fit
    rw [tokens, element, Element.texts, Predicate.texts]
    cases operator with
    | isIn => exact absurd rfl plain
    | _ => rfl
  | list name entries =>
    rw [tokens, element, Element.texts, Predicate.texts]
    simp [Token.entryTokens, Token.entryValues, Token.text]
  | group items =>
    have inside : AllFit items := fit
    have inner := inside.texts_elements
    rw [tokens, element, Element.texts, ← inner]
    simp [Token.text]

theorem AllFit.texts_elements {items : List Item} (fit : AllFit items) :
    (levelTokens Token.entryTokens items).map Token.text = Element.levelTexts (levelElements items) := by
  cases items with
  | nil => rfl
  | cons item rest =>
    obtain ⟨first, others⟩ := fit
    rw [levelTokens, List.map_append, Fits.texts_element first, AllFit.texts_elements others, levelElements,
      Element.levelTexts]

end

mutual

theorem Fits.derives {item : Item} {rest : List Token} {elements : List Element} (fit : item.Fits)
    (more : Element.Derives rest elements) : Element.Derives (item.tokens id ++ rest) (item.element :: elements) := by
  cases item with
  | marker m => exact .marker m more
  | group items =>
    have inside : AllFit items := fit
    have inner := inside.derives
    rw [tokens, List.append_assoc]
    exact .group inner more
  | single name operator value =>
    obtain ⟨⟨field, names⟩, plain, fit⟩ := fit
    rw [element, names.text_eq]
    exact .single names plain fit more
  | list name entries =>
    obtain ⟨⟨field, names⟩, fit⟩ := fit
    rw [tokens, element, names.text_eq, List.append_assoc]
    exact .list names fit more

theorem AllFit.derives {items : List Item} (fit : AllFit items) :
    Element.Derives (levelTokens id items) (levelElements items) := by
  cases items with
  | nil => exact .nil
  | cons item rest => exact Fits.derives fit.1 (AllFit.derives fit.2)

end

theorem Derivation.derives {items : List Item} {tokens : List Token} (derivation : Derivation items tokens) :
    Element.Derives tokens (levelElements items) :=
  derivation.spelled ▸ derivation.fit.derives

/-- Whatever the grammar derives has a derivation tree. -/
theorem derivation_of_derives {tokens : List Token} {elements : List Element}
    (derived : Element.Derives tokens elements) :
    ∃ items, Derivation items tokens ∧ levelElements items = elements := by
  induction derived with
  | nil => exact ⟨[], ⟨trivial, rfl⟩, rfl⟩
  | marker m more ih =>
    obtain ⟨items, ⟨fit, rfl⟩, rfl⟩ := ih
    exact ⟨marker m :: items, ⟨⟨trivial, fit⟩, rfl⟩, rfl⟩
  | group inner more ihInner ihMore =>
    obtain ⟨members, ⟨inside, rfl⟩, rfl⟩ := ihInner
    obtain ⟨items, ⟨fit, rfl⟩, rfl⟩ := ihMore
    exact ⟨group members :: items, ⟨⟨inside, fit⟩, levelTokens_group members items⟩, rfl⟩
  | @single token value field operator _ _ names plain fits more ih =>
    obtain ⟨items, ⟨fit, rfl⟩, rfl⟩ := ih
    refine ⟨single token operator value :: items, ⟨⟨⟨⟨field, names⟩, plain, fits⟩, fit⟩, rfl⟩, ?_⟩
    rw [levelElements, element, names.text_eq]
  | @list token field entries _ _ names fits more ih =>
    obtain ⟨items, ⟨fit, rfl⟩, rfl⟩ := ih
    refine ⟨list token entries :: items, ⟨⟨⟨⟨field, names⟩, fits⟩, fit⟩, levelTokens_list token entries items⟩, ?_⟩
    rw [levelElements, element, names.text_eq]

/-- Where two balanced rows are closed by a parenthesis, they are the same. -/
theorem closed_inj {inside other rest after : List Token} (first : Token.Balanced inside)
    (second : Token.Balanced other)
    (same : inside ++ .punct .closeParen :: rest = other ++ .punct .closeParen :: after) :
    inside = other ∧ rest = after := by
  have split := first.splitGroup_close rest
  rw [same, second.splitGroup_close after] at split
  cases split
  exact ⟨rfl, rfl⟩

/-! The first token of an item tells its kind, save that both kinds of predicates start with a name. -/

theorem Fits.of_marker {item : Item} {m : Marker} {rest after : List Token} (fit : item.Fits)
    (same : item.tokens id ++ after = .marker m :: rest) : item = marker m ∧ after = rest := by
  cases item with
  | marker n =>
    cases same
    exact ⟨rfl, rfl⟩
  | group items => cases (List.cons.inj same).1
  | single | list =>
    obtain ⟨⟨field, names⟩, -⟩ := fit
    cases (List.cons.inj same).1
    cases names

theorem Fits.of_paren {item : Item} {rest after : List Token} (fit : item.Fits)
    (same : item.tokens id ++ after = .punct .openParen :: rest) :
    ∃ items, item = group items ∧ levelTokens id items ++ .punct .closeParen :: after = rest := by
  cases item with
  | marker m => cases (List.cons.inj same).1
  | group items =>
    rw [tokens, List.append_assoc] at same
    exact ⟨items, rfl, (List.cons.inj same).2⟩
  | single | list =>
    obtain ⟨⟨field, names⟩, -⟩ := fit
    cases (List.cons.inj same).1
    cases names

theorem of_name {item : Item} {name : Token} {field : String} (names : name.Names field) {op : Operator}
    {rest after : List Token} (same : item.tokens id ++ after = name :: .operator op :: rest) :
    (∃ value, item = single name op value ∧ value :: after = rest) ∨
      ∃ entries, item = list name entries ∧ op = .isIn ∧
        .punct .openParen :: entries ++ .punct .closeParen :: after = rest := by
  cases item with
  | marker m =>
    cases (List.cons.inj same).1
    cases names
  | group items =>
    cases (List.cons.inj same).1
    cases names
  | single other operator value =>
    cases same
    exact .inl ⟨value, rfl, rfl⟩
  | list other entries =>
    rw [tokens, id, List.append_assoc] at same
    cases same
    exact .inr ⟨entries, rfl, rfl, rfl⟩

mutual

/-- The item at the front of a row is known from the row. -/
theorem Fits.tokens_inj {item other : Item} {rest after : List Token} (fit : item.Fits) (fits : other.Fits)
    (clear : (item.tokens id ++ rest).IsChain Token.Clear)
    (same : other.tokens id ++ after = item.tokens id ++ rest) : other = item ∧ after = rest := by
  cases item with
  | marker m => exact fits.of_marker same
  | group items =>
    rw [tokens, List.append_assoc] at same clear
    obtain ⟨others, rfl, row⟩ := fits.of_paren same
    replace row : levelTokens id others ++ .punct .closeParen :: after =
      levelTokens id items ++ .punct .closeParen :: rest := row
    have within : (levelTokens id items ++ .punct .closeParen :: rest).IsChain Token.Clear := List.IsChain.tail clear
    have inside : (levelTokens id items).IsChain Token.Clear := List.IsChain.left_of_append within
    have other : (levelTokens id others).IsChain Token.Clear := List.IsChain.left_of_append (row ▸ within)
    -- no parenthesis stands for a value, so each of the two levels ends at the same one
    obtain ⟨level, later⟩ := closed_inj ((AllFit.derives fits).balanced other) ((AllFit.derives fit).balanced inside) row
    exact ⟨congrArg group (AllFit.levelTokens_inj fit fits inside level), later⟩
  | single name operator value =>
    obtain ⟨⟨field, names⟩, plain, -⟩ := fit
    rcases of_name names same with ⟨found, rfl, row⟩ | ⟨entries, -, isIn, -⟩
    · cases row
      exact ⟨rfl, rfl⟩
    · exact absurd isIn plain
  | list name entries =>
    obtain ⟨⟨field, names⟩, flat⟩ := fit
    rw [tokens, List.append_assoc] at same
    rcases of_name names same with ⟨found, rfl, row⟩ | ⟨others, rfl, -, row⟩
    · exact absurd rfl fits.2.1
    · obtain ⟨-, others⟩ := fits
      have inside := closed_inj (Token.balanced_of_flat others.flat) (Token.balanced_of_flat flat.flat)
        (List.cons.inj row).2
      exact ⟨congrArg (list name) inside.1, inside.2⟩

theorem AllFit.levelTokens_inj {items others : List Item} (fit : AllFit items) (fits : AllFit others)
    (clear : (levelTokens id items).IsChain Token.Clear)
    (same : levelTokens id others = levelTokens id items) : others = items := by
  cases items with
  | nil =>
    cases others with
    | nil => rfl
    | cons other after => cases other <;> cases same
  | cons item rest =>
    cases others with
    | nil => cases item <;> cases same
    | cons other after =>
      rw [levelTokens] at clear
      obtain ⟨rfl, later⟩ := Fits.tokens_inj fit.1 fits.1 clear same
      rw [AllFit.levelTokens_inj fit.2 fits.2 (List.IsChain.right_of_append clear) later]

end

theorem Derivation.unique {items others : List Item} {tokens : List Token} (first : Derivation items tokens)
    (second : Derivation others tokens) (clear : tokens.IsChain Token.Clear) : others = items := by
  obtain ⟨fit, rfl⟩ := first
  exact fit.levelTokens_inj second.fit clear second.spelled

end Item

/-- A level is read if and only if the grammar derives it, as the elements of its only derivation. Any other
row of tokens is refused. -/
theorem Element.parseLevel_exact {tokens : List Token} (unordered : .order .orderBy ∉ tokens)
    (clear : tokens.IsChain Token.Clear) :
    (∀ elements, parseLevel tokens = .ok elements ↔ Derives tokens elements) ∧
      (∀ elements, Derives tokens elements → ∃ items, Item.Derivation items tokens ∧
        (∀ others, Item.Derivation others tokens → others = items) ∧ Item.levelElements items = elements ∧
        (Item.levelTokens Token.entryTokens items).map Token.text = levelTexts elements) ∧
      ((∀ elements, ¬Derives tokens elements) → ∃ refusal, parseLevel tokens = .error refusal) := by
  have exact : ∀ elements, parseLevel tokens = .ok elements ↔ Derives tokens elements :=
    fun elements => ⟨derives_of_parseLevel unordered, fun derived => derived.parseLevel clear⟩
  refine ⟨exact, ?_, ?_⟩
  · intro elements derived
    obtain ⟨items, derivation, rfl⟩ := Item.derivation_of_derives derived
    exact ⟨items, derivation, fun others other => derivation.unique other clear, rfl, derivation.fit.texts_elements⟩
  · intro underived
    cases read : parseLevel tokens with
    | error refusal => exact ⟨refusal, rfl⟩
    | ok elements => exact absurd ((exact elements).1 read) (underived elements)

instance (token : Token) : Decidable token.IsParen :=
  inferInstanceAs (Decidable (token = .punct .openParen ∨ token = .punct .closeParen))

instance : DecidableRel Token.Clear := fun a b =>
  match a with
  | .operator op =>
    decidable_of_iff (op ≠ .isIn → ¬b.IsParen) ⟨fun clear _ same => by cases same; exact clear, fun clear => clear op rfl⟩
  | .word _ | .quoted _ | .marker _ | .punct _ | .order _ => .isTrue fun _ same => nomatch same

def nestedTokens : List Token :=
  [.marker .not, .punct .openParen, .word "a", .operator .eq, .marker .or, .punct .openParen, .punct .closeParen,
    .quoted "b", .operator .isIn, .punct .openParen, .punct .comma, .operator .isNot, .punct .comma,
    .punct .comma, .word "x", .punct .closeParen, .punct .closeParen, .word "c", .operator .contains, .punct .comma]

def nestedItems : List Item :=
  [.marker .not, .group [.single (.word "a") .eq (.marker .or), .group [],
    .list (.quoted "b") [.punct .comma, .operator .isNot, .punct .comma, .punct .comma, .word "x"]],
    .single (.word "c") .contains (.punct .comma)]

theorem nestedTokens_read :
    Token.order .orderBy ∉ nestedTokens ∧ nestedTokens.IsChain Token.Clear ∧
      Element.parseLevel nestedTokens = .ok [.marker .not, .group [.predicate ⟨"a", .eq, ["OR"]⟩, .group [],
        .predicate ⟨"b", .isIn, ["IS NOT", "x"]⟩], .predicate ⟨"c", .contains, [","]⟩] := by
  have unordered : Token.order .orderBy ∉ nestedTokens := by decide
  have clear : nestedTokens.IsChain Token.Clear := by decide
  have entries : Token.AreEntries
      [.punct .comma, .operator .isNot, .punct .comma, .punct .comma, .word "x"] := ⟨by decide, by decide⟩
  have derivation : Item.Derivation nestedItems nestedTokens := by
    refine ⟨⟨trivial, ⟨⟨⟨"a", .word "a"⟩, by decide, ?_⟩, trivial, ⟨⟨"b", .quoted (by decide)⟩, entries⟩, trivial⟩,
      ⟨⟨"c", .word "c"⟩, by decide, ?_⟩, trivial⟩, by decide⟩ <;> intro keyword same <;> cases same
  exact ⟨unordered, clear, ((Element.parseLevel_exact unordered clear).1 _).2 derivation.derives⟩

end IssueQuery
