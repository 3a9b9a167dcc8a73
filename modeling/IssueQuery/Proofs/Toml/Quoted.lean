import IssueQuery.Toml.Quoted

/-! Quoted text in TOML is read back as the text it was written for, whichever quotes suit that. -/

namespace IssueQuery.Toml

variable {text spelling rest : List Char} {c d : Char} {long : Bool} {run : Nat}

theorem ne_of_class {p : Char → Bool} (inside : p c = true) (outside : p d = false) : c ≠ d := by
  rintro rfl
  rw [inside] at outside
  cases outside

/-! Between double quotes. -/

/-- How a character stands between double quotes: behind a backslash with its letter or its number, or as itself. A
newline stands as itself only if there may be several lines. -/
inductive Spells : Bool → Char → List Char → Prop
  | letter {long : Bool} {c letter : Char} (means : unescape? letter = some c) : Spells long c ['\\', letter]
  | code {long : Bool} {c x y z w : Char} (means : escaped? [x, y, z, w] = some c) :
    Spells long c ['\\', 'u', x, y, z, w]
  | plain {long : Bool} {c : Char} (allowed : isControl c = false) (unescaped : c ≠ '\\') (unquoted : c ≠ '"') :
    Spells long c [c]
  | newline : Spells true '\n' ['\n']

theorem escaped?_hexDigit : ∀ n < 128, escaped? ['0', '0', hexDigit (n / 16), hexDigit n] = some (Char.ofNat n) := by
  decide

theorem spells_code (control : isControl c = true) :
    Spells long c ['\\', 'u', '0', '0', hexDigit (c.toNat / 16), hexDigit c.toNat] := by
  have small : c.toNat < 128 := by
    simp only [isControl, Bool.or_eq_true, Bool.and_eq_true, decide_eq_true_eq, beq_iff_eq] at control
    omega
  have means := escaped?_hexDigit c.toNat small
  rw [Char.ofNat_toNat] at means
  exact .code means

theorem spells_escapeChar (unquoted : c ≠ '"') : Spells long c (escapeChar long c) := by
  unfold escapeChar
  repeat' split
  all_goals simp only [beq_iff_eq] at *
  case isFalse.isFalse.isTrue.isTrue wraps _ _ newline =>
    rw [wraps, newline]
    exact .newline
  case isFalse.isFalse.isFalse.isFalse.isFalse.isFalse.isTrue control _ _ _ _ _ _ => exact spells_code control
  case isFalse.isFalse.isFalse.isFalse.isFalse.isFalse.isFalse allowed _ _ _ _ _ unescaped =>
    exact .plain (Bool.eq_false_iff.2 allowed) unescaped unquoted
  -- every other character has a letter of its own
  all_goals
    next letter =>
    rw [letter]
    exact .letter rfl

/-- A character is spelled out, or it is a quote between three of them and there are not too many before it. -/
theorem escapeText_cons (long : Bool) (run : Nat) (c : Char) (text : List Char) :
    (∃ spelling, Spells long c spelling ∧ escapeText long run (c :: text) = spelling ++ escapeText long 0 text) ∨
      long = true ∧ run < 2 ∧ c = '"' ∧ escapeText long run (c :: text) = '"' :: escapeText long (run + 1) text := by
  rw [escapeText]
  split
  · next same =>
    rw [beq_iff_eq] at same
    subst same
    split
    · next few =>
      rw [Bool.and_eq_true, decide_eq_true_eq] at few
      exact .inr ⟨few.1, few.2, rfl, rfl⟩
    · exact .inl ⟨['\\', '"'], .letter rfl, rfl⟩
  · next other => exact .inl ⟨_, spells_escapeChar (by simpa using other), rfl⟩

theorem Spells.first (spells : Spells long c spelling) :
    ∃ first more, spelling = first :: more ∧ first ≠ '"' ∧ (isControl first = true → c = '\n') := by
  have slash : isControl '\\' = true → c = '\n' := fun control => absurd control (by decide)
  cases spells with
  | letter means => exact ⟨'\\', _, rfl, by decide, slash⟩
  | code means => exact ⟨'\\', _, rfl, by decide, slash⟩
  | plain allowed unescaped unquoted =>
    exact ⟨c, [], rfl, unquoted, fun control => absurd rfl (ne_of_class control allowed)⟩
  | newline => exact ⟨'\n', [], rfl, by decide, fun _ => rfl⟩

theorem Spells.readBasic? (spells : Spells false c spelling) (rest : List Char) :
    readBasic? (spelling ++ rest) = push? (some c) (readBasic? rest) := by
  cases spells with
  | letter means =>
    unfold unescape? at means
    split at means <;> cases means <;> rfl
  | code means =>
    change push? (escaped? _) (Toml.readBasic? rest) = _
    rw [means]
  | plain allowed unescaped unquoted =>
    rw [List.singleton_append, Toml.readBasic?, allowed, beq_eq_false_iff_ne.2 unescaped]
    · rfl
    · exact unquoted
    all_goals
      intros
      exact unescaped ‹_›

theorem readBasic?_escapeText (text rest : List Char) :
    readBasic? (escapeText false 0 text ++ '"' :: rest) = some (text, rest) := by
  induction text with
  | nil => rfl
  | cons c text ih =>
    rcases escapeText_cons false 0 c text with ⟨spelling, spells, same⟩ | ⟨wraps, -⟩
    · rw [same, List.append_assoc, spells.readBasic?, ih]
      rfl
    · cases wraps

/-- A character that needs no escape is read as itself where the text does not end. -/
theorem readLongBasic?_cons (allowed : isControl c = false) (unescaped : c ≠ '\\')
    (goes : c = '"' → ∀ tail, rest ≠ '"' :: '"' :: tail) :
    readLongBasic? false (c :: rest) = push? (some c) (readLongBasic? false rest) := by
  have inline : '\n' ≠ c := ne_of_class rfl allowed
  have unreturned : '\r' ≠ c := ne_of_class rfl allowed
  rw [readLongBasic?, allowed, beq_eq_false_iff_ne.2 unescaped]
  · rfl
  case x_4 => exact inline.symm
  case x_5 => exact fun _ same => absurd same.symm unreturned
  case x_6 | x_7 | x_8 | x_9 =>
    intros
    exact unescaped ‹_›
  all_goals exact fun tail same => goes same _

theorem Spells.readLongBasic? (spells : Spells true c spelling) (rest : List Char) :
    readLongBasic? false (spelling ++ rest) = push? (some c) (readLongBasic? false rest) := by
  cases spells with
  | letter means =>
    unfold unescape? at means
    split at means <;> cases means <;> rfl
  | code means =>
    change push? (escaped? _) (Toml.readLongBasic? false rest) = _
    rw [means]
  | plain allowed unescaped unquoted => exact readLongBasic?_cons allowed unescaped fun same => absurd same unquoted
  | newline => rfl

/-- At the end of a text up to two quotes belong to it. -/
theorem readLongBasic?_end (ends : ∀ tail, rest ≠ '"' :: tail) :
    readLongBasic? false ('"' :: '"' :: '"' :: rest) = some ([], rest) ∧
      readLongBasic? false ('"' :: '"' :: '"' :: '"' :: rest) = some (['"'], rest) ∧
      readLongBasic? false ('"' :: '"' :: '"' :: '"' :: '"' :: rest) = some (['"', '"'], rest) := by
  refine ⟨?_, ?_, rfl⟩
  · rw [readLongBasic?]
    · exact fun _ => ends _
    · exact ends
  · rw [readLongBasic?]
    exact ends

/-- Behind an unescaped quote two more come together only at the end. -/
theorem escapeText_quotes {tail : List Char} (quoted : 1 ≤ run)
    (same : escapeText true run text ++ '"' :: '"' :: '"' :: rest = '"' :: '"' :: tail) :
    text = [] ∨ run < 2 ∧ text = ['"'] := by
  have spelled : ∀ {c text spelling tail}, Spells true c spelling →
      spelling ++ escapeText true 0 text ++ '"' :: '"' :: '"' :: rest ≠ '"' :: tail := by
    intro c text spelling tail spells same
    obtain ⟨first, more, rfl, unquoted, -⟩ := spells.first
    exact unquoted (List.cons.inj same).1
  cases text with
  | nil => exact .inl rfl
  | cons c text =>
    rcases escapeText_cons true run c text with ⟨spelling, spells, whole⟩ | ⟨-, few, rfl, whole⟩
    · rw [whole] at same
      exact absurd same (spelled spells)
    · cases text with
      | nil => exact .inr ⟨few, rfl⟩
      | cons d text =>
        rw [whole] at same
        replace same := (List.cons.inj same).2
        rcases escapeText_cons true (run + 1) d text with ⟨spelling, spells, next⟩ | ⟨-, fewer, -⟩
        · rw [next] at same
          exact absurd same (spelled spells)
        · omega

theorem readLongBasic?_escapeText (ends : ∀ tail, rest ≠ '"' :: tail) (text : List Char) :
    readLongBasic? false (escapeText true run text ++ '"' :: '"' :: '"' :: rest) = some (text, rest) := by
  obtain ⟨none, one, two⟩ := readLongBasic?_end ends
  induction text generalizing run with
  | nil => exact none
  | cons c text ih =>
    rcases escapeText_cons true run c text with ⟨spelling, spells, same⟩ | ⟨-, few, rfl, same⟩
    · rw [same, List.append_assoc, spells.readLongBasic?, ih]
      rfl
    · rw [same, List.cons_append]
      by_cases goes : ∀ tail, escapeText true (run + 1) text ++ '"' :: '"' :: '"' :: rest ≠ '"' :: '"' :: tail
      · rw [readLongBasic?_cons rfl (by decide) fun _ => goes, ih]
        rfl
      · simp only [ne_eq, Classical.not_forall, Classical.not_not] at goes
        obtain ⟨tail, closes⟩ := goes
        rcases escapeText_quotes (Nat.le_add_left 1 run) closes with rfl | ⟨first, rfl⟩
        · exact one
        · obtain rfl : run = 0 := by omega
          exact two

/-! Between single quotes. -/

theorem readLiteral?_written (allowed : ∀ c ∈ text, isControl c = false) (unquoted : '\'' ∉ text) (rest : List Char) :
    readLiteral? (text ++ '\'' :: rest) = some (text, rest) := by
  induction text with
  | nil => rfl
  | cons c text ih =>
    rw [List.forall_mem_cons] at allowed
    rw [List.mem_cons, not_or] at unquoted
    rw [List.cons_append, readLiteral?, allowed.1, ih allowed.2 unquoted.2]
    · rfl
    · exact Ne.symm unquoted.1

theorem readLongLiteral?_cons (allowed : isControl c = true → c = '\n')
    (goes : c = '\'' → ∀ tail, rest ≠ '\'' :: '\'' :: tail) :
    readLongLiteral? (c :: rest) = push? (some c) (readLongLiteral? rest) := by
  by_cases newline : c = '\n'
  · rw [newline]
    rfl
  · have inside : isControl c = false := Bool.eq_false_iff.2 fun control => newline (allowed control)
    have unreturned : '\r' ≠ c := ne_of_class rfl inside
    rw [readLongLiteral?, inside]
    · rfl
    case x_4 => exact newline
    case x_5 => exact fun _ same => absurd same.symm unreturned
    all_goals exact fun tail same => goes same _

theorem readLongLiteral?_end (ends : ∀ tail, rest ≠ '\'' :: tail) :
    readLongLiteral? ('\'' :: '\'' :: '\'' :: rest) = some ([], rest) ∧
      readLongLiteral? ('\'' :: '\'' :: '\'' :: '\'' :: rest) = some (['\''], rest) ∧
      readLongLiteral? ('\'' :: '\'' :: '\'' :: '\'' :: '\'' :: rest) = some (['\'', '\''], rest) := by
  refine ⟨?_, ?_, rfl⟩
  · rw [readLongLiteral?]
    · exact fun _ => ends _
    · exact ends
  · rw [readLongLiteral?]
    exact ends

theorem hasTriple_cons {quote : Char} (few : hasTriple quote (c :: text) = false) :
    hasTriple quote text = false ∧ (c = quote → ∀ more, text ≠ quote :: quote :: more) := by
  rcases text with - | ⟨d, - | ⟨e, more⟩⟩
  · exact ⟨rfl, nofun⟩
  · exact ⟨rfl, nofun⟩
  · rw [hasTriple, Bool.or_eq_false_iff] at few
    refine ⟨few.2, ?_⟩
    rintro rfl _ same
    cases same
    simp at few

theorem readLongLiteral?_written (allowed : ∀ c ∈ text, isControl c = true → c = '\n')
    (few : hasTriple '\'' text = false) (ends : ∀ tail, rest ≠ '\'' :: tail) :
    readLongLiteral? (text ++ '\'' :: '\'' :: '\'' :: rest) = some (text, rest) := by
  obtain ⟨none, one, two⟩ := readLongLiteral?_end ends
  induction text with
  | nil => exact none
  | cons c text ih =>
    rw [List.forall_mem_cons] at allowed
    obtain ⟨fewer, apart⟩ := hasTriple_cons few
    by_cases goes : c = '\'' → ∀ tail, text ++ '\'' :: '\'' :: '\'' :: rest ≠ '\'' :: '\'' :: tail
    · rw [List.cons_append, readLongLiteral?_cons allowed.1 goes, ih allowed.2 fewer]
      rfl
    · simp only [ne_eq, Classical.not_imp, Classical.not_forall, Classical.not_not] at goes
      obtain ⟨rfl, tail, closes⟩ := goes
      rcases text with - | ⟨d, - | ⟨e, more⟩⟩
      · exact one
      · obtain ⟨rfl, -⟩ := List.cons.inj closes
        exact two
      · obtain ⟨rfl, after⟩ := List.cons.inj closes
        obtain ⟨rfl, -⟩ := List.cons.inj after
        exact absurd rfl (apart rfl more)

/-! The quotes that suit a text. -/

/-- Where no character needs an escape, none is a control character but newlines. -/
theorem eq_newline_of_isControl (plain : ¬text.any needsEscape = true) : ∀ c ∈ text, isControl c = true → c = '\n' := by
  simpa [needsEscape] using plain

theorem styleOf_literal (suits : styleOf text = .literal) : (∀ c ∈ text, isControl c = false) ∧ '\'' ∉ text := by
  unfold styleOf at suits
  dsimp only at suits
  repeat' split at suits
  case isFalse.isFalse.isTrue plain _ single =>
    simp only [Bool.and_eq_true, Bool.not_eq_true', List.contains_eq_mem, decide_eq_false_iff_not] at single
    refine ⟨fun c member => Bool.eq_false_iff.2 fun control => single.1 ?_, single.2⟩
    rw [← eq_newline_of_isControl plain c member control]
    exact member
  all_goals cases suits

/-- Three single quotes hold no three of them and no control character but newlines. -/
theorem styleOf_longLiteral (suits : styleOf text = .longLiteral) :
    (∀ c ∈ text, isControl c = true → c = '\n') ∧ hasTriple '\'' text = false := by
  unfold styleOf at suits
  dsimp only at suits
  repeat' split at suits
  case isFalse.isFalse.isFalse.isFalse.isTrue plain _ _ _ few =>
    exact ⟨eq_newline_of_isControl plain, by simpa using few⟩
  all_goals cases suits

def opening (text : List Char) : List Char :=
  if text.contains '\n' then ['\n'] else []

theorem written_basic (suits : styleOf text = .basic) : written text = '"' :: (escapeText false 0 text ++ ['"']) := by
  unfold written
  rw [suits]
  rfl

theorem written_literal (suits : styleOf text = .literal) : written text = '\'' :: (text ++ ['\'']) := by
  unfold written
  rw [suits]
  rfl

theorem written_longBasic (suits : styleOf text = .longBasic) : written text =
    '"' :: '"' :: '"' :: (opening text ++ (escapeText true 0 text ++ ['"', '"', '"'])) := by
  unfold written
  rw [suits]
  simp [Style.delimiter, opening]

theorem written_longLiteral (suits : styleOf text = .longLiteral) : written text =
    '\'' :: '\'' :: '\'' :: (opening text ++ (text ++ ['\'', '\'', '\''])) := by
  unfold written
  rw [suits]
  simp [Style.delimiter, opening]

theorem dropNewline_opening (inline : '\n' ∉ text → ∀ c ∈ rest.head?, isControl c = false) :
    dropNewline (opening text ++ rest) = rest := by
  rw [opening]
  split
  · rfl
  · next single =>
    rw [List.contains_iff_mem] at single
    replace inline := inline single
    rw [List.nil_append, dropNewline.eq_def]
    split
    · exact absurd (inline _ rfl) (by decide)
    · exact absurd (inline _ rfl) (by decide)
    · rfl

/-- Only a quote at the start of a text leaves one there. -/
theorem escapeText_starts (long : Bool) (c : Char) (text : List Char) :
    ∃ first more, escapeText long 0 (c :: text) = first :: more ∧ (long = false → first ≠ '"') ∧
      (isControl first = true → c = '\n') := by
  rcases escapeText_cons long 0 c text with ⟨spelling, spells, same⟩ | ⟨wraps, -, -, same⟩
  · obtain ⟨first, more, rfl, unquoted, control⟩ := spells.first
    exact ⟨first, _, same, fun _ => unquoted, control⟩
  · refine ⟨'"', _, same, fun single => ?_, fun control => absurd control (by decide)⟩
    rw [wraps] at single
    cases single

/-- A text in double quotes on one line does not look like one between three of them. -/
theorem escapeText_single_ne (ends : ∀ tail, rest ≠ '"' :: tail) (text tail : List Char) :
    escapeText false 0 text ++ '"' :: rest ≠ '"' :: '"' :: tail := by
  intro same
  cases text with
  | nil => exact ends tail (List.cons.inj same).2
  | cons c text =>
    obtain ⟨first, more, starts, unquoted, -⟩ := escapeText_starts false c text
    rw [starts] at same
    exact unquoted rfl (List.cons.inj same).1

theorem dropNewline_escapeText (text rest : List Char) :
    dropNewline (opening text ++ (escapeText true 0 text ++ '"' :: rest)) = escapeText true 0 text ++ '"' :: rest := by
  apply dropNewline_opening
  intro inline d head
  cases text with
  | nil =>
    cases head
    rfl
  | cons c text =>
    obtain ⟨first, more, starts, -, control⟩ := escapeText_starts true c text
    rw [starts] at head
    cases head
    exact Bool.eq_false_iff.2 fun wraps => inline (control wraps ▸ List.mem_cons_self)

theorem dropNewline_literal (allowed : ∀ c ∈ text, isControl c = true → c = '\n') (rest : List Char) :
    dropNewline (opening text ++ (text ++ '\'' :: rest)) = text ++ '\'' :: rest := by
  apply dropNewline_opening
  intro inline d head
  cases text with
  | nil =>
    cases head
    rfl
  | cons c text =>
    cases head
    exact Bool.eq_false_iff.2 fun wraps => inline (allowed _ List.mem_cons_self wraps ▸ List.mem_cons_self)

/-- A text is read back from its quotes, whatever stands after them that is no quote. -/
theorem readQuoted?_written (ends : ∀ c ∈ rest.head?, c ≠ '"' ∧ c ≠ '\'') (text : List Char) :
    readQuoted? (written text ++ rest) = some (text, rest) := by
  have double : ∀ tail, rest ≠ '"' :: tail := by
    rintro tail rfl
    exact (ends '"' rfl).1 rfl
  have single : ∀ tail, rest ≠ '\'' :: tail := by
    rintro tail rfl
    exact (ends '\'' rfl).2 rfl
  cases suits : styleOf text with
  | basic =>
    rw [written_basic suits, List.cons_append, List.append_assoc, List.singleton_append, readQuoted?]
    · exact readBasic?_escapeText text rest
    · exact escapeText_single_ne double text
  | literal =>
    obtain ⟨allowed, unquoted⟩ := styleOf_literal suits
    rw [written_literal suits, List.cons_append, List.append_assoc, List.singleton_append, readQuoted?]
    · exact readLiteral?_written allowed unquoted rest
    · intro tail same
      cases text with
      | nil => exact single tail (List.cons.inj same).2
      | cons c text => exact unquoted ((List.cons.inj same).1 ▸ List.mem_cons_self)
  | longBasic =>
    rw [written_longBasic suits, List.cons_append, List.cons_append, List.cons_append, List.append_assoc,
      List.append_assoc, readQuoted?]
    exact (congrArg _ (dropNewline_escapeText text _)).trans (readLongBasic?_escapeText double text)
  | longLiteral =>
    obtain ⟨allowed, few⟩ := styleOf_longLiteral suits
    rw [written_longLiteral suits, List.cons_append, List.cons_append, List.cons_append, List.append_assoc,
      List.append_assoc, readQuoted?]
    exact (congrArg _ (dropNewline_literal allowed _)).trans (readLongLiteral?_written allowed few single)

end IssueQuery.Toml
