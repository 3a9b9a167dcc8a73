import IssueQuery.Proofs.Text.Runs
import IssueQuery.Text.Digits
import IssueQuery.Text.Quoted

/-!
Quoted text. What stands between the quotes can be read back character by character, all of it is printable, and a
character stands there as itself exactly if it is plain.
-/

namespace IssueQuery.Text

theorem hexValue?_digitChar : ∀ d < 16, hexValue? d.digitChar = some d := by
  decide

theorem valueIn?_toDigits {base : Nat} (least : 1 < base) (most : base ≤ 16) (n : Nat) :
    valueIn? base (Nat.toDigits base n) = some n := by
  induction n using Nat.strongRecOn with
  | ind n ih =>
    have last : n % base < base := Nat.mod_lt n (by omega)
    rw [Nat.toDigits_eq_if least]
    split
    · next small => simp [valueIn?, hexValue?_digitChar n (by omega), small]
    · next large =>
      have before : valueIn? base (Nat.toDigits base (n / base)) = some (n / base) :=
        ih (n / base) (Nat.div_lt_self (by omega) least)
      rw [valueIn?] at before
      rw [valueIn?, List.foldlM_append, before]
      simp [hexValue?_digitChar (n % base) (by omega), last, Nat.div_add_mod]

theorem mem_hex {n : Nat} {c : Char} (member : c ∈ hex n) : c ∈ "0123456789abcdef".toList := by
  have digit : ∀ d < 16, d.digitChar ∈ "0123456789abcdef".toList := by decide
  rw [hex] at member
  induction n using Nat.strongRecOn with
  | ind n ih =>
    rw [Nat.toDigits_eq_if (by decide)] at member
    split at member
    · next small =>
      rw [List.mem_singleton.1 member]
      exact digit n small
    · next large =>
      rcases List.mem_append.1 member with before | last
      · exact ih (n / 16) (Nat.div_lt_self (by omega) (by decide)) before
      · rw [List.mem_singleton.1 last]
        exact digit (n % 16) (Nat.mod_lt n (by decide))

structure IsPlain (c : Char) : Prop where
  printable : isPrintable c = true
  apart : extendsGrapheme c = false
  unquoted : c ≠ '"'
  unescaped : c ≠ '\\'

theorem isPlain_iff {c : Char} :
    IsPlain c ↔ isPrintable c = true ∧ extendsGrapheme c = false ∧ c ≠ '"' ∧ c ≠ '\\' :=
  ⟨fun plain => ⟨plain.printable, plain.apart, plain.unquoted, plain.unescaped⟩,
    fun ⟨printable, apart, unquoted, unescaped⟩ => ⟨printable, apart, unquoted, unescaped⟩⟩

instance (c : Char) : Decidable (IsPlain c) :=
  decidable_of_iff' _ isPlain_iff

theorem escaped_plain {c : Char} (plain : IsPlain c) : escaped c = [c] := by
  obtain ⟨printable, apart, unquoted, unescaped⟩ := plain
  unfold escaped
  split
  case h_5 => exact absurd rfl unescaped
  case h_6 => exact absurd rfl unquoted
  case h_7 => simp [printable, apart]
  all_goals exact absurd printable (by decide)

def escapeLetters : List (Char × Char) :=
  [('0', '\x00'), ('t', '\t'), ('r', '\r'), ('n', '\n'), ('\\', '\\'), ('"', '"')]

theorem escaped_other {c : Char} (other : ¬IsPlain c) :
    (∃ letter, (letter, c) ∈ escapeLetters ∧ escaped c = ['\\', letter]) ∨
      escaped c = '\\' :: 'u' :: '\x7b' :: (hex c.toNat ++ ['\x7d']) := by
  unfold escaped
  split
  case h_7 unescaped unquoted =>
    right
    rw [if_pos]
    · rfl
    · by_contra plain
      simp only [Bool.or_eq_true, Bool.not_eq_true', not_or, Bool.not_eq_true, Bool.not_eq_false] at plain
      exact other ⟨plain.2, plain.1, unquoted, unescaped⟩
  all_goals exact .inl ⟨_, by decide, rfl⟩

theorem escaped_ne_self {c : Char} (other : ¬IsPlain c) : 1 < (escaped c).length := by
  rcases escaped_other other with ⟨letter, -, same⟩ | same <;> simp [same]

theorem isPrintable_escaped {c d : Char} (member : d ∈ escaped c) : isPrintable d = true := by
  by_cases plain : IsPlain c
  · rw [escaped_plain plain] at member
    rw [List.mem_singleton.1 member]
    exact plain.printable
  · have letters : ("\\u\x7b\x7d".toList ++ "0123456789abcdef".toList).all isPrintable = true := by decide
    have marks : (escapeLetters.all fun entry => isPrintable entry.1) = true := by decide
    rcases escaped_other plain with ⟨letter, listed, same⟩ | same
    · simp only [same, List.mem_cons, List.not_mem_nil, or_false] at member
      rcases member with rfl | rfl
      · decide
      · exact List.all_eq_true.1 marks _ listed
    · apply List.all_eq_true.1 letters
      have digits := @mem_hex c.toNat d
      simp only [same, List.mem_cons, List.mem_append, List.not_mem_nil, or_false] at member
      rcases member with rfl | rfl | rfl | inside | rfl
      · decide
      · decide
      · decide
      · exact List.mem_append_right "\\u\x7b\x7d".toList (digits inside)
      · decide

theorem quote_not_mem_escaped {c : Char} (other : c ≠ '"') : '"' ∉ escaped c := by
  intro member
  by_cases plain : IsPlain c
  · rw [escaped_plain plain] at member
    exact other (List.mem_singleton.1 member).symm
  · rcases escaped_other plain with ⟨letter, listed, same⟩ | same
    · simp only [same, List.mem_cons, List.not_mem_nil, or_false] at member
      rcases member with slash | rfl
      · exact absurd slash (by decide)
      · have alone : (escapeLetters.all fun entry => entry.1 != '"' || entry.2 == '"') = true := by decide
        exact other (by simpa using List.all_eq_true.1 alone _ listed)
    · have digits := @mem_hex c.toNat '"'
      simp only [same, List.mem_cons, List.mem_append, List.not_mem_nil, or_false] at member
      rcases member with wrong | wrong | wrong | inside | wrong
      · exact absurd wrong (by decide)
      · exact absurd wrong (by decide)
      · exact absurd wrong (by decide)
      · exact absurd (digits inside) (by decide)
      · exact absurd wrong (by decide)

def unescape? : List Char → Option (Char × List Char)
  | '\\' :: 'u' :: '\x7b' :: rest => do
    let code ← valueIn? 16 (rest.takeWhile (· != '\x7d'))
    return (Char.ofNat code, (rest.dropWhile (· != '\x7d')).drop 1)
  | '\\' :: letter :: rest => (escapeLetters.lookup letter).map fun c => (c, rest)
  | c :: rest => some (c, rest)
  | [] => none

theorem unescape?_hex (c : Char) (rest : List Char) :
    unescape? ('\\' :: 'u' :: '\x7b' :: (hex c.toNat ++ '\x7d' :: rest)) = some (c, rest) := by
  have digits : "0123456789abcdef".toList.all (· != '\x7d') = true := by decide
  have inside : ∀ d ∈ hex c.toNat, (d != '\x7d') = true :=
    fun d member => List.all_eq_true.1 digits d (mem_hex member)
  have stop : ∀ d ∈ ('\x7d' :: rest).head?, (d != '\x7d') = false := by
    intro d head
    cases head
    decide
  rw [unescape?, takeWhile_run inside stop, dropWhile_run inside stop, hex, valueIn?_toDigits (by decide) (by decide)]
  simp

theorem unescape?_escaped (c : Char) (rest : List Char) : unescape? (escaped c ++ rest) = some (c, rest) := by
  by_cases plain : IsPlain c
  · rw [escaped_plain plain, List.singleton_append, unescape?]
    · exact fun _ same => absurd same plain.unescaped
    · exact fun _ _ same => absurd same plain.unescaped
  · rcases escaped_other plain with ⟨letter, listed, same⟩ | same
    · rw [same]
      simp only [escapeLetters, List.mem_cons, List.not_mem_nil, or_false, Prod.mk.injEq] at listed
      rcases listed with ⟨rfl, rfl⟩ | ⟨rfl, rfl⟩ | ⟨rfl, rfl⟩ | ⟨rfl, rfl⟩ | ⟨rfl, rfl⟩ | ⟨rfl, rfl⟩ <;> rfl
    · rw [same]
      simpa using unescape?_hex c rest

theorem escaped_inj {c d : Char} {rest after : List Char} (same : escaped c ++ rest = escaped d ++ after) :
    c = d ∧ rest = after := by
  have read := unescape?_escaped c rest
  rw [same, unescape?_escaped] at read
  cases read
  exact ⟨rfl, rfl⟩

theorem escaped_ne_quote (c : Char) (rest after : List Char) : escaped c ++ rest ≠ '"' :: after := by
  by_cases plain : IsPlain c
  · rw [escaped_plain plain]
    exact fun same => plain.unquoted (List.cons.inj same).1
  · rcases escaped_other plain with ⟨letter, -, same⟩ | same
    all_goals
      rw [same]
      exact fun wrong => absurd (List.cons.inj wrong).1 (by decide)

/-- A text is known from its quoted form, whatever stands behind that. -/
theorem quotedChars_inj {text other rest after : List Char}
    (same : quotedChars text ++ rest = quotedChars other ++ after) : text = other ∧ rest = after := by
  simp only [quotedChars, List.cons_append, List.append_assoc, List.nil_append] at same
  replace same := (List.cons.inj same).2
  induction text generalizing other with
  | nil =>
    cases other with
    | nil => exact ⟨rfl, (List.cons.inj same).2⟩
    | cons d others =>
      rw [List.flatMap_cons, List.append_assoc] at same
      exact absurd same.symm (escaped_ne_quote d _ rest)
  | cons c text ih =>
    rw [List.flatMap_cons, List.append_assoc] at same
    cases other with
    | nil => exact absurd same (escaped_ne_quote c _ after)
    | cons d others =>
      rw [List.flatMap_cons, List.append_assoc] at same
      obtain ⟨rfl, later⟩ := escaped_inj same
      obtain ⟨rfl, behind⟩ := ih later
      exact ⟨rfl, behind⟩

theorem isPrintable_quotedChars {text : List Char} {c : Char} (member : c ∈ quotedChars text) :
    isPrintable c = true := by
  simp only [quotedChars, List.cons_append, List.mem_cons, List.mem_append, List.mem_flatMap, List.not_mem_nil,
    or_false] at member
  rcases member with rfl | ⟨d, -, inside⟩ | rfl
  · decide
  · exact isPrintable_escaped inside
  · decide

theorem length_le_escaped (text : List Char) : text.length ≤ (text.flatMap escaped).length := by
  induction text with
  | nil => exact Nat.le_refl 0
  | cons c rest ih =>
    have first : 1 ≤ (escaped c).length := by
      by_cases plain : IsPlain c
      · rw [escaped_plain plain, List.length_singleton]
      · exact Nat.le_of_lt (escaped_ne_self plain)
    rw [List.flatMap_cons, List.length_append, List.length_cons]
    omega

/-- A text stands between quotes as it is exactly if all its characters are plain. -/
theorem flatMap_escaped_eq_iff {text : List Char} : text.flatMap escaped = text ↔ ∀ c ∈ text, IsPlain c := by
  induction text with
  | nil => simp
  | cons c rest ih =>
    rw [List.flatMap_cons, List.forall_mem_cons, ← ih]
    by_cases plain : IsPlain c
    · simp [escaped_plain plain, plain]
    · refine ⟨fun same => ?_, fun both => absurd both.1 plain⟩
      have long := escaped_ne_self plain
      have least := length_le_escaped rest
      have length := congrArg List.length same
      rw [List.length_append, List.length_cons] at length
      omega

end IssueQuery.Text
