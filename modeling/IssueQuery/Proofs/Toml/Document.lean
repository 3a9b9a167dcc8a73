import IssueQuery.Proofs.Text.Decimal
import IssueQuery.Proofs.Toml.Quoted
import IssueQuery.Toml.Reader

/-!
Documents of lines that each hold a key without quotes and a value. Such a document is read as its keys and what its
values stand for, in the same order.
-/

namespace IssueQuery.Toml

open Text

variable {text rest : List Char} {c d : Char} {fuel : Nat} {entries : Entries}

/-! Values. -/

theorem written_starts (text : List Char) : ∃ quote more, written text = quote :: more ∧ (quote = '"' ∨ quote = '\'') := by
  cases suits : styleOf text with
  | basic => exact ⟨'"', _, written_basic suits, .inl rfl⟩
  | literal => exact ⟨'\'', _, written_literal suits, .inr rfl⟩
  | longBasic => exact ⟨'"', _, written_longBasic suits, .inl rfl⟩
  | longLiteral => exact ⟨'\'', _, written_longLiteral suits, .inr rfl⟩

theorem value?_written (fuel : Nat) (text rest : List Char) : value? (fuel + 1) (written text ++ '\n' :: rest) =
    some (.text (String.ofList text), '\n' :: rest) := by
  have ends : ∀ c ∈ ('\n' :: rest).head?, c ≠ '"' ∧ c ≠ '\'' := stops_at (by decide)
  have read := readQuoted?_written ends text
  obtain ⟨quote, more, front, rfl | rfl⟩ := written_starts text
  all_goals
    rw [front, List.cons_append] at read ⊢
    rw [value?, read]
    rfl

theorem ungrouped?_digits (filled : text ≠ []) (digits : ∀ c ∈ text, c.isDigit = true) :
    ungrouped? Char.isDigit text = some text := by
  induction text with
  | nil => exact absurd rfl filled
  | cons c text ih =>
    rw [List.forall_mem_cons] at digits
    cases text with
    | nil => rw [ungrouped?, digits.1, if_pos rfl]
    | cons d text =>
      have single : d ≠ '_' := ne_of_class (digits.2 d List.mem_cons_self) (by decide)
      rw [ungrouped?, digits.1, if_pos rfl, ih (List.cons_ne_nil d text) digits.2]
      · rfl
      · exact nofun
      · exact fun _ same => single (List.cons.inj same).1

theorem decimal?_toDigits (n : Nat) : decimal? (Nat.toDigits 10 n) = some n := by
  have zeros : ¬((Nat.toDigits 10 n).head? == some '0' && 1 < (Nat.toDigits 10 n).length) = true := by
    simp only [Bool.and_eq_true, beq_iff_eq, decide_eq_true_eq, not_and, Nat.not_lt]
    intro zero
    obtain ⟨more, front⟩ := List.head?_eq_some_iff.1 zero
    obtain ⟨-, rfl⟩ := toDigits_zero_cons front
    rw [front, List.length_singleton]
  rw [decimal?, ungrouped?_digits Nat.toDigits_ne_nil fun _ => isDigit_toDigits]
  dsimp only [bind, Option.bind]
  rw [if_neg zeros]
  exact congrArg some (digitsValue_toDigits n)

theorem toDigits_ne (other : c.isDigit = false) (n : Nat) (before after : List Char) :
    Nat.toDigits 10 n ≠ before ++ c :: after := by
  intro same
  have digit : c.isDigit = true := isDigit_toDigits (same ▸ List.mem_append_right before List.mem_cons_self)
  exact ne_of_class digit other rfl

theorem integer?_toDigits (n : Nat) : integer? (Nat.toDigits 10 n) = some (Int.ofNat n) := by
  rw [integer?, decimal?_toDigits]
  · rfl
  case x_1 | x_2 | x_3 => exact toDigits_ne (by decide) n ['0']
  case x_4 | x_5 => exact toDigits_ne (by decide) n []

theorem scalar?_toDigits (n : Nat) : scalar? (Nat.toDigits 10 n) = some (.integer n) := by
  have letters : ∀ {c text}, c.isDigit = false → (Nat.toDigits 10 n == c :: text) = false :=
    fun other => beq_eq_false_iff_ne.2 (toDigits_ne other n [] _)
  rw [scalar?, letters (by decide), letters (by decide), integer?_toDigits]
  rfl

theorem scalarText_toDigits (n : Nat) (rest : List Char) :
    scalarText (Nat.toDigits 10 n ++ '\n' :: rest) = (Nat.toDigits 10 n, '\n' :: rest) := by
  have inside : ∀ c ∈ Nat.toDigits 10 n, isScalarChar c = true := by
    intro c member
    simp [isScalarChar, Char.isAlphanum, isDigit_toDigits member]
  have stop : ∀ c ∈ ('\n' :: rest).head?, isScalarChar c = false := stops_at (by decide)
  rw [scalarText, takeWhile_run inside stop, dropWhile_run inside stop]
  cases afterDate? (Nat.toDigits 10 n) with
  | none => rfl
  | some after => cases after <;> rfl

theorem value?_toDigits (fuel n : Nat) (rest : List Char) : value? (fuel + 1) (Nat.toDigits 10 n ++ '\n' :: rest) =
    some (.integer n, '\n' :: rest) := by
  obtain ⟨c, more, front⟩ := List.exists_cons_of_ne_nil (@Nat.toDigits_ne_nil n 10)
  have digit : c.isDigit = true := isDigit_toDigits (front ▸ List.mem_cons_self)
  have scalar := scalarText_toDigits n rest
  have node := scalar?_toDigits n
  rw [front, List.cons_append] at scalar
  rw [front] at node
  rw [front, List.cons_append, value?, scalar]
  · dsimp only
    rw [node]
    rfl
  all_goals exact fun _ same => ne_of_class digit (by decide) (List.cons.inj same).1

/-! Lines. -/

theorem isBlank_of_isBareKey (bare : isBareKey c = true) : isBlank c = false := by
  have space : c ≠ ' ' := ne_of_class bare (by decide)
  have tab : c ≠ '\t' := ne_of_class bare (by decide)
  rw [isBlank, beq_eq_false_iff_ne.2 space, beq_eq_false_iff_ne.2 tab]
  rfl

theorem skipBlanks_cons (inked : isBlank c = false) (rest : List Char) : skipBlanks (c :: rest) = c :: rest :=
  List.dropWhile_cons_of_neg (Bool.eq_false_iff.1 inked)

theorem skipTrivia?_of_isBareKey (bare : isBareKey c = true) (rest : List Char) :
    skipTrivia? false (c :: rest) = some (c :: rest) := by
  have sign : c ≠ '#' := ne_of_class bare (by decide)
  rw [skipTrivia?, isBlank_of_isBareKey bare, beq_eq_false_iff_ne.2 sign]
  · rfl
  · exact ne_of_class bare (by decide)
  · exact fun _ same => absurd same (ne_of_class bare (by decide))

theorem atLineEnd_newline (rest : List Char) : atLineEnd ('\n' :: rest) = true := by
  rw [atLineEnd, skipBlanks_cons rfl]
  rfl

theorem readFrom?_newline (fuel : Nat) (place : List String) (entries : Entries) (rest : List Char) :
    readFrom? fuel place entries ('\n' :: rest) = readFrom? fuel place entries rest := by
  cases fuel <;> rfl

structure Binding where
  key : String
  value : List Char
  node : Node

namespace Binding

def line (binding : Binding) : List Char :=
  binding.key.toList ++ " = ".toList ++ binding.value ++ ['\n']

def entry (binding : Binding) : String × Node :=
  (binding.key, binding.node)

structure Sound (binding : Binding) : Prop where
  filled : binding.key.toList ≠ []
  bare : ∀ c ∈ binding.key.toList, isBareKey c = true
  inked : ∀ c ∈ binding.value.head?, isBlank c = false
  reads : ∀ fuel rest, value? (fuel + 1) (binding.value ++ '\n' :: rest) = some (binding.node, '\n' :: rest)

variable {binding : Binding} {bindings : List Binding}

theorem line_append (binding : Binding) (rest : List Char) : binding.line ++ rest =
    binding.key.toList ++ ' ' :: '=' :: ' ' :: (binding.value ++ '\n' :: rest) := by
  rw [line, List.append_assoc, List.append_assoc, List.append_assoc]
  rfl

theorem Sound.starts (sound : binding.Sound) : ∃ c more, binding.key.toList = c :: more ∧ isBareKey c = true := by
  obtain ⟨c, more, front⟩ := List.exists_cons_of_ne_nil sound.filled
  exact ⟨c, more, front, sound.bare c (front ▸ List.mem_cons_self)⟩

theorem Sound.key? (sound : binding.Sound) (fuel : Nat) (rest : List Char) :
    key? (fuel + 1) (binding.key.toList ++ ' ' :: '=' :: rest) = some ([binding.key], '=' :: rest) := by
  have stop : ∀ c ∈ (' ' :: '=' :: rest).head?, isBareKey c = false := stops_at (by decide)
  have take := takeWhile_run sound.bare stop
  have drop := dropWhile_run sound.bare stop
  obtain ⟨c, more, front, bare⟩ := sound.starts
  have blanks : skipBlanks (binding.key.toList ++ ' ' :: '=' :: rest) = binding.key.toList ++ ' ' :: '=' :: rest := by
    rw [front, List.cons_append, skipBlanks_cons (isBlank_of_isBareKey bare)]
  have part : keyPart? (binding.key.toList ++ ' ' :: '=' :: rest) = some (binding.key, ' ' :: '=' :: rest) := by
    rw [front, List.cons_append] at take drop ⊢
    rw [keyPart?, take, drop, ← front]
    · simp [sound.filled]
    all_goals exact fun _ same => ne_of_class bare (by decide) (List.cons.inj same).1
  rw [Toml.key?, blanks, part]
  rfl

theorem Sound.binding? (sound : binding.Sound) (rest : List Char) :
    binding? (binding.line ++ rest) = some (([binding.key], binding.node), '\n' :: rest) := by
  obtain ⟨fuel, enough⟩ : ∃ fuel, (binding.line ++ rest).length = fuel + 1 := by
    rw [line_append, List.length_append, List.length_cons]
    exact ⟨_, rfl⟩
  have value : skipBlanks (' ' :: (binding.value ++ '\n' :: rest)) = binding.value ++ '\n' :: rest := by
    have inked := sound.inked
    change skipBlanks (binding.value ++ '\n' :: rest) = _
    cases front : binding.value with
    | nil => rfl
    | cons c more =>
      rw [front] at inked
      exact skipBlanks_cons (inked c rfl) _
  have read := sound.reads fuel rest
  rw [← value] at read
  rw [Toml.binding?, enough, line_append, sound.key?]
  simp [dropChar?, read]

theorem Sound.readFrom? (sound : binding.Sound) (fresh : entries.lookup binding.key = none) (fuel : Nat)
    (rest : List Char) : readFrom? (fuel + 1) [] entries (binding.line ++ rest) =
      readFrom? fuel [] (entries ++ [binding.entry]) ('\n' :: rest) := by
  have read := sound.binding? rest
  obtain ⟨c, more, front, bare⟩ := sound.starts
  rw [line_append, front, List.cons_append] at read ⊢
  rw [Toml.readFrom?, skipTrivia?_of_isBareKey bare]
  dsimp only [bind, Option.bind]
  split
  · next none => cases none
  · next bracket => exact absurd (List.cons.inj bracket).1 (ne_of_class bare (by decide))
  · rw [read]
    simp [atLineEnd_newline, Entries.within?, Entries.define?, fresh, entry]

end Binding

/-- A document of lines with different keys is read as their entries. -/
theorem readFrom?_lines {bindings : List Binding} (sound : ∀ binding ∈ bindings, binding.Sound)
    (fresh : ((entries ++ bindings.map Binding.entry).map Prod.fst).Nodup) (enough : bindings.length < fuel) :
    readFrom? fuel [] entries (bindings.flatMap Binding.line) = some (entries ++ bindings.map Binding.entry) := by
  obtain ⟨fuel, rfl⟩ := Nat.exists_eq_add_one_of_ne_zero (Nat.ne_zero_of_lt enough)
  induction bindings generalizing fuel entries with
  | nil =>
    rw [List.map_nil, List.append_nil]
    rfl
  | cons binding bindings ih =>
    obtain ⟨first, later⟩ := List.forall_mem_cons.1 sound
    have absent : entries.lookup binding.key = none := by
      rw [List.map_append, List.nodup_append] at fresh
      rw [List.lookup_eq_none_iff]
      intro entry member
      have different := fresh.2.2 _ (List.mem_map_of_mem member) binding.key List.mem_cons_self
      exact bne_iff_ne.2 (Ne.symm different)
    rw [List.length_cons, Nat.add_lt_add_iff_right] at enough
    obtain ⟨fuel, rfl⟩ := Nat.exists_eq_add_one_of_ne_zero (Nat.ne_zero_of_lt enough)
    rw [List.flatMap_cons, first.readFrom? absent, readFrom?_newline, ih later]
    · simp
    · simpa using fresh
    · exact enough

theorem length_le_lines {bindings : List Binding} : bindings.length ≤ (bindings.flatMap Binding.line).length := by
  induction bindings with
  | nil => exact Nat.le_refl 0
  | cons binding bindings ih =>
    rw [List.flatMap_cons, Binding.line_append, List.length_append, List.length_cons, List.length_cons]
    simp only [List.length_cons, List.length_append]
    omega

/-- No byte order mark stands in front of a key. -/
theorem read?_lines {bindings : List Binding} (sound : ∀ binding ∈ bindings, binding.Sound)
    (fresh : (bindings.map Binding.key).Nodup) :
    read? (String.ofList (bindings.flatMap Binding.line)) = some (bindings.map Binding.entry) := by
  have keys : (([] ++ bindings.map Binding.entry).map Prod.fst).Nodup := by
    rw [List.nil_append, List.map_map]
    exact fresh
  have read := readFrom?_lines sound keys (Nat.lt_succ_of_le length_le_lines)
  have unmarked : ∀ tail, bindings.flatMap Binding.line ≠ '\uFEFF' :: tail := by
    intro tail same
    cases bindings with
    | nil => cases same
    | cons binding bindings =>
      obtain ⟨c, more, front, bare⟩ := (sound binding List.mem_cons_self).starts
      rw [List.flatMap_cons, Binding.line_append, front] at same
      exact ne_of_class bare (by decide) (List.cons.inj same).1
  rw [read?, String.toList_ofList]
  split
  · next marked => exact absurd marked (unmarked _)
  · exact read

end IssueQuery.Toml
