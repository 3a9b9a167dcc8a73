import IssueQuery.Json.Reader
import IssueQuery.Json.Writer
import IssueQuery.Proofs.Text.Decimal

/-!
JSON text on one line is read back as the value it was written from, whatever texts, numbers and nesting are in it, if
its numbers are whole.
-/

namespace IssueQuery.Json
open Text

variable {rest : List Char} {fuel : Nat}

/-! Texts. -/

theorem hexValue?_hexDigit : ∀ d < 16, hexValue? (hexDigit d) = some d := by
  decide

theorem hexCode?_control {n : Nat} (small : n < 0x20) :
    hexCode? '0' '0' (hexDigit (n / 16)) (hexDigit (n % 16)) = some n := by
  have zero : hexValue? '0' = some 0 := rfl
  rw [hexCode?, zero, hexValue?_hexDigit (n / 16) (by omega), hexValue?_hexDigit (n % 16) (by omega)]
  exact congrArg some (by omega)

theorem readCodes?_escaped (c : Char) (rest : List Char) :
    readCodes? (escaped c ++ rest) = (readCodes? rest).map fun found => (c.toNat :: found.1, found.2) := by
  unfold escaped
  split
  case h_8 unquoted unescaped _ _ _ _ _ =>
    split
    · next control =>
      rw [List.cons_append, List.cons_append, List.cons_append, List.cons_append, List.cons_append, List.cons_append,
        List.nil_append, readCodes?, hexCode?_control control]
      cases readCodes? rest <;> rfl
    · next plain =>
      rw [List.singleton_append, readCodes?, if_neg plain]
      · exact unquoted
      · exact fun _ _ _ _ _ same => absurd same unescaped
      · exact fun _ _ same => absurd same unescaped
  all_goals
    rw [List.cons_append, List.singleton_append, readCodes?]
    · cases readCodes? rest <;> rfl
    · exact fun _ _ _ _ _ letter => absurd letter (by decide)

theorem readCodes?_written (text rest : List Char) :
    readCodes? (text.flatMap escaped ++ '"' :: rest) = some (text.map Char.toNat, rest) := by
  induction text with
  | nil => rfl
  | cons c text ih => rw [List.flatMap_cons, List.append_assoc, readCodes?_escaped, ih, Option.map_some, List.map_cons]

/-- No character of a text is half of a pair. -/
theorem joinCodes?_toNat (text : List Char) : joinCodes? (text.map Char.toNat) = some text := by
  induction text with
  | nil => rfl
  | cons c text ih =>
    have valid := c.valid
    have high : isHighSurrogate c.toNat = false := by
      simp only [isHighSurrogate, Bool.and_eq_false_iff, decide_eq_false_iff_not]
      rcases valid with low | ⟨above, -⟩
      · exact .inl (Nat.not_le_of_lt low)
      · exact .inr (Nat.not_lt_of_le (Nat.le_trans (by decide) (Nat.le_of_lt above)))
    have low : isLowSurrogate c.toNat = false := by
      simp only [isLowSurrogate, Bool.and_eq_false_iff, decide_eq_false_iff_not]
      rcases valid with low | ⟨above, -⟩
      · exact .inl (Nat.not_le_of_lt (Nat.lt_trans low (by decide)))
      · exact .inr (Nat.not_lt_of_le above)
    rw [List.map_cons, joinCodes?.eq_def]
    dsimp only
    rw [high, low, ih]
    simp

theorem readString?_written (text rest : List Char) :
    readString? (text.flatMap escaped ++ '"' :: rest) = some (.string (String.ofList text), rest) := by
  rw [readString?, readCodes?_written]
  dsimp only [bind, Option.bind]
  rw [joinCodes?_toNat]
  rfl

/-! Numbers. -/

def EndsValue (rest : List Char) : Prop :=
  ∀ c ∈ rest.head?, c = ',' ∨ c = ']' ∨ c = '\x7d'

theorem EndsValue.ne {c : Char} (ends : EndsValue rest) (other : c ≠ ',' ∧ c ≠ ']' ∧ c ≠ '\x7d') :
    ∀ tail, rest ≠ c :: tail := by
  rintro tail rfl
  rcases ends c rfl with same | same | same
  · exact other.1 same
  · exact other.2.1 same
  · exact other.2.2 same

theorem EndsValue.not_digit (ends : EndsValue rest) : ∀ c ∈ rest.head?, c.isDigit = false := by
  intro c head
  rcases ends c head with rfl | rfl | rfl <;> decide

theorem readFraction?_ends (ends : EndsValue rest) : Json.readFraction? rest = some ([], rest) := by
  rw [Json.readFraction?]
  exact ends.ne (by decide)

theorem readExponent?_ends (ends : EndsValue rest) : readExponent? rest = some ([], rest) := by
  rw [readExponent?]
  all_goals exact fun tail same => ends.ne (by decide) _ same

theorem readInteger?_toDigits (n : Nat) (ends : EndsValue rest) :
    readInteger? (Nat.toDigits 10 n ++ rest) = some (Nat.toDigits 10 n, rest) := by
  have filled : Nat.toDigits 10 n ≠ [] := Nat.toDigits_ne_nil
  have run : readDigits? (Nat.toDigits 10 n ++ rest) = some (Nat.toDigits 10 n, rest) := by
    rw [readDigits?, takeWhile_run (fun _ => isDigit_toDigits) ends.not_digit, if_neg filled, List.drop_left]
  obtain ⟨c, more, front⟩ := List.exists_cons_of_ne_nil filled
  by_cases zero : c = '0'
  · obtain ⟨rfl, rfl⟩ := toDigits_zero_cons (zero ▸ front)
    rfl
  · rw [front] at run ⊢
    rw [List.cons_append, readInteger?]
    · exact run
    · exact fun tail same => zero (List.cons.inj same).1

theorem readNumber?_toDigits (n : Nat) (ends : EndsValue rest) :
    readNumber? (Nat.toDigits 10 n ++ rest) = some (.number (String.ofList (Nat.toDigits 10 n)), rest) ∧
      readNumber? ('-' :: (Nat.toDigits 10 n ++ rest)) =
        some (.number (String.ofList ('-' :: Nat.toDigits 10 n)), rest) := by
  have integer := readInteger?_toDigits n ends
  have unsigned : ∀ tail, Nat.toDigits 10 n ++ rest ≠ '-' :: tail := by
    intro tail same
    obtain ⟨c, more, front⟩ := List.exists_cons_of_ne_nil (@Nat.toDigits_ne_nil n 10)
    rw [front, List.cons_append] at same
    have digit : c.isDigit = true := isDigit_toDigits (front ▸ List.mem_cons_self)
    rw [(List.cons.inj same).1] at digit
    exact absurd digit (by decide)
  constructor <;> rw [readNumber?]
  case left.x_1 => exact unsigned
  all_goals
    dsimp only
    rw [integer]
    dsimp only [bind, Option.bind]
    rw [readFraction?_ends ends]
    dsimp only
    rw [readExponent?_ends ends]
    simp

theorem toList_int_ofNat (n : Nat) : (toString (Int.ofNat n)).toList = Nat.toDigits 10 n :=
  Nat.toList_repr

theorem toList_int_negSucc (n : Nat) : (toString (Int.negSucc n)).toList = '-' :: Nat.toDigits 10 (n + 1) := by
  change ("-" ++ Nat.repr (n + 1)).toList = _
  rw [String.toList_append, Nat.toList_repr]
  rfl

theorem readNumber?_int (n : Int) (ends : EndsValue rest) :
    readNumber? ((toString n).toList ++ rest) = some (.int n, rest) := by
  rw [Value.int, ← @String.ofList_toList (toString n)]
  cases n with
  | ofNat n =>
    rw [toList_int_ofNat, String.toList_ofList]
    exact (readNumber?_toDigits n ends).1
  | negSucc n =>
    rw [toList_int_negSucc, String.toList_ofList]
    exact (readNumber?_toDigits (n + 1) ends).2

/-! Values. -/

/-- A value without half surrogate pairs whose numbers are whole. -/
inductive Value.Plain : Value → Prop
  | null : Plain .null
  | bool (value : Bool) : Plain (.bool value)
  | int (n : Int) : Plain (.int n)
  | string (text : String) : Plain (.string text)
  | array {items : List Value} (each : ∀ item ∈ items, Plain item) : Plain (.array items)
  | object {members : List (String × Value)} (each : ∀ member ∈ members, Plain member.2) : Plain (.object members)

/-- The text of a value is read back with fuel for each of its characters. -/
def Value.Reads (value : Value) : Prop :=
  ∀ fuel rest, value.compactChars.length ≤ fuel → EndsValue rest →
    readValue? fuel (value.compactChars ++ rest) = some (value, rest)

theorem Value.Reads.of_succ {value : Value} (filled : value.compactChars ≠ [])
    (reads : ∀ fuel rest, value.compactChars.length ≤ fuel + 1 → EndsValue rest →
      readValue? (fuel + 1) (value.compactChars ++ rest) = some (value, rest)) : value.Reads := by
  intro fuel rest enough ends
  cases fuel with
  | zero => exact absurd (List.length_eq_zero_iff.1 (Nat.le_zero.1 enough)) filled
  | succ fuel => exact reads fuel rest enough ends

theorem Value.reads_null : Value.null.Reads :=
  .of_succ (by decide) fun _ _ _ _ => rfl

theorem Value.reads_bool (value : Bool) : (Value.bool value).Reads := by
  cases value with
  | false => exact .of_succ (by decide) fun _ _ _ _ => rfl
  | true => exact .of_succ (by decide) fun _ _ _ _ => rfl

theorem Value.reads_string (text : String) : (Value.string text).Reads := by
  refine .of_succ (by simp [compactChars, writtenString]) fun fuel rest _ _ => ?_
  rw [compactChars, writtenString, List.cons_append, List.cons_append, List.append_assoc, List.singleton_append]
  exact (readString?_written text.toList rest).trans (by rw [String.ofList_toList])

theorem skipBlanks_cons {c : Char} (inked : isBlank c = false) (more : List Char) : skipBlanks (c :: more) = c :: more := by
  rw [skipBlanks, List.dropWhile_cons_of_neg (Bool.eq_false_iff.1 inked)]

def StartsNumber (c : Char) : Prop :=
  c = '-' ∨ c.isDigit = true

theorem StartsNumber.inked {c : Char} (first : StartsNumber c) : isBlank c = false := by
  rw [← Bool.not_eq_true]
  intro blank
  simp only [isBlank, Bool.or_eq_true, beq_iff_eq] at blank
  rcases blank with ((rfl | rfl) | rfl) | rfl <;> exact absurd first (by unfold StartsNumber; decide)

theorem StartsNumber.readValue? {c : Char} (first : StartsNumber c) (more : List Char) :
    Json.readValue? (fuel + 1) (c :: more) = readNumber? (c :: more) := by
  rw [Json.readValue?, skipBlanks_cons first.inked]
  split
  case h_7 => rfl
  all_goals
    next same =>
    rw [(List.cons.inj same).1] at first
    exact absurd first (by unfold StartsNumber; decide)

theorem startsNumber_toString (n : Int) : ∃ c more, (toString n).toList = c :: more ∧ StartsNumber c := by
  cases n with
  | ofNat n =>
    obtain ⟨c, more, front⟩ := List.exists_cons_of_ne_nil (@Nat.toDigits_ne_nil n 10)
    rw [toList_int_ofNat, front]
    exact ⟨c, more, rfl, .inr (isDigit_toDigits (front ▸ List.mem_cons_self))⟩
  | negSucc n => exact ⟨'-', _, toList_int_negSucc n, .inl rfl⟩

theorem Value.reads_int (n : Int) : (Value.int n).Reads := by
  obtain ⟨c, more, front, first⟩ := startsNumber_toString n
  have text : (Value.int n).compactChars = (toString n).toList := rfl
  refine .of_succ (by rw [text, front]; exact List.cons_ne_nil c more) fun fuel rest _ ends => ?_
  have number := readNumber?_int n ends
  rw [text]
  rw [front, List.cons_append] at number ⊢
  rw [first.readValue?, number]

/-- What a value starts with is no blank and closes nothing. -/
theorem Value.Plain.starts {value : Value} (plain : value.Plain) :
    ∃ c more, value.compactChars = c :: more ∧ isBlank c = false ∧ c ≠ ']' := by
  cases plain with
  | null => exact ⟨'n', _, rfl, by decide⟩
  | bool value => cases value <;> exact ⟨_, _, rfl, by decide⟩
  | int n =>
    obtain ⟨c, more, front, first⟩ := startsNumber_toString n
    refine ⟨c, more, front, first.inked, ?_⟩
    rintro rfl
    exact absurd first (by unfold StartsNumber; decide)
  | string text => exact ⟨'"', _, rfl, by decide⟩
  | array each => exact ⟨'[', _, rfl, by decide⟩
  | object each => exact ⟨'\x7b', _, rfl, by decide⟩

theorem endsValue_cons {c : Char} (mark : c = ',' ∨ c = ']' ∨ c = '\x7d') (rest : List Char) :
    EndsValue (c :: rest) :=
  stops_at mark

theorem compactItems_cons (item next : Value) (items : List Value) :
    Value.compactItems (item :: next :: items) = item.compactChars ++ ',' :: Value.compactItems (next :: items) := by
  rw [Value.compactItems]
  exact nofun

theorem readItems?_compactItems {items : List Value} (filled : items ≠ []) (each : ∀ item ∈ items, item.Reads)
    (enough : (Value.compactItems items).length < fuel) (rest : List Char) :
    readItems? fuel (Value.compactItems items ++ ']' :: rest) = some (items, rest) := by
  induction items generalizing fuel with
  | nil => exact absurd rfl filled
  | cons item items ih =>
    obtain ⟨first, later⟩ := List.forall_mem_cons.1 each
    obtain ⟨fuel, rfl⟩ := Nat.exists_eq_add_one_of_ne_zero (Nat.ne_zero_of_lt enough)
    cases items with
    | nil =>
      rw [Value.compactItems] at enough ⊢
      rw [readItems?, first fuel _ (Nat.le_of_lt_succ enough) (endsValue_cons (by decide) rest)]
      rfl
    | cons next items =>
      rw [compactItems_cons, List.length_append, List.length_cons] at enough
      rw [compactItems_cons, List.append_assoc, List.cons_append, readItems?,
        first fuel _ (by omega) (endsValue_cons (by decide) _)]
      change (readItems? fuel (Value.compactItems (next :: items) ++ ']' :: rest)).map
        (fun found => (item :: found.1, found.2)) = _
      rw [ih (List.cons_ne_nil next items) later (by omega)]
      rfl

theorem starts_compactItems {item : Value} {items : List Value} (plain : item.Plain) :
    ∃ c more, Value.compactItems (item :: items) = c :: more ∧ isBlank c = false ∧ c ≠ ']' := by
  obtain ⟨c, more, front, inked, other⟩ := plain.starts
  cases items with
  | nil => exact ⟨c, more, front, inked, other⟩
  | cons next items =>
    rw [compactItems_cons, front, List.cons_append]
    exact ⟨c, _, rfl, inked, other⟩

theorem readValue?_bracket {c : Char} (inked : isBlank c = false) (other : c ≠ ']') (more : List Char) :
    readValue? (fuel + 1) ('[' :: c :: more) =
      (readItems? fuel (c :: more)).map fun found => (.array found.1, found.2) := by
  have items : ∀ rest, skipBlanks (c :: more) ≠ ']' :: rest := by
    intro rest same
    rw [skipBlanks_cons inked] at same
    exact other (List.cons.inj same).1
  rw [readValue?, skipBlanks_cons (by decide)]
  split
  case h_5 same =>
    cases same
    split
    · next closed => exact absurd closed (items _)
    · rfl
  case h_7 bracket _ => exact (bracket _ rfl).elim
  all_goals
    next same =>
    exact absurd (List.cons.inj same).1 (by decide)

theorem Value.reads_array {items : List Value} (plain : ∀ item ∈ items, item.Plain)
    (each : ∀ item ∈ items, item.Reads) : (Value.array items).Reads := by
  refine .of_succ (List.cons_ne_nil _ _) fun fuel rest enough _ => ?_
  cases items with
  | nil => rfl
  | cons item items =>
    obtain ⟨c, more, front, inked, other⟩ := @starts_compactItems item items (plain item List.mem_cons_self)
    have text : (array (item :: items)).compactChars = '[' :: (compactItems (item :: items) ++ [']']) := rfl
    rw [text, List.length_cons, List.length_append, List.length_singleton] at enough
    have inside := Nat.lt_of_succ_le (Nat.le_of_succ_le_succ enough)
    have read := readItems?_compactItems (List.cons_ne_nil item items) each inside rest
    rw [text, List.cons_append, List.append_assoc, List.singleton_append]
    rw [front, List.cons_append] at read ⊢
    rw [readValue?_bracket inked other, read]
    rfl

theorem mapM_keyed {f : Value × Value → Option (String × Value)}
    (each : ∀ key value, f (.string key, value) = some (key, value)) (members : List (String × Value)) :
    (members.map fun member => (Value.string member.1, member.2)).mapM f = some members := by
  induction members with
  | nil => rfl
  | cons member members ih =>
    rw [List.map_cons, List.mapM_cons, each, ih]
    rfl

theorem ofMembers_map (members : List (String × Value)) :
    Value.ofMembers (members.map fun member => (.string member.1, member.2)) = .object members := by
  rw [Value.ofMembers, mapM_keyed fun _ _ => rfl]

theorem compactMembers_cons (member next : String × Value) (members : List (String × Value)) :
    Value.compactMembers (member :: next :: members) =
      Value.compactMember member ++ ',' :: Value.compactMembers (next :: members) := by
  rw [Value.compactMembers]
  exact nofun

theorem compactMember_eq (member : String × Value) : Value.compactMember member =
    '"' :: (member.1.toList.flatMap escaped ++ '"' :: ':' :: member.2.compactChars) := by
  obtain ⟨key, value⟩ := member
  rw [Value.compactMember, writtenString, List.cons_append, List.cons_append, List.append_assoc]
  rfl

theorem readMembers?_compactMember {member : String × Value} (reads : member.2.Reads)
    (enough : (Value.compactMember member).length ≤ fuel) (rest : List Char) :
    readMembers? (fuel + 1) (Value.compactMember member ++ '\x7d' :: rest) =
        some ([(.string member.1, member.2)], rest) ∧
      readMembers? (fuel + 1) (Value.compactMember member ++ ',' :: rest) =
        (readMembers? fuel rest).map fun found => ((.string member.1, member.2) :: found.1, found.2) := by
  have short : member.2.compactChars.length ≤ fuel := by
    rw [compactMember_eq] at enough
    simp only [List.length_cons, List.length_append] at enough
    omega
  have text : ∀ tail, Value.compactMember member ++ tail =
      '"' :: (member.1.toList.flatMap escaped ++ '"' :: ':' :: (member.2.compactChars ++ tail)) := by
    intro tail
    rw [compactMember_eq, List.cons_append, List.append_assoc, List.cons_append, List.cons_append]
  constructor
  all_goals
    rw [text, readMembers?, skipBlanks_cons (by decide)]
    change (readString? _).bind _ = _
    rw [readString?_written]
    change (readValue? _ _).bind _ = _
    rw [reads fuel _ short (endsValue_cons (by decide) rest), String.ofList_toList]
    rfl

theorem readMembers?_compactMembers {members : List (String × Value)} (filled : members ≠ [])
    (each : ∀ member ∈ members, member.2.Reads) (enough : (Value.compactMembers members).length < fuel)
    (rest : List Char) :
    readMembers? fuel (Value.compactMembers members ++ '\x7d' :: rest) =
      some (members.map fun member => (.string member.1, member.2), rest) := by
  induction members generalizing fuel with
  | nil => exact absurd rfl filled
  | cons member members ih =>
    obtain ⟨first, later⟩ := List.forall_mem_cons.1 each
    obtain ⟨fuel, rfl⟩ := Nat.exists_eq_add_one_of_ne_zero (Nat.ne_zero_of_lt enough)
    cases members with
    | nil => exact (readMembers?_compactMember first (Nat.le_of_lt_succ enough) rest).1
    | cons next members =>
      rw [compactMembers_cons, List.length_append, List.length_cons] at enough
      rw [compactMembers_cons, List.append_assoc, List.cons_append,
        (readMembers?_compactMember first (by omega) _).2, ih (List.cons_ne_nil next members) later (by omega)]
      rfl

theorem starts_compactMembers (member : String × Value) (members : List (String × Value)) :
    ∃ more, Value.compactMembers (member :: members) = '"' :: more := by
  cases members with
  | nil => exact ⟨_, compactMember_eq member⟩
  | cons next members =>
    rw [compactMembers_cons, compactMember_eq]
    exact ⟨_, rfl⟩

theorem readValue?_brace (more : List Char) : readValue? (fuel + 1) ('\x7b' :: '"' :: more) =
    (readMembers? fuel ('"' :: more)).map fun found => (.ofMembers found.1, found.2) :=
  rfl

theorem Value.reads_object {members : List (String × Value)} (each : ∀ member ∈ members, member.2.Reads) :
    (Value.object members).Reads := by
  refine .of_succ (List.cons_ne_nil _ _) fun fuel rest enough _ => ?_
  cases members with
  | nil => rfl
  | cons member members =>
    obtain ⟨more, front⟩ := starts_compactMembers member members
    have text : (object (member :: members)).compactChars =
        '\x7b' :: (compactMembers (member :: members) ++ ['\x7d']) := rfl
    rw [text, List.length_cons, List.length_append, List.length_singleton] at enough
    have read := readMembers?_compactMembers (List.cons_ne_nil member members) each
      (Nat.lt_of_succ_le (Nat.le_of_succ_le_succ enough)) rest
    rw [text, List.cons_append, List.append_assoc, List.singleton_append]
    rw [front, List.cons_append] at read ⊢
    rw [readValue?_brace, read, Option.map_some, ofMembers_map]

theorem Value.Plain.reads {value : Value} (plain : value.Plain) : value.Reads := by
  induction plain with
  | null => exact reads_null
  | bool value => exact reads_bool value
  | int n => exact reads_int n
  | string text => exact reads_string text
  | array each ih => exact reads_array each ih
  | object each ih => exact reads_object ih

/-- What is written on one line is read back. -/
theorem Value.Plain.read?_compact {value : Value} (plain : value.Plain) : Value.read? value.compact = some value := by
  have read := plain.reads (2 * value.compactChars.length + 1) [] (by omega) nofun
  rw [List.append_nil] at read
  rw [Value.read?, compact, String.toList_ofList, read]
  rfl

end IssueQuery.Json
