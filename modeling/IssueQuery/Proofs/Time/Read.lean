import IssueQuery.Proofs.Time.Stored

/-!
Moments that are read. A clock shows at most second 60 and an offset is of whole minutes, so a nanosecond count of a
thousand million or more is read only at the end of a minute: whatever a reader gives is settled.
-/

namespace IssueQuery
open Text

namespace Text

theorem digitValue_le_nine {c : Char} (digit : c.isDigit = true) : digitValue c ≤ 9 := by
  have bounds := Char.isDigit_iff_toNat.1 digit
  exact Nat.sub_le_of_le_add bounds.2

/-- Digits that are read on from a value stay below what follows the value, with as many zeros behind it. -/
theorem digitsValueFrom_lt {digits : List Char} (inside : ∀ c ∈ digits, c.isDigit = true) (value : Nat) :
    digitsValueFrom value digits < (value + 1) * 10 ^ digits.length := by
  induction digits generalizing value with
  | nil => simp [digitsValueFrom]
  | cons c rest ih =>
    obtain ⟨digit, others⟩ := List.forall_mem_cons.1 inside
    have small := digitValue_le_nine digit
    calc digitsValueFrom value (c :: rest)
        < (10 * value + digitValue c + 1) * 10 ^ rest.length := ih others _
      _ ≤ ((value + 1) * 10) * 10 ^ rest.length := Nat.mul_le_mul_right _ (by omega)
      _ = (value + 1) * 10 ^ (c :: rest).length := by
        rw [Nat.mul_assoc, List.length_cons, Nat.pow_succ']

end Text

theorem some_of_bind {α β : Type} {first : Option α} {next : α → Option β} {b : β} (found : (first >>= next) = some b) :
    ∃ a, first = some a ∧ next a = some b :=
  Option.bind_eq_some_iff.1 found

theorem readFraction?_lt {text rest : List Char} {nano : Nat} (read : readFraction? text = some (nano, rest)) :
    nano < 1000000000 := by
  have digits : ∀ c ∈ (text.takeWhile Char.isDigit).take 9, c.isDigit = true :=
    fun c member => List.all_eq_true.1 List.all_takeWhile c (List.mem_of_mem_take member)
  have most : ((text.takeWhile Char.isDigit).take 9).length ≤ 9 := List.length_take_le _ _
  have value := digitsValueFrom_lt digits 0
  unfold readFraction? at read
  dsimp only at read
  split at read
  · cases read
  · cases read
    calc digitsValue ((text.takeWhile Char.isDigit).take 9) * 10 ^ (9 - ((text.takeWhile Char.isDigit).take 9).length)
        < (0 + 1) * 10 ^ ((text.takeWhile Char.isDigit).take 9).length *
            10 ^ (9 - ((text.takeWhile Char.isDigit).take 9).length) :=
          Nat.mul_lt_mul_of_pos_right value (Nat.pow_pos (by decide))
      _ = 1000000000 := by rw [Nat.zero_add, Nat.one_mul, ← Nat.pow_add, Nat.add_sub_cancel' most]

theorem readOptionalFraction?_lt {text rest : List Char} {nano : Nat}
    (read : readOptionalFraction? text = some (nano, rest)) : nano < 1000000000 := by
  unfold readOptionalFraction? at read
  split at read
  · exact readFraction?_lt read
  · cases read
    decide

theorem readSign?_unit {text rest : List Char} {sign : Int} (read : readSign? text = some (sign, rest)) :
    sign = 1 ∨ sign = -1 := by
  unfold readSign? at read
  split at read <;> cases read <;> decide

theorem readOffset?_lt {separator : List Char → Option (List Char)} {text rest : List Char} {offset : Int}
    (read : readOffset? separator text = some (offset, rest)) : offset < 1440 := by
  unfold readOffset? at read
  split at read
  · cases read
    decide
  · cases read
    decide
  · obtain ⟨⟨sign, _⟩, signed, read⟩ := some_of_bind read
    obtain ⟨⟨hours, _⟩, _, read⟩ := some_of_bind read
    obtain ⟨_, _, read⟩ := some_of_bind read
    obtain ⟨⟨minutes, _⟩, _, read⟩ := some_of_bind read
    dsimp only at read
    split at read
    · next small =>
      cases read
      rcases readSign?_unit signed with rfl | rfl <;> omega
    · cases read

theorem timeOfDay?_plain {hour minute second fraction time nano : Nat} (small : fraction < 1000000000)
    (read : timeOfDay? hour minute second fraction = some (time, nano)) : 1000000000 ≤ nano → time % 60 = 59 := by
  unfold timeOfDay? at read
  split at read
  · cases read
    omega
  · split at read
    · cases read
      omega
    · cases read

namespace Instant

theorem ofParts?_fields {date : Date} {second nano : Nat} {instant : Instant}
    (made : ofParts? date second nano = some instant) : instant.second = second ∧ instant.nano = nano := by
  unfold ofParts? at made
  split at made
  · cases made
    exact ⟨rfl, rfl⟩
  · cases made

/-- An offset is of whole minutes, so the second within the minute stays. -/
theorem ofLocal?_plain {date : Date} {second nano : Nat} {offset : Int} {instant : Instant} (less : offset < 1440)
    (plain : 1000000000 ≤ nano → second % 60 = 59) (made : ofLocal? date second nano offset = some instant) :
    instant.HasPlainSecond := by
  have fields : ∀ {day : Date} {time : Nat}, ofParts? day time nano = some instant → time % 60 = second % 60 →
      instant.HasPlainSecond := by
    intro day time parts same late
    obtain ⟨second, nano⟩ := ofParts?_fields parts
    rw [second, same]
    exact plain (nano ▸ late)
  unfold ofLocal? at made
  dsimp only at made
  split at made
  · obtain ⟨day, _, parts⟩ := some_of_bind made
    exact fields parts (by omega)
  · split at made
    · exact fields made (by omega)
    · obtain ⟨day, _, parts⟩ := some_of_bind made
      exact fields parts (by omega)

theorem hasPlainSecond_of_readStrict? {text : String} {instant : Instant} (read : readStrict? text = some instant) :
    instant.HasPlainSecond := by
  -- the date and the clock are read digit by digit, then the fraction, the offset and the date's check
  obtain ⟨⟨year, rest⟩, _, read⟩ := some_of_bind read
  obtain ⟨rest, _, read⟩ := some_of_bind read
  obtain ⟨⟨month, rest⟩, _, read⟩ := some_of_bind read
  obtain ⟨rest, _, read⟩ := some_of_bind read
  obtain ⟨⟨day, rest⟩, _, read⟩ := some_of_bind read
  obtain ⟨rest, _, read⟩ := some_of_bind read
  obtain ⟨⟨hour, rest⟩, _, read⟩ := some_of_bind read
  obtain ⟨rest, _, read⟩ := some_of_bind read
  obtain ⟨⟨minute, rest⟩, _, read⟩ := some_of_bind read
  obtain ⟨rest, _, read⟩ := some_of_bind read
  obtain ⟨⟨second, rest⟩, _, read⟩ := some_of_bind read
  obtain ⟨⟨fraction, rest⟩, written, read⟩ := some_of_bind read
  obtain ⟨⟨offset, rest⟩, zone, read⟩ := some_of_bind read
  obtain ⟨_, _, read⟩ := some_of_bind read
  obtain ⟨date, _, read⟩ := some_of_bind read
  obtain ⟨⟨time, nano⟩, clock, made⟩ := some_of_bind read
  exact ofLocal?_plain (readOffset?_lt zone) (timeOfDay?_plain (readOptionalFraction?_lt written) clock) made

theorem hasPlainSecond_of_readGiven? {text : String} {instant : Instant} (read : readGiven? text = some instant) :
    instant.HasPlainSecond := by
  unfold readGiven? at read
  split at read
  · next strict =>
    cases read
    exact hasPlainSecond_of_readStrict? strict
  · obtain ⟨date, _, rfl⟩ := Option.map_eq_some_iff.1 read
    intro late
    cases late

end Instant

end IssueQuery
