import IssueQuery.Proofs.Text.Decimal
import IssueQuery.Proofs.Time.Stored

/-! Written times and the loose reader. Every time is read back as its clock shows it, whatever its year and its
fraction. -/

namespace IssueQuery
open Text

variable {rest : List Char}

namespace Text

theorem trimStart_cons {c : Char} (inked : isBlank c = false) : trimStart (c :: rest) = c :: rest := by
  rw [trimStart, List.dropWhile_cons_of_neg (Bool.eq_false_iff.1 inked)]

theorem not_blank_of_digit {c : Char} (digit : c.isDigit = true) : isBlank c = false := by
  apply isBlank_of_word
  unfold isWord
  split
  · simp [Char.isAlphanum, digit]
  · next outside =>
    simp only [Char.isDigit, Bool.and_eq_true, decide_eq_true_eq] at digit
    exact absurd (Nat.lt_of_le_of_lt digit.2 (by decide)) outside

theorem trimStart_run {digits : List Char} (filled : digits ≠ []) (inside : ∀ c ∈ digits, c.isDigit = true) :
    trimStart (digits ++ rest) = digits ++ rest := by
  obtain ⟨c, more, rfl⟩ := List.exists_cons_of_ne_nil filled
  exact trimStart_cons (not_blank_of_digit (inside c List.mem_cons_self))

theorem fixedDigits_ne_nil {width : Nat} (wide : 0 < width) (n : Nat) : fixedDigits width n ≠ [] := by
  rw [← List.length_pos_iff, length_fixedDigits]
  exact wide

theorem trimStart_fixedDigits {width : Nat} (wide : 0 < width) (n : Nat) :
    trimStart (fixedDigits width n ++ rest) = fixedDigits width n ++ rest :=
  trimStart_run (fixedDigits_ne_nil wide n) fun _ => isDigit_of_fixedDigits

theorem takeDigitsUpTo?_fixedDigits {width n : Nat} (wide : 0 < width) (small : n < 10 ^ width)
    (stop : ∀ c ∈ rest.head?, c.isDigit = false) :
    takeDigitsUpTo? width (fixedDigits width n ++ rest) = some (n, rest) := by
  have short : (fixedDigits width n).length ≤ width := by rw [length_fixedDigits]
  rw [takeDigitsUpTo?_run (fixedDigits_ne_nil wide n) (fun _ => isDigit_of_fixedDigits) short stop,
    digitsValue_fixedDigits, Nat.mod_eq_of_lt small]

theorem takeDigitsUpTo?_two {n : Nat} (small : n < 100) (stop : ∀ c ∈ rest.head?, c.isDigit = false) :
    takeDigitsUpTo? 2 (trimStart (fixedDigits 2 n ++ rest)) = some (n, rest) := by
  rw [trimStart_fixedDigits (by decide), takeDigitsUpTo?_fixedDigits (by decide) small stop]

end Text

theorem readMark?_self {mark : Char} (inked : isBlank mark = false) (rest : List Char) :
    readMark? true mark (mark :: rest) = some rest := by
  rw [readMark?, if_pos rfl, trimStart_cons inked, dropChar?_cons]

theorem readYear?_digit {c : Char} (digit : c.isDigit = true) (rest : List Char) :
    readYear? (c :: rest) = (takeDigitsUpTo? 4 (c :: rest)).map fun found => ((found.1 : Int), found.2) := by
  rw [readYear?]
  all_goals
    intro _ same
    rw [(List.cons.inj same).1] at digit
    exact absurd digit (by decide)

theorem readYear?_written (year : Int) (stop : ∀ c ∈ rest.head?, c.isDigit = false) :
    readYear? (trimStart (writtenYear year ++ rest)) = some (year, rest) := by
  have padded : takeDigitsUpTo? (paddedDigits 4 year.natAbs ++ rest).length (paddedDigits 4 year.natAbs ++ rest) =
      some (year.natAbs, rest) := by
    rw [takeDigitsUpTo?_run (paddedDigits_ne_nil _ _) (fun _ => isDigit_paddedDigits) (by simp) stop,
      digitsValue_paddedDigits]
  unfold writtenYear
  split
  · next plain =>
    have four := takeDigitsUpTo?_fixedDigits (by decide) (show year.toNat < 10 ^ 4 by omega) stop
    obtain ⟨c, more, front⟩ := List.exists_cons_of_ne_nil (fixedDigits_ne_nil (by decide : 0 < 4) year.toNat)
    have digit : c.isDigit = true := isDigit_of_fixedDigits (front ▸ List.mem_cons_self)
    rw [trimStart_fixedDigits (by decide)]
    rw [front, List.cons_append] at four ⊢
    rw [readYear?_digit digit, four, Option.map_some, Int.toNat_of_nonneg plain.1]
  · rw [List.cons_append]
    split
    · next negative =>
      rw [trimStart_cons (by decide), readYear?, padded, Option.map_some, ← Int.eq_neg_natAbs_of_nonpos (by omega)]
    · next positive =>
      rw [trimStart_cons (by decide), readYear?, padded, Option.map_some, Int.natAbs_of_nonneg (by omega)]

theorem readDate?_written (date : Date) (stop : ∀ c ∈ rest.head?, c.isDigit = false) :
    readDate? true (date.written ++ rest) = some (date, rest) := by
  have month := date.month_le
  have day := date.day_le_31
  have text : date.written ++ rest =
      writtenYear date.year ++ '-' :: (fixedDigits 2 date.month ++ '-' :: (fixedDigits 2 date.day ++ rest)) := by
    simp only [Date.written, List.append_assoc, List.cons_append]
  rw [text, readDate?]
  refine (bind_found (readYear?_written date.year (stops_at (by decide))) _).trans ?_
  refine (bind_found (readMark?_self (by decide) _) _).trans ?_
  refine (bind_found (takeDigitsUpTo?_two (by omega) (stops_at (by decide))) _).trans ?_
  refine (bind_found (readMark?_self (by decide) _) _).trans ?_
  refine (bind_found (takeDigitsUpTo?_two (by omega) stop) _).trans ?_
  exact (bind_found date.ofParts?_parts _).trans rfl

theorem writtenFraction_stops (nano : Nat) {zone : List Char} (stop : ∀ c ∈ zone.head?, c.isDigit = false) :
    ∀ c ∈ (writtenFraction nano ++ zone).head?, c.isDigit = false := by
  unfold writtenFraction
  split
  · exact stop
  · split
    · exact stops_at (by decide)
    · split <;> exact stops_at (by decide)

theorem Instant.readLoose?_json (instant : Instant) : readLoose? instant.json = some instant.settled := by
  have second := instant.second_lt
  have clock := instant.clockSecond_lt
  have text : instant.written ['Z'] = instant.date.written ++ 'T' :: (fixedDigits 2 (instant.second / 3600) ++ ':' ::
      (fixedDigits 2 (instant.second / 60 % 60) ++ ':' :: (fixedDigits 2 instant.clockSecond ++
        (writtenFraction (instant.nano % 1000000000) ++ ['Z'])))) := by
    simp only [written, writtenTime, List.append_assoc, List.cons_append]
  have fraction : readOptionalFraction? (writtenFraction (instant.nano % 1000000000) ++ ['Z']) =
      some (instant.nano % 1000000000, ['Z']) :=
    readOptionalFraction?_written (Nat.mod_lt instant.nano (by decide)) (stops_at (by decide))
  rw [readLoose?, json, String.toList_ofList, text]
  -- each reader takes what the writer put there, from the date to the zone
  refine (bind_found (readDate?_written instant.date (stops_at (by decide))) _).trans ?_
  refine (bind_found rfl _).trans ?_
  refine (bind_found (takeDigitsUpTo?_two (by omega) (stops_at (by decide))) _).trans ?_
  refine (bind_found (readMark?_self (by decide) _) _).trans ?_
  refine (bind_found (takeDigitsUpTo?_two (by omega) (stops_at (by decide))) _).trans ?_
  refine (bind_found (readMark?_self (by decide) _) _).trans ?_
  refine (bind_found (takeDigitsUpTo?_two clock (writtenFraction_stops _ (stops_at (by decide)))) _).trans ?_
  refine (bind_found fraction _).trans ?_
  refine (bind_found (show readLooseOffset? (trimStart ['Z']) = some (0, []) by decide) _).trans ?_
  exact (bind_found rfl _).trans (ofLocal?_clock instant)

end IssueQuery
