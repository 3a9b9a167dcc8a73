import IssueQuery.Proofs.Query.Reading
import Mathlib.Order.Bounds.Basic

/-!
The parenthesis that closes a group. It stands where, for the first time since the group was opened, as many groups
have been closed as opened. A counter of open groups finds it and is never taken below zero.
-/

namespace IssueQuery

theorem Element.parseLevel_unclosed {rest : List Token} (missing : Token.splitGroup 0 rest = none) :
    parseLevel (.punct .openParen :: rest) = .error (.invalidQuery .unclosedGroup) := by
  rw [parseLevel]
  split
  · rfl
  · next found =>
    rw [missing] at found
    cases found

namespace Token

def opened (tokens : List Token) : Nat :=
  tokens.count (.punct .openParen)

def closed (tokens : List Token) : Nat :=
  tokens.count (.punct .closeParen)

/-- The tokens close `depth` groups that were open before them and all that they open. -/
structure Closes (depth : Nat) (tokens : List Token) : Prop where
  /-- At no point have more groups been closed than there were. -/
  within : ∀ front, front <+: tokens → closed front ≤ opened front + depth
  all : closed tokens = opened tokens + depth

/-! How one more token in front counts. -/

section

variable {token : Token} {depth : Nat} {tokens : List Token}

theorem opened_open : opened (.punct .openParen :: tokens) = opened tokens + 1 :=
  List.count_cons_self

theorem closed_open : closed (.punct .openParen :: tokens) = closed tokens :=
  List.count_cons_of_ne (by decide)

theorem opened_close : opened (.punct .closeParen :: tokens) = opened tokens :=
  List.count_cons_of_ne (by decide)

theorem closed_close : closed (.punct .closeParen :: tokens) = closed tokens + 1 :=
  List.count_cons_self

theorem opened_flat (flat : ¬token.IsParen) : opened (token :: tokens) = opened tokens :=
  List.count_cons_of_ne fun same => flat (.inl same)

theorem closed_flat (flat : ¬token.IsParen) : closed (token :: tokens) = closed tokens :=
  List.count_cons_of_ne fun same => flat (.inr same)

/-- A bound on every front of a row is a bound on every front of its tail, moved by what the first token counts. -/
theorem within_cons : (∀ front, front <+: token :: tokens → closed front ≤ opened front + depth) ↔
    ∀ front, front <+: tokens → closed (token :: front) ≤ opened (token :: front) + depth := by
  constructor
  · intro within front before
    exact within _ ((List.prefix_cons_inj token).2 before)
  · intro within front before
    rcases List.prefix_cons_iff.1 before with rfl | ⟨rest, rfl, before⟩
    · exact Nat.zero_le _
    · exact within rest ((List.prefix_cons_inj token).1 before)

theorem closes_iff : Closes depth tokens ↔
    (∀ front, front <+: tokens → closed front ≤ opened front + depth) ∧ closed tokens = opened tokens + depth :=
  ⟨fun closes => ⟨closes.within, closes.all⟩, fun both => ⟨both.1, both.2⟩⟩

theorem closes_open : Closes depth (.punct .openParen :: tokens) ↔ Closes (depth + 1) tokens := by
  simp only [closes_iff, within_cons, opened_open, closed_open, Nat.add_assoc, Nat.add_comm 1]

theorem closes_close : Closes (depth + 1) (.punct .closeParen :: tokens) ↔ Closes depth tokens := by
  simp only [closes_iff, within_cons, opened_close, closed_close]
  simp only [← Nat.add_assoc, Nat.add_le_add_iff_right, Nat.add_right_cancel_iff]

theorem closes_flat (flat : ¬token.IsParen) : Closes depth (token :: tokens) ↔ Closes depth tokens := by
  simp only [closes_iff, within_cons, opened_flat flat, closed_flat flat]

theorem not_closes_close : ¬Closes 0 (.punct .closeParen :: tokens) := by
  intro closes
  exact absurd (closes.within [.punct .closeParen] ((List.prefix_cons_inj _).2 List.nil_prefix)) (by decide)

end

/-! What the parser takes for a group. -/

variable {depth : Nat} {tokens inner after : List Token}

theorem Closes.splitGroup_eq (closes : Closes depth inner) (after : List Token) :
    splitGroup depth (inner ++ .punct .closeParen :: after) = some (inner, after) := by
  induction inner generalizing depth with
  | nil =>
    obtain rfl : 0 = depth := by simpa [opened, closed] using closes.all
    rfl
  | cons token inner ih =>
    by_cases opens : token = .punct .openParen
    · subst opens
      rw [List.cons_append, splitGroup, ih (closes_open.1 closes)]
      rfl
    by_cases shuts : token = .punct .closeParen
    · subst shuts
      cases depth with
      | zero => exact absurd closes not_closes_close
      | succ depth =>
        rw [List.cons_append, splitGroup, ih (closes_close.1 closes)]
        rfl
    have flat : ¬token.IsParen := not_or.2 ⟨opens, shuts⟩
    rw [List.cons_append, splitGroup_cons flat, ih ((closes_flat flat).1 closes)]
    rfl

theorem closes_of_splitGroup (found : splitGroup depth tokens = some (inner, after)) : Closes depth inner := by
  fun_induction splitGroup depth tokens generalizing inner with
  | case1 => cases found
  | case2 =>
    cases found
    exact ⟨fun front before => by rw [List.prefix_nil.1 before]; exact Nat.le_refl 0, rfl⟩
  | case3 rest depth ih =>
    obtain ⟨found, split, same⟩ := Option.map_eq_some_iff.1 found
    cases same
    exact closes_close.2 (ih split)
  | case4 depth rest ih =>
    obtain ⟨found, split, same⟩ := Option.map_eq_some_iff.1 found
    cases same
    exact closes_open.2 (ih split)
  | case5 depth token rest notClose notOpen ih =>
    obtain ⟨found, split, same⟩ := Option.map_eq_some_iff.1 found
    cases same
    exact (closes_flat (not_or.2 ⟨notOpen, notClose⟩)).2 (ih split)

/-- Where no group ends, closing parentheses never get ahead. -/
theorem within_of_splitGroup (missing : splitGroup depth tokens = none) :
    ∀ front, front <+: tokens → closed front ≤ opened front + depth := by
  fun_induction splitGroup depth tokens with
  | case1 =>
    intro front before
    rw [List.prefix_nil.1 before]
    exact Nat.zero_le _
  | case2 => cases missing
  | case3 rest depth ih =>
    have within := ih (Option.map_eq_none_iff.1 missing)
    rw [within_cons]
    intro front before
    rw [opened_close, closed_close]
    exact Nat.succ_le_succ (within front before)
  | case4 depth rest ih =>
    have within := ih (Option.map_eq_none_iff.1 missing)
    rw [within_cons]
    intro front before
    rw [opened_open, closed_open, Nat.add_right_comm]
    exact within front before
  | case5 depth token rest notClose notOpen ih =>
    have flat : ¬token.IsParen := not_or.2 ⟨notOpen, notClose⟩
    have within := ih (Option.map_eq_none_iff.1 missing)
    rw [within_cons]
    intro front before
    rw [opened_flat flat, closed_flat flat]
    exact within front before

/-! The same search by a counter, over places in a row. -/

/-- Counts the groups that are open and stops at the parenthesis that closes the last one. There is no result at all
where a group would be closed while none is open. -/
def search : (depth place : Nat) → List Token → Option (Except Failure Nat)
  | _, _, [] => some (.error (.invalidQuery .unclosedGroup))
  | depth, place, punct .openParen :: rest => search (depth + 1) (place + 1) rest
  | 0, _, punct .closeParen :: _ => none
  | depth + 1, place, punct .closeParen :: rest =>
    if depth = 0 then some (.ok place) else search depth (place + 1) rest
  | depth, place, _ :: rest => search depth (place + 1) rest

def matchingClose (tokens : List Token) (start : Nat) : Option (Except Failure Nat) :=
  search 0 start (tokens.drop start)

def through (tokens : List Token) (start stop : Nat) : List Token :=
  (tokens.drop start).take (stop + 1 - start)

def between (tokens : List Token) (start stop : Nat) : List Token :=
  (tokens.drop (start + 1)).take (stop - (start + 1))

/-- From `start` to this later place as many groups are closed as opened. -/
structure Evens (tokens : List Token) (start stop : Nat) : Prop where
  later : start < stop
  inside : stop < tokens.length
  even : opened (through tokens start stop) = closed (through tokens start stop)

def closingPlace (place : Nat) : Option (List Token × List Token) → Except Failure Nat
  | none => .error (.invalidQuery .unclosedGroup)
  | some found => .ok (place + found.1.length)

theorem closingPlace_cons (place : Nat) (token : Token) (split : Option (List Token × List Token)) :
    closingPlace place (split.map fun found => (token :: found.1, found.2)) = closingPlace (place + 1) split := by
  cases split with
  | none => rfl
  | some found => exact congrArg Except.ok (Nat.add_right_comm place found.1.length 1)

/-- The counter is one more than the depth of the parser, so that it is never zero. -/
theorem search_succ (depth place : Nat) (tokens : List Token) :
    search (depth + 1) place tokens = some (closingPlace place (splitGroup depth tokens)) := by
  fun_induction splitGroup depth tokens generalizing place with
  | case1 => rfl
  | case2 => rfl
  | case3 rest depth ih => rw [search, if_neg (Nat.succ_ne_zero depth), ih, closingPlace_cons]
  | case4 depth rest ih => rw [search, ih, closingPlace_cons]
  | case5 depth token rest notClose notOpen ih =>
    rw [search, ih, closingPlace_cons]
    · exact notOpen
    · exact fun _ => notClose
    · exact fun _ _ => notClose

theorem splitGroup_between {start : Nat} (found : splitGroup 0 (tokens.drop (start + 1)) = some (inner, after)) :
    between tokens start (start + 1 + inner.length) = inner ∧ tokens.drop (start + 1 + inner.length + 1) = after := by
  have shape := splitGroup_eq found
  constructor
  · rw [between, Nat.add_sub_cancel_left, shape, List.take_left']
    rfl
  · rw [Nat.add_assoc (start + 1), ← List.drop_drop, shape, ← List.drop_drop, List.drop_left']
    · rfl
    · rfl

section

variable {start stop : Nat} (opens : tokens[start]? = some (.punct .openParen))

include opens

theorem drop_start : tokens.drop start = .punct .openParen :: tokens.drop (start + 1) := by
  obtain ⟨inside, same⟩ := List.getElem?_eq_some_iff.1 opens
  rw [List.drop_eq_getElem_cons inside, same]

theorem matchingClose_eq :
    matchingClose tokens start = some (closingPlace (start + 1) (splitGroup 0 (tokens.drop (start + 1)))) := by
  rw [matchingClose, drop_start opens, search, search_succ]

/-- Behind the opening parenthesis, the counts are even where one more group is closed than opened. -/
theorem evens_iff : Evens tokens start stop ↔ ∃ place, stop = start + 1 + place ∧
    place < (tokens.drop (start + 1)).length ∧
    closed ((tokens.drop (start + 1)).take (place + 1)) = opened ((tokens.drop (start + 1)).take (place + 1)) + 1 := by
  have spread : ∀ place, through tokens start (start + 1 + place) =
      .punct .openParen :: (tokens.drop (start + 1)).take (place + 1) := by
    intro place
    rw [through, drop_start opens, show start + 1 + place + 1 - start = place + 1 + 1 by omega, List.take_succ_cons]
  rw [List.length_drop]
  constructor
  · rintro ⟨later, inside, even⟩
    obtain ⟨place, rfl⟩ := Nat.exists_eq_add_of_le (Nat.succ_le_of_lt later)
    rw [spread, opened_open, closed_open] at even
    exact ⟨place, rfl, by omega, even.symm⟩
  · rintro ⟨place, rfl, inside, even⟩
    refine ⟨by omega, by omega, ?_⟩
    rw [spread, opened_open, closed_open, even]

/-- The group that the parser takes ends at the least place where the counts are even. -/
theorem isLeast_of_splitGroup (found : splitGroup 0 (tokens.drop (start + 1)) = some (inner, after)) :
    IsLeast {stop | Evens tokens start stop} (start + 1 + inner.length) := by
  have shape := splitGroup_eq found
  have closes := closes_of_splitGroup found
  constructor
  · rw [Set.mem_ofPred_eq, evens_iff opens]
    refine ⟨inner.length, rfl, ?_, ?_⟩
    · rw [shape, List.length_append, List.length_cons]
      omega
    · have front : (inner ++ .punct .closeParen :: after).take (inner.length + 1) = inner ++ [.punct .closeParen] := by
        rw [List.take_append, List.take_of_length_le (Nat.le_succ _), Nat.add_sub_cancel_left, List.take_succ_cons,
          List.take_zero]
      have even := closes.all
      simp only [opened, closed] at even
      simp only [shape, front, opened, closed, List.count_append, even]
      rfl
  · intro other evens
    obtain ⟨place, rfl, -, even⟩ := (evens_iff opens).1 evens
    by_contra less
    have short : place + 1 ≤ inner.length := by omega
    rw [shape, List.take_append_of_le_length short] at even
    have within := closes.within _ (List.take_prefix (place + 1) inner)
    omega

theorem not_evens_of_splitGroup (missing : splitGroup 0 (tokens.drop (start + 1)) = none) (stop : Nat) :
    ¬Evens tokens start stop := by
  intro evens
  obtain ⟨place, -, -, even⟩ := (evens_iff opens).1 evens
  have within := within_of_splitGroup missing _ (List.take_prefix (place + 1) _)
  omega

theorem matchingClose_ok : matchingClose tokens start = some (.ok stop) ↔
    ∃ inner after, splitGroup 0 (tokens.drop (start + 1)) = some (inner, after) ∧ start + 1 + inner.length = stop := by
  rw [matchingClose_eq opens]
  cases splitGroup 0 (tokens.drop (start + 1)) with
  | none => exact ⟨nofun, nofun⟩
  | some found =>
    constructor
    · intro same
      exact ⟨found.1, found.2, rfl, Except.ok.inj (Option.some.inj same)⟩
    · rintro ⟨inner, after, same, rfl⟩
      cases same
      rfl

theorem matchingClose_error {e : Failure} : matchingClose tokens start = some (.error e) ↔
    e = .invalidQuery .unclosedGroup ∧ splitGroup 0 (tokens.drop (start + 1)) = none := by
  rw [matchingClose_eq opens]
  cases splitGroup 0 (tokens.drop (start + 1)) with
  | none =>
    constructor
    · intro same
      exact ⟨(Except.error.inj (Option.some.inj same)).symm, rfl⟩
    · rintro ⟨rfl, -⟩
      rfl
  | some found => exact ⟨nofun, nofun⟩

theorem splitGroup_eq_none_iff :
    splitGroup 0 (tokens.drop (start + 1)) = none ↔ ∀ stop, ¬Evens tokens start stop := by
  constructor
  · exact not_evens_of_splitGroup opens
  · intro never
    cases found : splitGroup 0 (tokens.drop (start + 1)) with
    | none => rfl
    | some group => exact absurd (isLeast_of_splitGroup opens found).1 (never _)

theorem isLeast_iff : IsLeast {stop | Evens tokens start stop} stop ↔
    ∃ inner after, splitGroup 0 (tokens.drop (start + 1)) = some (inner, after) ∧ start + 1 + inner.length = stop := by
  constructor
  · intro least
    cases found : splitGroup 0 (tokens.drop (start + 1)) with
    | none => exact absurd least.1 (not_evens_of_splitGroup opens found stop)
    | some group => exact ⟨group.1, group.2, rfl, (isLeast_of_splitGroup opens found).unique least⟩
  · rintro ⟨inner, after, found, rfl⟩
    exact isLeast_of_splitGroup opens found

/-- The search always has a result: its counter is never taken below zero. It finds a place exactly if that is the
least one where as many groups have been closed as opened. The tokens before it are balanced then, and the parser reads
them by themselves. The search fails, and the parser with it, exactly if there is no such place. -/
theorem matchingClose_exact :
    matchingClose tokens start ≠ none ∧
      (∀ stop, matchingClose tokens start = some (.ok stop) ↔ IsLeast {stop | Evens tokens start stop} stop) ∧
      (∀ e, matchingClose tokens start = some (.error e) ↔
        e = .invalidQuery .unclosedGroup ∧ ∀ stop, ¬Evens tokens start stop) ∧
      (∀ stop, matchingClose tokens start = some (.ok stop) →
        start < stop ∧ stop < tokens.length ∧ (between tokens start stop).length < tokens.length ∧
          Closes 0 (between tokens start stop) ∧
          splitGroup 0 (tokens.drop (start + 1)) = some (between tokens start stop, tokens.drop (stop + 1)) ∧
          Element.parseLevel (tokens.drop start) = (do
            let elements ← Element.parseLevel (between tokens start stop)
            let more ← Element.parseLevel (tokens.drop (stop + 1))
            return .group elements :: more)) ∧
      ∀ e, matchingClose tokens start = some (.error e) →
        splitGroup 0 (tokens.drop (start + 1)) = none ∧ Element.parseLevel (tokens.drop start) = .error e := by
  refine ⟨?_, fun stop => ?_, fun e => ?_, fun stop closes => ?_, fun e fails => ?_⟩
  · rw [matchingClose_eq opens]
    exact Option.some_ne_none _
  · rw [matchingClose_ok opens, isLeast_iff opens]
  · rw [matchingClose_error opens, splitGroup_eq_none_iff opens]
  · obtain ⟨inner, after, found, rfl⟩ := (matchingClose_ok opens).1 closes
    obtain ⟨later, inside, -⟩ := (isLeast_of_splitGroup opens found).1
    obtain ⟨group, behind⟩ := splitGroup_between found
    rw [group, behind, drop_start opens]
    exact ⟨later, inside, by omega, closes_of_splitGroup found, found, Element.parseLevel_group found⟩
  · obtain ⟨rfl, missing⟩ := (matchingClose_error opens).1 fails
    rw [drop_start opens]
    exact ⟨missing, Element.parseLevel_unclosed missing⟩

end

def nestedGroup : List Token :=
  [.word "id", .punct .openParen, .punct .openParen, .punct .comma, .punct .closeParen, .punct .closeParen,
    .punct .closeParen]

theorem nestedGroup_closes :
    nestedGroup[1]? = some (.punct .openParen) ∧ IsLeast {stop | Evens nestedGroup 1 stop} 5 ∧
      Closes 0 [.punct .openParen, .punct .comma, .punct .closeParen] ∧
      ∀ stop, ¬Evens (nestedGroup.take 5) 1 stop := by
  have closes : matchingClose nestedGroup 1 = some (.ok 5) := by decide
  have fails : matchingClose (nestedGroup.take 5) 1 = some (.error (.invalidQuery .unclosedGroup)) := by decide
  obtain ⟨-, places, -, groups, -⟩ := @matchingClose_exact nestedGroup 1 rfl
  obtain ⟨-, -, errors, -⟩ := @matchingClose_exact (nestedGroup.take 5) 1 rfl
  exact ⟨rfl, (places 5).1 closes, (groups 5 closes).2.2.2.1, ((errors _).1 fails).2⟩

end Token
end IssueQuery
