import IssueQuery.Filter.Select
import IssueQuery.Proofs.Sql.Pieces
import Mathlib.Data.List.Basic

/-!
Writing out list placeholders. The text of a row of pieces is searched for one placeholder after the other;
what is found are the list pieces of that name and nothing else, so in the end each of them has become its
own placeholders.
-/

namespace IssueQuery.Sql
open Text

theorem replaceFrom_skip (pattern replacement skipped rest : List Char) :
    replaceFrom pattern replacement skipped.length (skipped ++ rest) =
      replaceFrom pattern replacement 0 rest := by
  induction skipped with
  | nil => rfl
  | cons c skipped ih => exact ih

theorem replaceFrom_absent {first : Char} {pattern text : List Char} (absent : first ∉ text)
    (replacement rest : List Char) :
    replaceFrom (first :: pattern) replacement 0 (text ++ rest) =
      text ++ replaceFrom (first :: pattern) replacement 0 rest := by
  induction text with
  | nil => rfl
  | cons c text ih =>
    simp only [List.mem_cons, not_or] at absent
    have differs : (first :: pattern).isPrefixOf (c :: (text ++ rest)) = false := by
      simp [List.isPrefixOf, absent.1]
    rw [List.cons_append, replaceFrom, differs, ih absent.2]
    rfl

theorem replaceFrom_found (first : Char) (pattern replacement rest : List Char) :
    replaceFrom (first :: pattern) replacement 0 (first :: pattern ++ rest) =
      replacement ++ replaceFrom (first :: pattern) replacement 0 rest := by
  have found : (first :: pattern).isPrefixOf (first :: (pattern ++ rest)) = true :=
    List.isPrefixOf_iff_prefix.2 (List.prefix_append (first :: pattern) rest)
  rw [List.cons_append, replaceFrom, found, if_pos rfl, List.length_cons, Nat.add_sub_cancel,
    replaceFrom_skip]

/-- Text that starts like the pattern but does not go on like it stays as it is. -/
theorem replaceFrom_other {first : Char} {pattern text rest : List Char} (absent : first ∉ text)
    (differs : ¬first :: pattern <+: first :: text ++ rest) (replacement : List Char) :
    replaceFrom (first :: pattern) replacement 0 (first :: text ++ rest) =
      first :: text ++ replaceFrom (first :: pattern) replacement 0 rest := by
  rw [← List.isPrefixOf_iff_prefix, Bool.not_eq_true] at differs
  rw [List.cons_append] at differs ⊢
  rw [replaceFrom, differs, replaceFrom_absent absent]
  rfl

def listPattern (name : String) : List Char :=
  "(:...".toList ++ name.toList ++ [')']

def written (name : String) (count : Nat) : List Piece :=
  Piece.symbol .openParen ::
    listed ((Param.listNames name count).map fun placeholder => [.token .placeholder placeholder]) ++
      [.symbol .closeParen]

theorem spell_written (name : String) (count : Nat) :
    spell (written name count) = ("(" ++ ", ".intercalate (Param.listNames name count) ++ ")").toList := by
  have rows : ((Param.listNames name count).map fun placeholder =>
      [Piece.token .placeholder placeholder]).map spell = (Param.listNames name count).map String.toList := by
    rw [List.map_map]
    apply List.map_congr_left
    intro placeholder _
    simp [spell]
  rw [written, spell_append, spell_cons, spell_listed, rows, String.toList_append, String.toList_append,
    String.toList_intercalate]
  rfl

namespace Piece

/-- Neither the piece nor its end can be taken for the start of a list placeholder. -/
def Plain : Piece → Prop
  | blank => True
  | token _ text =>
    text ≠ "" ∧ ('(' ∈ text.toList → text = "(") ∧ ':' ∉ text.toList.tail ∧
      ∀ rest, text.toList = ':' :: rest → ∃ c more, rest = c :: more ∧ c ≠ '.'
  | list name _ => IsName name

def fill (name : String) (count : Nat) : Piece → List Piece
  | list other size => if other = name then written name count else [list other size]
  | piece => [piece]

def expand : Piece → List Piece
  | list name count => written name count
  | piece => [piece]

end Piece

theorem spell_no_start {pieces : List Piece} (plain : ∀ piece ∈ pieces, piece.Plain) (rest : List Char) :
    spell pieces ≠ ':' :: '.' :: rest := by
  intro same
  cases pieces with
  | nil => cases same
  | cons piece others =>
    rw [spell_cons] at same
    have fit := plain piece (by simp)
    cases piece with
    | blank => cases same
    | list name count => cases same
    | token kind text =>
      obtain ⟨nonempty, _, _, colon⟩ := fit
      rw [Piece.chars_token] at same
      cases shape : text.toList with
      | nil => exact nonempty (String.toList_eq_nil_iff.1 shape)
      | cons c tail =>
        rw [shape, List.cons_append, List.cons.injEq] at same
        obtain ⟨rfl, same⟩ := same
        obtain ⟨d, more, rfl, noDot⟩ := colon tail shape
        rw [List.cons_append, List.cons.injEq] at same
        exact noDot same.1

theorem listPattern_eq (name : String) : listPattern name = "(:...".toList ++ name.toList ++ [')'] := rfl

theorem listPattern_cons (name : String) :
    listPattern name = '(' :: ':' :: '.' :: ("..".toList ++ name.toList ++ [')']) := rfl

/-- Two placeholders of lists are told apart by the parenthesis that ends them. -/
theorem listPattern_inj {name other : String} {rest : List Char} (first : IsName name)
    (second : IsName other) (found : listPattern name <+: listPattern other ++ rest) : name = other := by
  rw [listPattern_eq, listPattern_eq, List.append_assoc, List.append_assoc, List.append_assoc,
    List.prefix_append_right_inj] at found
  obtain ⟨tail, same⟩ := found
  have ends : ∀ (a b : List Char), ')' ∉ a → (a ++ ')' :: b).takeWhile (· != ')') = a := by
    intro a b absent
    exact takeWhile_run (bne_of_not_mem absent) (stops_at (bne_self_eq_false ')'))
  apply String.toList_inj.1
  rw [← ends name.toList tail (first.not_mem (by decide)),
    ← ends other.toList rest (second.not_mem (by decide))]
  simpa using congrArg (List.takeWhile (· != ')')) same

/-- One search writes out the list pieces of that name. -/
theorem replaceFrom_spell {name : String} (count : Nat) {pieces : List Piece} (fit : IsName name)
    (plain : ∀ piece ∈ pieces, piece.Plain) :
    replaceFrom (listPattern name) (spell (written name count)) 0 (spell pieces) =
      spell (pieces.flatMap (Piece.fill name count)) := by
  induction pieces with
  | nil => rfl
  | cons piece rest ih =>
    have others := ih fun other member => plain other (List.mem_cons_of_mem _ member)
    have fits := plain piece (by simp)
    have noStart := spell_no_start fun other member => plain other (List.mem_cons_of_mem piece member)
    rw [spell_cons, List.flatMap_cons, spell_append, ← others]
    rw [listPattern_cons name]
    cases piece with
    | blank => exact replaceFrom_absent (show '(' ∉ [' '] by decide) _ _
    | token kind text =>
      have same : spell (Piece.fill name count (.token kind text)) = text.toList := by
        simp [Piece.fill, spell]
      rw [same, Piece.chars_token]
      by_cases paren : '(' ∈ text.toList
      · have alone : text.toList = ['('] := by rw [fits.2.1 paren]; rfl
        rw [alone]
        refine replaceFrom_other (show '(' ∉ [] by simp) ?_ _
        rintro ⟨tail, start⟩
        exact noStart _ (List.cons.inj start).2.symm
      · exact replaceFrom_absent paren _ _
    | list other size =>
      have chars : (Piece.list other size).chars = listPattern other := rfl
      rw [chars]
      by_cases same : other = name
      · have filled : Piece.fill name count (.list other size) = written name count := if_pos same
        rw [filled, same, listPattern_cons name]
        exact replaceFrom_found _ _ _ _
      · have filled : Piece.fill name count (.list other size) = [.list other size] := if_neg same
        have kept : spell [Piece.list other size] = listPattern other := by
          rw [spell_cons, spell_nil, List.append_nil, chars]
        rw [filled, kept, listPattern_cons other]
        refine replaceFrom_other ?_ ?_ _
        · have := fits.not_mem (show isNameChar '(' = false by decide)
          simpa using this
        · rw [← listPattern_cons, ← listPattern_cons]
          exact fun found => same (listPattern_inj fit fits found).symm

/-! All parameters of a filter, one after the other. -/

theorem digits_of_index {index : Nat} {c : Char} (member : c ∈ (toString index).toList) :
    c.isDigit = true := by
  rw [Nat.toString_eq_repr, Nat.toList_repr] at member
  exact Nat.isDigit_of_mem_toDigits (by decide) (by decide) member

theorem isName_numbered {stem : String} (fit : IsName stem) (index : Nat) :
    IsName (stem ++ toString index) := by
  refine ⟨by simp [fit.nonempty], ?_⟩
  intro c member
  rw [String.toList_append, List.mem_append] at member
  rcases member with member | member
  · exact fit.all c member
  · simp [isNameChar, Char.isAlphanum, digits_of_index member]

theorem listName_isName {name : String} (fit : IsName name) (i : Nat) :
    IsName (name ++ "_" ++ toString i) := by
  refine isName_numbered ⟨by simp, ?_⟩ i
  intro c member
  rw [String.toList_append, List.mem_append] at member
  rcases member with member | member
  · exact fit.all c member
  · cases List.mem_singleton.1 member
    decide

theorem plain_symbol (s : Symbol) : (Piece.symbol s).Plain := by
  refine ⟨?_, ?_, ?_, ?_⟩
  · cases s <;> decide
  · cases s <;> decide
  · cases s <;> simp [Symbol.chars]
  · intro rest shape
    cases s <;> simp [Symbol.chars] at shape

theorem plain_word {text : String} (fit : IsName text) : (Piece.word text).Plain := by
  refine ⟨fit.nonempty, ?_, ?_, ?_⟩
  · intro member
    exact absurd member (fit.not_mem (by decide))
  · intro member
    exact absurd (List.mem_of_mem_tail member) (fit.not_mem (by decide))
  · intro rest shape
    have colon : ':' ∈ text.toList := by rw [shape]; exact List.mem_cons_self
    exact absurd colon (fit.not_mem (by decide))

theorem plain_placeholder {name : String} (fit : IsName name) :
    (Piece.token .placeholder (":" ++ name)).Plain := by
  have shape : (":" ++ name).toList = ':' :: name.toList := by simp
  refine ⟨by simp, ?_, ?_, ?_⟩
  · intro member
    rw [shape] at member
    have := fit.not_mem (show isNameChar '(' = false by decide)
    simp [this] at member
  · rw [shape]
    exact fit.not_mem (by decide)
  · intro rest same
    rw [shape, List.cons.injEq] at same
    obtain ⟨_, rfl⟩ := same
    cases chars : name.toList with
    | nil => exact absurd (String.toList_eq_nil_iff.1 chars) fit.nonempty
    | cons c more =>
      refine ⟨c, more, rfl, ?_⟩
      rintro rfl
      exact fit.not_mem (show isNameChar '.' = false by decide) (by simp [chars])

theorem mem_listed {rows : List (List Piece)} {piece : Piece} (member : piece ∈ listed rows) :
    (∃ row ∈ rows, piece ∈ row) ∨ piece = .symbol .comma ∨ piece = .blank := by
  induction rows with
  | nil => cases member
  | cons row rest ih =>
    cases rest with
    | nil =>
      rw [listed_singleton] at member
      exact Or.inl ⟨row, by simp, member⟩
    | cons next rest =>
      rw [listed_cons_cons, List.mem_append, List.mem_cons, List.mem_cons] at member
      rcases member with member | rfl | rfl | member
      · exact Or.inl ⟨row, by simp, member⟩
      · exact Or.inr (Or.inl rfl)
      · exact Or.inr (Or.inr rfl)
      · rcases ih member with ⟨other, inside, member⟩ | mark
        · exact Or.inl ⟨other, List.mem_cons_of_mem _ inside, member⟩
        · exact Or.inr mark

theorem mem_written {name : String} {count : Nat} {piece : Piece} (member : piece ∈ written name count) :
    (∃ s, piece = .symbol s) ∨ piece = .blank ∨
      ∃ i : Nat, piece = .token .placeholder (":" ++ (name ++ "_" ++ toString i)) := by
  simp only [written, List.cons_append, List.mem_cons, List.mem_append, List.not_mem_nil, or_false] at member
  rcases member with rfl | member | rfl
  · exact Or.inl ⟨_, rfl⟩
  · rcases mem_listed member with ⟨row, inside, member⟩ | rfl | rfl
    · simp only [List.mem_map, Param.listNames] at inside
      obtain ⟨_, ⟨i, _, rfl⟩, rfl⟩ := inside
      refine Or.inr (Or.inr ⟨i, ?_⟩)
      rw [List.mem_singleton.1 member, String.append_assoc, String.append_assoc, String.append_assoc]
    · exact Or.inl ⟨_, rfl⟩
    · exact Or.inr (Or.inl rfl)
  · exact Or.inl ⟨_, rfl⟩

theorem plain_written {name : String} (fit : IsName name) (count : Nat) :
    ∀ piece ∈ written name count, piece.Plain := by
  intro piece member
  rcases mem_written member with ⟨s, rfl⟩ | rfl | ⟨i, rfl⟩
  · exact plain_symbol s
  · trivial
  · exact plain_placeholder (listName_isName fit i)

theorem flatMap_singleton {pieces : List Piece} {f : Piece → List Piece}
    (kept : ∀ piece ∈ pieces, f piece = [piece]) : pieces.flatMap f = pieces := by
  induction pieces with
  | nil => rfl
  | cons piece rest ih =>
    rw [List.flatMap_cons, kept piece (by simp), ih fun other member => kept other (by simp [member])]
    rfl

/-- What has been written out is not looked at again. -/
theorem flatMap_expand_written (name : String) (count : Nat) :
    (written name count).flatMap Piece.expand = written name count := by
  apply flatMap_singleton
  intro piece member
  rcases mem_written member with ⟨s, rfl⟩ | rfl | ⟨i, rfl⟩ <;> rfl

/-- The parameters suit the list pieces of a row: each list piece has one, and of its length. -/
structure Supplied (params : List Param) (pieces : List Piece) : Prop where
  named : ∀ param ∈ params, IsName param.name
  present : ∀ name count, Piece.list name count ∈ pieces → ∃ param ∈ params, param.name = name
  counted : ∀ name count, Piece.list name count ∈ pieces → ∀ param ∈ params, param.name = name →
    ∃ values, param.value = .list values ∧ values.length = count

theorem mem_fill {name : String} {count size : Nat} {other : String} {pieces : List Piece}
    (member : Piece.list other size ∈ pieces.flatMap (Piece.fill name count)) :
    Piece.list other size ∈ pieces ∧ other ≠ name := by
  rw [List.mem_flatMap] at member
  obtain ⟨piece, inside, member⟩ := member
  cases piece with
  | blank => cases List.mem_singleton.1 member
  | token kind text => cases List.mem_singleton.1 member
  | list third size =>
    by_cases same : third = name
    · rw [Piece.fill, if_pos same] at member
      rcases mem_written member with ⟨s, equal⟩ | equal | ⟨i, equal⟩ <;> cases equal
    · rw [Piece.fill, if_neg same] at member
      cases List.mem_singleton.1 member
      exact ⟨inside, same⟩

theorem foldl_expand {params : List Param} {pieces : List Piece} (supplied : Supplied params pieces)
    (plain : ∀ piece ∈ pieces, piece.Plain) :
    params.foldl Param.expand (String.ofList (spell pieces)) =
      String.ofList (spell (pieces.flatMap Piece.expand)) := by
  induction params generalizing pieces with
  | nil =>
    have kept : pieces.flatMap Piece.expand = pieces := by
      apply flatMap_singleton
      intro piece member
      cases piece with
      | list name count => obtain ⟨_, absent, _⟩ := supplied.present name count member; cases absent
      | _ => rfl
    rw [kept, List.foldl_nil]
  | cons param params ih =>
    have named := supplied.named param (by simp)
    rw [List.foldl_cons]
    cases kind : param.value with
    | scalar value =>
      have step : Param.expand (String.ofList (spell pieces)) param = String.ofList (spell pieces) := by
        rw [Param.expand, kind]
      rw [step]
      refine ih ⟨fun other member => supplied.named other (by simp [member]), ?_, ?_⟩ plain
      · intro name count member
        obtain ⟨other, inside, same⟩ := supplied.present name count member
        rcases List.mem_cons.1 inside with rfl | inside
        · obtain ⟨values, list, _⟩ := supplied.counted name count member other (by simp) same
          rw [kind] at list
          cases list
        · exact ⟨other, inside, same⟩
      · exact fun name count member other inside => supplied.counted name count member other (by simp [inside])
    | list values =>
      have step : Param.expand (String.ofList (spell pieces)) param =
          String.ofList (spell (pieces.flatMap (Piece.fill param.name values.length))) := by
        rw [← replaceFrom_spell values.length named plain, Param.expand, kind]
        simp only [replaceAll, String.toList_ofList, spell_written]
        simp [listPattern_eq]
      have same : (pieces.flatMap (Piece.fill param.name values.length)).flatMap Piece.expand =
          pieces.flatMap Piece.expand := by
        rw [List.flatMap_assoc]
        apply List.flatMap_congr
        intro piece member
        cases piece with
        | blank => rfl
        | token kind text => rfl
        | list name count =>
          by_cases equal : name = param.name
          · obtain ⟨known, list, length⟩ := supplied.counted name count member param (by simp) equal.symm
            rw [kind, ParamValue.list.injEq] at list
            rw [Piece.fill, if_pos equal, flatMap_expand_written, Piece.expand, list, length, equal]
          · rw [Piece.fill, if_neg equal]
            simp
      rw [step, ← same]
      refine ih ⟨fun other member => supplied.named other (by simp [member]), ?_, ?_⟩ ?_
      · intro name count member
        obtain ⟨inside, other⟩ := mem_fill member
        obtain ⟨found, place, equal⟩ := supplied.present name count inside
        rcases List.mem_cons.1 place with rfl | place
        · exact absurd equal.symm other
        · exact ⟨found, place, equal⟩
      · intro name count member other place
        exact supplied.counted name count (mem_fill member).1 other (by simp [place])
      · intro piece member
        obtain ⟨origin, inside, member⟩ := List.mem_flatMap.1 member
        cases origin with
        | blank => cases List.mem_singleton.1 member; trivial
        | token kind text => cases List.mem_singleton.1 member; exact plain _ inside
        | list name count =>
          by_cases equal : name = param.name
          · rw [Piece.fill, if_pos equal] at member
            exact plain_written named values.length piece member
          · rw [Piece.fill, if_neg equal] at member
            cases List.mem_singleton.1 member
            exact plain _ inside

theorem plain_expand {pieces : List Piece} (plain : ∀ piece ∈ pieces, piece.Plain) :
    ∀ piece ∈ pieces.flatMap Piece.expand, piece.Plain := by
  intro piece member
  obtain ⟨origin, inside, member⟩ := List.mem_flatMap.1 member
  have fit := plain origin inside
  cases origin with
  | list name count => exact plain_written fit count piece member
  | _ => rw [List.mem_singleton.1 member]; exact fit

/-- Once every list is written out, no start of a list placeholder is left. -/
theorem spell_no_colon_point {pieces : List Piece} (plain : ∀ piece ∈ pieces, piece.Plain)
    (out : ∀ name count, Piece.list name count ∉ pieces) : ¬[':', '.'] <:+: spell pieces := by
  induction pieces with
  | nil =>
    rintro ⟨before, after, same⟩
    simp [spell] at same
  | cons piece rest ih =>
    rintro ⟨before, after, same⟩
    have others := ih (fun other member => plain other (List.mem_cons_of_mem _ member))
      fun name count member => out name count (List.mem_cons_of_mem _ member)
    rw [spell_cons, List.append_assoc, List.append_eq_append_iff] at same
    rcases same with ⟨middle, first, second⟩ | ⟨middle, first, second⟩
    · cases before with
      | nil =>
        have whole : spell (piece :: rest) = ':' :: '.' :: after := by
          rw [spell_cons, first, List.nil_append, ← second]
          rfl
        exact spell_no_start plain _ whole
      | cons c before =>
        cases middle with
        | nil => exact spell_no_start (fun other member => plain other (List.mem_cons_of_mem _ member)) _ second.symm
        | cons d middle =>
          have colon : d = ':' := (List.cons.inj second).1.symm
          cases piece with
          | blank => simp at first
          | list name count => exact out name count List.mem_cons_self
          | token kind text =>
            have fits := (plain (.token kind text) List.mem_cons_self).2.2.1
            rw [Piece.chars_token] at first
            rw [first, colon] at fits
            simp at fits
    · exact others ⟨middle, after, by rw [List.append_assoc, ← second]⟩

end IssueQuery.Sql
