import IssueQuery.Proofs.Query.Derivation
import IssueQuery.Query.Printer

/-!
Entries of an ordering. The entries that tokens are made up of are known from the tokens, and where there are none the
refusal names the first token that no ordering can go on with.
-/

namespace IssueQuery

structure SortEntry where
  name : Token
  direction : Option Direction
  comma : Bool
  deriving DecidableEq

namespace SortEntry

def tail (entry : SortEntry) : List Token :=
  (entry.direction.map fun direction => .order direction.keyword).toList ++
    if entry.comma then [.punct .comma] else []

def tokens (entry : SortEntry) : List Token :=
  entry.name :: entry.tail

def key (entry : SortEntry) : SortKey :=
  ⟨entry.name.text, entry.direction.getD .asc⟩

structure Derivation (entries : List SortEntry) (tokens : List Token) : Prop where
  named : ∀ entry ∈ entries, ∃ field, entry.name.Names field
  spelled : entries.flatMap SortEntry.tokens = tokens

end SortEntry

theorem Token.fieldName_error {token : Token} {place : FieldPlace} {refusal : Failure}
    (refused : token.fieldName place = .error refusal) :
    (∀ field, ¬token.Names field) ∧ refusal = .invalidQuery (.notAField place token) := by
  have unnamed : ∀ field, ¬token.Names field := by
    intro field names
    rw [names.fieldName] at refused
    cases refused
  refine ⟨unnamed, ?_⟩
  cases token with
  | word name => cases refused
  | quoted name =>
    rw [fieldName] at refused
    split at refused
    · cases refused
    · exact (Except.error.inj refused).symm
  | operator | marker | punct | order => exact (Except.error.inj refused).symm

namespace SortKey

def IsOrdering (tokens : List Token) : Prop :=
  ∃ keys, Derives tokens keys

/-- What stands before the rest of an ordering is read as a direction and a comma, whatever comes after the token that
the rest starts with. -/
theorem parseTail_read (tokens : List Token) :
    ∃ written comma, (parseTail tokens).1.Written written ∧ (comma = [] ∨ comma = [.punct .comma]) ∧
      tokens = written ++ comma ++ (parseTail tokens).2 ∧
      ∀ token rest other, (parseTail tokens).2 = token :: rest →
        parseTail (written ++ comma ++ token :: other) = ((parseTail tokens).1, token :: other) := by
  fun_cases parseTail tokens with
  | case1 rest => exact ⟨_, _, .asc, .inr rfl, rfl, fun _ _ _ _ => rfl⟩
  | case3 rest => exact ⟨_, _, .desc, .inr rfl, rfl, fun _ _ _ _ => rfl⟩
  | case5 rest => exact ⟨_, _, .silent, .inr rfl, rfl, fun _ _ _ _ => rfl⟩
  | case2 rest plain =>
    refine ⟨_, _, .asc, .inl rfl, rfl, ?_⟩
    rintro token after other rfl
    rw [List.append_nil, List.singleton_append, parseTail]
    exact fun _ same => plain after (by cases same; rfl)
  | case4 rest plain =>
    refine ⟨_, _, .desc, .inl rfl, rfl, ?_⟩
    rintro token after other rfl
    rw [List.append_nil, List.singleton_append, parseTail]
    exact fun _ same => plain after (by cases same; rfl)
  | case6 rest _ asc _ desc comma =>
    refine ⟨_, _, .silent, .inl rfl, rfl, ?_⟩
    rintro token after other rfl
    rw [List.append_nil, List.nil_append, parseTail]
    · exact fun _ same => asc after (by cases same; rfl)
    · exact fun _ same => asc after (by cases same; rfl)
    · exact fun _ same => desc after (by cases same; rfl)
    · exact fun _ same => desc after (by cases same; rfl)
    · exact fun _ same => comma after (by cases same; rfl)

theorem derives_of_parseAll {tokens : List Token} {keys : List SortKey} (parsed : parseAll tokens = .ok keys) :
    Derives tokens keys := by
  fun_induction parseAll tokens generalizing keys with
  | case1 =>
    cases parsed
    exact .nil
  | case2 token rest ih =>
    obtain ⟨field, named, parsed⟩ := ok_of_bind parsed
    obtain ⟨more, later, same⟩ := ok_of_bind parsed
    cases same
    obtain ⟨written, comma, spelled, optional, whole, _⟩ := parseTail_read rest
    have entry := Derives.entry (Token.names_of_fieldName named) spelled optional (ih later)
    rwa [List.cons_append, List.cons_append, ← whole] at entry

theorem parseAll_ok {tokens : List Token} {keys : List SortKey} :
    parseAll tokens = .ok keys ↔ Derives tokens keys :=
  ⟨derives_of_parseAll, Derives.parseAll⟩

/-- What stands behind a name is a direction and a comma still when its end is left out. -/
theorem start_of_written {direction : Direction} {written comma start : List Token}
    (spelled : direction.Written written) (optional : comma = [] ∨ comma = [.punct .comma])
    (begins : start <+: written ++ comma) :
    ∃ (other : Direction) (before after : List Token), other.Written before ∧
      (after = [] ∨ after = [.punct .comma]) ∧ start = before ++ after := by
  have empty : ∀ a : List Token, a <+: [] → a = [] := fun a => List.prefix_nil.1
  have single : ∀ (a : List Token) (x : Token), a <+: [x] → a = [x] ∨ a = [] := by
    intro a x begins
    rcases List.prefix_cons_iff.1 begins with rfl | ⟨none, rfl, behind⟩
    · exact .inr rfl
    · exact .inl (congrArg (List.cons x) (empty none behind))
  rcases List.prefix_or_prefix_of_prefix begins (List.prefix_append written comma) with short | ⟨after, rfl⟩
  · have cut : start = written ∨ start = [] := by
      cases spelled with
      | silent => exact .inr (empty _ short)
      | asc | desc => exact single _ _ short
    rcases cut with rfl | rfl
    · exact ⟨direction, start, [], spelled, .inl rfl, (List.append_nil _).symm⟩
    · exact ⟨.asc, [], [], .silent, .inl rfl, rfl⟩
  · refine ⟨direction, written, after, spelled, ?_, rfl⟩
    rcases optional with rfl | rfl
    · exact .inl (empty _ ((List.prefix_append_right_inj written).1 begins))
    · exact (single _ _ ((List.prefix_append_right_inj written).1 begins)).symm

theorem Derives.start {tokens a : List Token} {keys : List SortKey} (derived : Derives tokens keys)
    (begins : a <+: tokens) : IsOrdering a := by
  induction derived generalizing a with
  | nil => exact ⟨[], List.prefix_nil.1 begins ▸ .nil⟩
  | @entry token field direction written comma rest keys names spelled optional more ih =>
    rw [List.cons_append, List.cons_append] at begins
    rcases List.prefix_cons_iff.1 begins with rfl | ⟨a, rfl, behind⟩
    · exact ⟨[], .nil⟩
    · rcases List.prefix_or_prefix_of_prefix behind (List.prefix_append (written ++ comma) rest) with inside | ⟨b, rfl⟩
      · obtain ⟨_, _, _, spelled, optional, rfl⟩ := start_of_written spelled optional inside
        have entry := Derives.entry names spelled optional .nil
        rw [List.append_nil] at entry
        exact ⟨_, entry⟩
      · obtain ⟨others, derived⟩ := ih ((List.prefix_append_right_inj _).1 behind)
        exact ⟨_, .entry names spelled optional derived⟩

/-- These tokens are an ordering, and with one more they are none. -/
structure EndsBefore (read : List Token) (token : Token) : Prop where
  before : IsOrdering read
  behind : ¬IsOrdering (read ++ [token])

theorem EndsBefore.unique {a b rest after : List Token} {token other : Token} (first : EndsBefore a token)
    (second : EndsBefore b other) (same : a ++ token :: rest = b ++ other :: after) : a = b ∧ token = other := by
  have apart : ∀ {a c : List Token} {token : Token}, EndsBefore a token → ¬IsOrdering (a ++ token :: c) := by
    rintro a c token ends ⟨keys, derived⟩
    exact ends.behind (derived.start ⟨c, List.append_assoc a [token] c⟩)
  rcases List.append_eq_append_iff.1 same with ⟨c, rfl, tail⟩ | ⟨c, rfl, tail⟩
  · cases c with
    | nil => exact ⟨(List.append_nil a).symm, (List.cons.inj tail).1⟩
    | cons d c =>
      cases tail
      exact absurd second.before (apart first)
  · cases c with
    | nil => exact ⟨List.append_nil b, (List.cons.inj tail).1.symm⟩
    | cons d c =>
      cases tail
      exact absurd first.before (apart second)

theorem IsOrdering.later {token : Token} {rest : List Token} (sentence : IsOrdering (token :: rest)) :
    IsOrdering (parseTail rest).2 := by
  obtain ⟨keys, derived⟩ := sentence
  have parsed := derived.parseAll
  rw [parseAll] at parsed
  obtain ⟨_, _, parsed⟩ := ok_of_bind parsed
  obtain ⟨more, later, _⟩ := ok_of_bind parsed
  exact ⟨more, derives_of_parseAll later⟩

/-- A refusal is about the token where the ordering ends. -/
theorem endsBefore_of_parseAll {tokens : List Token} {refusal : Failure}
    (refused : parseAll tokens = .error refusal) :
    ∃ read token rest, tokens = read ++ token :: rest ∧ EndsBefore read token ∧
      refusal = .invalidQuery (.notAField .ordering token) := by
  fun_induction parseAll tokens generalizing refusal with
  | case1 => cases refused
  | case2 token rest ih =>
    rcases error_of_bind refused with unnamed | ⟨field, named, refused⟩
    · obtain ⟨unnamed, same⟩ := Token.fieldName_error unnamed
      refine ⟨[], token, rest, rfl, ⟨⟨[], .nil⟩, ?_⟩, same⟩
      rintro ⟨keys, derived⟩
      rcases derived.starts with none | ⟨_, _, field, same, names⟩
      · cases none
      · cases same
        exact unnamed field names
    · rcases error_of_bind refused with later | ⟨_, _, ended⟩
      · obtain ⟨read, last, after, tail, ⟨⟨keys, derived⟩, behind⟩, same⟩ := ih later
        obtain ⟨written, comma, spelled, optional, whole, reads⟩ := parseTail_read rest
        have entry := Derives.entry (Token.names_of_fieldName named) spelled optional derived
        refine ⟨token :: written ++ comma ++ read, last, after, ?_, ⟨⟨_, entry⟩, ?_⟩, same⟩
        · rw [List.append_assoc, ← tail, List.cons_append, List.cons_append, ← whole]
        · -- cut off behind the last token, the tail is still read up to the same place
          intro sentence
          have shorter : parseTail (written ++ comma ++ (read ++ [last])) = ((parseTail rest).1, read ++ [last]) := by
            cases read with
            | nil => exact reads last after [] tail
            | cons first read => exact reads first (read ++ last :: after) (read ++ [last]) tail
          rw [List.append_assoc, List.cons_append, List.cons_append] at sentence
          have later := sentence.later
          rw [shorter] at later
          exact behind later
      · cases ended

theorem EndsBefore.parseAll {read : List Token} {token : Token} (ends : EndsBefore read token) (rest : List Token) :
    SortKey.parseAll (read ++ token :: rest) = .error (.invalidQuery (.notAField .ordering token)) := by
  cases parsed : SortKey.parseAll (read ++ token :: rest) with
  | ok keys =>
    have derived := derives_of_parseAll parsed
    exact absurd (derived.start ⟨rest, List.append_assoc read [token] rest⟩) ends.behind
  | error refusal =>
    obtain ⟨other, found, after, same, stops, rfl⟩ := endsBefore_of_parseAll parsed
    obtain ⟨-, rfl⟩ := ends.unique stops same
    rfl

end SortKey

/-! The entries of an ordering. -/

namespace SortEntry

theorem tail_inj {entry other : SortEntry} (name : entry.name = other.name) (same : entry.tail = other.tail) :
    entry = other := by
  obtain ⟨_, direction, comma⟩ := entry
  obtain ⟨_, way, mark⟩ := other
  cases name
  rcases direction with _ | _ | _ <;> rcases way with _ | _ | _ <;> cases comma <;> cases mark <;>
    first | rfl | cases same

/-- What stands behind a name is written as the grammar has it. -/
theorem tail_written (entry : SortEntry) :
    ∃ written comma, entry.key.direction.Written written ∧ (comma = [] ∨ comma = [.punct .comma]) ∧
      entry.tail = written ++ comma := by
  obtain ⟨name, direction, comma⟩ := entry
  refine ⟨_, _, ?_, ?_, rfl⟩
  · rcases direction with _ | _ | _
    · exact .silent
    · exact .asc
    · exact .desc
  · cases comma
    · exact .inl rfl
    · exact .inr rfl

theorem exists_of_written {name : Token} {field : String} {direction : Direction} {written comma : List Token}
    (names : name.Names field) (spelled : direction.Written written)
    (optional : comma = [] ∨ comma = [.punct .comma]) :
    ∃ entry : SortEntry, entry.name = name ∧ entry.tail = written ++ comma ∧ entry.key = ⟨field, direction⟩ := by
  rw [← names.text_eq]
  rcases optional with rfl | rfl
  · cases spelled with
    | silent => exact ⟨⟨name, none, false⟩, rfl, rfl, rfl⟩
    | asc => exact ⟨⟨name, some .asc, false⟩, rfl, rfl, rfl⟩
    | desc => exact ⟨⟨name, some .desc, false⟩, rfl, rfl, rfl⟩
  · cases spelled with
    | silent => exact ⟨⟨name, none, true⟩, rfl, rfl, rfl⟩
    | asc => exact ⟨⟨name, some .asc, true⟩, rfl, rfl, rfl⟩
    | desc => exact ⟨⟨name, some .desc, true⟩, rfl, rfl, rfl⟩

theorem Derivation.derives {entries : List SortEntry} {tokens : List Token} (derivation : Derivation entries tokens) :
    SortKey.Derives tokens (entries.map key) := by
  obtain ⟨named, rfl⟩ := derivation
  induction entries with
  | nil => exact .nil
  | cons entry rest ih =>
    obtain ⟨⟨field, names⟩, later⟩ := List.forall_mem_cons.1 named
    obtain ⟨written, comma, spelled, optional, same⟩ := entry.tail_written
    have derived := SortKey.Derives.entry names spelled optional (ih later)
    rw [List.cons_append, ← same, ← names.text_eq] at derived
    exact derived

theorem derivation_of_derives {tokens : List Token} {keys : List SortKey} (derived : SortKey.Derives tokens keys) :
    ∃ entries, Derivation entries tokens ∧ entries.map key = keys := by
  induction derived with
  | nil => exact ⟨[], ⟨List.forall_mem_nil _, rfl⟩, rfl⟩
  | @entry _ field _ _ _ _ _ names spelled optional more ih =>
    obtain ⟨entries, ⟨named, rfl⟩, rfl⟩ := ih
    obtain ⟨entry, rfl, tail, same⟩ := exists_of_written names spelled optional
    refine ⟨entry :: entries, ⟨List.forall_mem_cons.2 ⟨⟨field, names⟩, named⟩, ?_⟩, ?_⟩
    · rw [List.flatMap_cons, SortEntry.tokens, tail]
      rfl
    · rw [List.map_cons, same]

theorem Derivation.parseTail {entries : List SortEntry} {rest : List Token} (more : Derivation entries rest)
    (entry : SortEntry) : SortKey.parseTail (entry.tail ++ rest) = (entry.key.direction, rest) := by
  obtain ⟨written, comma, spelled, optional, same⟩ := entry.tail_written
  rw [same]
  exact SortKey.parseTail_written spelled optional more.derives

theorem Derivation.tail {entry : SortEntry} {entries : List SortEntry} {tokens : List Token}
    (derivation : Derivation (entry :: entries) tokens) :
    ∃ rest, tokens = entry.name :: (entry.tail ++ rest) ∧ Derivation entries rest := by
  obtain ⟨named, rfl⟩ := derivation
  exact ⟨_, rfl, (List.forall_mem_cons.1 named).2, rfl⟩

theorem Derivation.unique_entries {entries others : List SortEntry} {tokens : List Token}
    (first : Derivation entries tokens) (second : Derivation others tokens) : others = entries := by
  induction entries generalizing others tokens with
  | nil =>
    obtain ⟨-, rfl⟩ := first
    cases others with
    | nil => rfl
    | cons other others => cases second.spelled
  | cons entry entries ih =>
    obtain ⟨rest, rfl, later⟩ := first.tail
    cases others with
    | nil => cases second.spelled
    | cons other others =>
      obtain ⟨after, same, more⟩ := second.tail
      obtain ⟨name, behind⟩ := List.cons.inj same
      -- the parser leaves the same of both, so the entries write the same
      have ends := later.parseTail entry
      rw [behind, more.parseTail other] at ends
      obtain rfl : after = rest := (Prod.mk.inj ends).2
      rw [tail_inj name.symm (List.append_cancel_right behind).symm, ih later more]

theorem Derivation.desc_iff {entries : List SortEntry} {tokens : List Token} (derivation : Derivation entries tokens) :
    ∀ entry ∈ entries, entry.key.direction = .desc ↔ .order .desc ∈ entry.tokens := by
  intro entry member
  obtain ⟨field, names⟩ := derivation.named entry member
  obtain ⟨name, direction, comma⟩ := entry
  have other : Token.order .desc ≠ name := by
    rintro rfl
    cases names
  rcases direction with _ | _ | _ <;> cases comma <;>
    simp [key, SortEntry.tokens, SortEntry.tail, Direction.keyword, other]

end SortEntry

/-- An ordering is read if and only if the grammar derives it: its entries are known from the tokens, make up all of
them and give one key each. Any other row of tokens is refused, for the first token that no ordering can go on with. -/
theorem SortKey.parseAll_exact (tokens : List Token) :
    (∀ keys, parseAll tokens = .ok keys ↔ Derives tokens keys) ∧
      (∀ keys, Derives tokens keys → ∃ entries, SortEntry.Derivation entries tokens ∧
        (∀ others, SortEntry.Derivation others tokens → others = entries) ∧ entries.map SortEntry.key = keys ∧
        ∀ entry ∈ entries, entry.key.direction = .desc ↔ .order .desc ∈ entry.tokens) ∧
      ∀ refusal, parseAll tokens = .error refusal ↔ ∃ read token rest, tokens = read ++ token :: rest ∧
        EndsBefore read token ∧ refusal = .invalidQuery (.notAField .ordering token) := by
  refine ⟨fun keys => parseAll_ok, ?_, ?_⟩
  · intro keys derived
    obtain ⟨entries, derivation, same⟩ := SortEntry.derivation_of_derives derived
    exact ⟨entries, derivation, fun others other => derivation.unique_entries other, same, derivation.desc_iff⟩
  · intro refusal
    constructor
    · exact endsBefore_of_parseAll
    · rintro ⟨read, token, rest, rfl, ends, rfl⟩
      exact ends.parseAll rest

def variedEntries : List SortEntry :=
  [⟨.quoted "DESC", some .asc, true⟩, ⟨.word "id", none, false⟩, ⟨.word "priority", some .desc, false⟩,
    ⟨.quoted "title", none, true⟩]

def variedOrdering : List Token :=
  [.quoted "DESC", .order .asc, .punct .comma, .word "id", .word "priority", .order .desc, .quoted "title",
    .punct .comma]

theorem variedOrdering_read :
    SortKey.parseAll variedOrdering = .ok [⟨"DESC", .asc⟩, ⟨"id", .asc⟩, ⟨"priority", .desc⟩, ⟨"title", .asc⟩] ∧
      SortKey.parseAll (variedOrdering ++ .punct .comma :: [.word "id"]) =
        .error (.invalidQuery (.notAField .ordering (.punct .comma))) := by
  have derivation : SortEntry.Derivation variedEntries variedOrdering := by
    refine ⟨?_, rfl⟩
    simp only [variedEntries, List.forall_mem_cons]
    exact ⟨⟨_, .quoted (by decide)⟩, ⟨_, .word _⟩, ⟨_, .word _⟩, ⟨_, .quoted (by decide)⟩, List.forall_mem_nil _⟩
  have ends : SortKey.EndsBefore variedOrdering (.punct .comma) := by
    refine ⟨⟨_, derivation.derives⟩, fun sentence => ?_⟩
    -- four entries are read, and the second of the commas is left
    obtain ⟨keys, derived⟩ := sentence.later.later.later.later
    rcases derived.starts with none | ⟨_, _, _, same, names⟩
    · cases none
    · cases same
      cases names
  obtain ⟨read, _, _⟩ := SortKey.parseAll_exact variedOrdering
  obtain ⟨_, _, refused⟩ := SortKey.parseAll_exact (variedOrdering ++ .punct .comma :: [.word "id"])
  exact ⟨(read _).2 derivation.derives, (refused _).2 ⟨_, _, _, rfl, ends, rfl⟩⟩

end IssueQuery
