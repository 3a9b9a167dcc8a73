import IssueQuery.Help.Partition
import IssueQuery.Proofs.Help.Painted

/-!
The segments of a command: a scan over places in it comes to them without a cut inside a character, no other segments
partition the command, and its coloured text can be read as no others.
-/

namespace IssueQuery.Help
open Text

variable {command before argument behind : List Char} {segment : Segment} {segments : List Segment}

/-! How the segments of a command are found, segment by segment. -/

theorem literalSegment_eq (filled : before ≠ []) : literalSegment before = [⟨some .literal, before⟩] := by
  rw [literalSegment, if_neg (List.isEmpty_iff.not.2 filled)]

theorem commandSegments_unquoted (unquoted : ∀ c ∈ command, isQuote c = false) :
    commandSegments command = literalSegment command := by
  have none : command.dropWhile (!isQuote ·) = [] := by
    simpa using unquoted
  rw [commandSegments]
  split
  · rfl
  · next found =>
    rw [none] at found
    cases found

theorem commandSegments_cut {quote : Char} (unquoted : ∀ c ∈ before, isQuote c = false) (opens : isQuote quote = true)
    (rest : List Char) :
    commandSegments (before ++ quote :: rest) = literalSegment before ++
      ⟨some .context, quote :: (rest.takeWhile (· != quote) ++ (rest.dropWhile (· != quote)).take 1)⟩ ::
        commandSegments ((rest.dropWhile (· != quote)).drop 1) := by
  have inside : ∀ c ∈ before, (!isQuote c) = true := by
    simpa using unquoted
  have stop : ∀ c ∈ (quote :: rest).head?, (!isQuote c) = false := stops_at (by rw [opens]; rfl)
  rw [commandSegments]
  split
  · next none =>
    rw [dropWhile_run inside stop] at none
    cases none
  · next found =>
    rw [dropWhile_run inside stop] at found
    cases found
    rw [takeWhile_run inside stop]

theorem commandSegments_append (unquoted : ∀ c ∈ before, isQuote c = false)
    (starts : ∀ c ∈ behind.head?, isQuote c = true) :
    commandSegments (before ++ behind) = literalSegment before ++ commandSegments behind := by
  cases behind with
  | nil =>
    rw [List.append_nil, commandSegments_unquoted unquoted, commandSegments_unquoted (List.forall_mem_nil _)]
    exact (List.append_nil _).symm
  | cons quote rest =>
    have opens : isQuote quote = true := starts quote rfl
    have alone := commandSegments_cut (List.forall_mem_nil _) opens rest
    rw [List.nil_append] at alone
    rw [commandSegments_cut unquoted opens, alone]
    rfl

theorem split_command {quote : Char} {rest : List Char} (split : command.dropWhile (!isQuote ·) = quote :: rest) :
    isQuote quote = true ∧ command.takeWhile (!isQuote ·) ++
      (quote :: (rest.takeWhile (· != quote) ++ (rest.dropWhile (· != quote)).take 1) ++
        (rest.dropWhile (· != quote)).drop 1) = command := by
  constructor
  · have stop := List.head?_dropWhile_not (!isQuote ·) command
    rw [split] at stop
    simpa using stop
  · rw [List.cons_append, List.append_assoc, List.take_append_drop, List.takeWhile_append_dropWhile, ← split,
      List.takeWhile_append_dropWhile]

theorem isArgument_cut {quote : Char} (opens : isQuote quote = true) (rest : List Char) :
    IsArgument (quote :: (rest.takeWhile (· != quote) ++ (rest.dropWhile (· != quote)).take 1))
      ((rest.dropWhile (· != quote)).drop 1) := by
  obtain ⟨inner, after, rfl, inside, stop⟩ := exists_run (· != quote) rest
  have absent : quote ∉ inner := fun member => bne_iff_ne.1 (inside quote member) rfl
  rw [takeWhile_run inside stop, dropWhile_run inside stop]
  refine ⟨quote, inner, opens, absent, ?_⟩
  cases after with
  | nil => exact .inr ⟨congrArg (quote :: ·) (List.append_nil inner), rfl⟩
  | cons c after =>
    obtain rfl : c = quote := by simpa using stop c rfl
    exact .inl rfl

theorem IsArgument.exists_quote (quoted : IsArgument argument behind) :
    ∃ quote tail, isQuote quote = true ∧ argument = quote :: tail := by
  obtain ⟨quote, inner, opens, -, same | ⟨same, -⟩⟩ := quoted
  · exact ⟨quote, inner ++ [quote], opens, same⟩
  · exact ⟨quote, inner, opens, same⟩

theorem commandSegments_argument (quoted : IsArgument argument behind) :
    commandSegments (argument ++ behind) = ⟨some .context, argument⟩ :: commandSegments behind := by
  obtain ⟨quote, inner, opens, absent, shape⟩ := quoted
  have inside := bne_of_not_mem absent
  have cut := commandSegments_cut (List.forall_mem_nil _) opens
  rcases shape with rfl | ⟨rfl, rfl⟩
  · have stop : ∀ c ∈ (quote :: behind).head?, (c != quote) = false := stops_at (bne_self_eq_false quote)
    have parts := cut (inner ++ quote :: behind)
    rw [takeWhile_run inside stop, dropWhile_run inside stop] at parts
    rw [List.cons_append, List.append_assoc]
    exact parts
  · have parts := cut inner
    rw [List.takeWhile_eq_self_iff.2 inside, List.dropWhile_eq_nil_iff.2 inside, List.take_nil, List.append_nil] at parts
    rw [List.append_nil]
    exact parts

/-! The scan. -/

theorem literalSegment_of_length (before : List Char) :
    (if 0 < byteLength before then [⟨some .literal, before⟩] else []) = literalSegment before := by
  cases before with
  | nil => rfl
  | cons c rest => exact if_pos (Nat.add_pos_left c.utf8Size_pos _)

theorem utf8Size_of_isQuote {quote : Char} (opens : isQuote quote = true) : quote.utf8Size = 1 := by
  rw [isQuote, Bool.or_eq_true, beq_iff_eq, beq_iff_eq] at opens
  rcases opens with rfl | rfl <;> rfl

/-- The scan sees where an argument ends. -/
theorem scanStop_argument {quote : Char} {tail : List Char} (quoted : IsArgument (quote :: tail) behind)
    (before : List Char) :
    (firstPlace? (· == quote) (tail ++ behind)).elim (byteLength (before ++ (quote :: tail ++ behind)))
      (byteLength before + · + 2) = byteLength (before ++ quote :: tail) := by
  obtain ⟨mark, inner, opens, absent, shape⟩ := quoted
  have size := utf8Size_of_isQuote opens
  have unlike : ∀ c ∈ inner, (!(c == mark)) = true := bne_of_not_mem absent
  rcases shape with same | ⟨same, rfl⟩
  · cases same
    have stop : ∀ c ∈ (quote :: behind).head?, (!(c == quote)) = false := stops_at (bne_self_eq_false quote)
    rw [List.append_assoc, List.singleton_append, firstPlace?_eq, dropWhile_run unlike stop, takeWhile_run unlike stop]
    simp only [List.head?_cons, Option.map_some, Option.elim_some, byteLength_append, byteLength, size]
    omega
  · cases same
    rw [List.append_nil, List.append_nil, firstPlace?_eq, List.dropWhile_eq_nil_iff.2 unlike]
    rfl

/-- No cut of a round fails, and it finds the argument. -/
theorem scanRound?_argument (quoted : IsArgument argument behind) (before : List Char) :
    scanRound? (byteLength before) (before ++ (argument ++ behind)) =
      some (literalSegment before ++ [⟨some .context, argument⟩], behind) := by
  obtain ⟨quote, tail, opens, rfl⟩ := quoted.exists_quote
  -- A quote is one byte, so that the place after it is behind it.
  have second : cutAt? (byteLength before + 1) (before ++ (quote :: tail ++ behind)) =
      some (before ++ [quote], tail ++ behind) := by
    have cut := cutAt?_append (before ++ [quote]) (tail ++ behind)
    rwa [byteLength_append, byteLength, byteLength, utf8Size_of_isQuote opens, Nat.add_zero, List.append_assoc] at cut
  have third := cutAt?_append (before ++ quote :: tail) behind
  rw [List.append_assoc] at third
  have mark : (quote :: tail ++ behind).headD '\'' = quote := rfl
  unfold scanRound?
  simp only [cutAt?_append, second, mark, scanStop_argument quoted, slice?_append, third, literalSegment_of_length,
    Option.bind_eq_bind, Option.bind_some]
  rfl

theorem scans_commandSegments (command : List Char) : Scans command (commandSegments command) := by
  fun_induction commandSegments command with
  | case1 command split =>
    apply Scans.last
    rw [firstPlace?_eq, split]
    rfl
  | case2 command quote rest split ih =>
    obtain ⟨opens, whole⟩ := split_command split
    have round := scanRound?_argument (isArgument_cut opens rest) (command.takeWhile (!isQuote ·))
    rw [whole] at round
    have found : firstPlace? isQuote command = some (byteLength (command.takeWhile (!isQuote ·))) := by
      rw [firstPlace?_eq, split]
      rfl
    have scans := Scans.round found round ih
    rwa [List.append_assoc, List.singleton_append] at scans

theorem Scans.unique {others : List Segment} (scans : Scans command segments) (again : Scans command others) :
    segments = others := by
  induction scans generalizing others with
  | last unquoted =>
    cases again with
    | last => rfl
    | round found => cases unquoted.symm.trans found
  | round found cut further ih =>
    cases again with
    | last unquoted => cases unquoted.symm.trans found
    | round same recut further =>
      cases same.symm.trans found
      cases recut.symm.trans cut
      rw [ih further]

/-! Partitions. -/

theorem forall_split_cons {P : Segment → List Segment → Prop} :
    (∀ before other after, segment :: segments = before ++ other :: after → P other after) ↔
      P segment segments ∧ ∀ before other after, segments = before ++ other :: after → P other after := by
  constructor
  · intro each
    refine ⟨each [] segment segments rfl, fun before other after same => ?_⟩
    exact each (segment :: before) other after (congrArg (segment :: ·) same)
  · rintro ⟨first, later⟩ before other after same
    cases before with
    | nil =>
      cases same
      exact first
    | cons head before =>
      rw [List.cons_append, List.cons.injEq] at same
      exact later before other after same.2

theorem partitions_nil : Partitions [] command ↔ command = [] := by
  constructor
  · intro partitions
    exact partitions.whole.symm
  · rintro rfl
    exact ⟨rfl, nofun, nofun, nofun, by simp, by simp⟩

theorem partitions_cons : Partitions (segment :: segments) command ↔
    segment.text ++ segments.flatMap Segment.text = command ∧
      Partitions segments (segments.flatMap Segment.text) ∧
      (segment.ink = some .literal ∧ segment.text ≠ [] ∧ (∀ c ∈ segment.text, isQuote c = false) ∧
          (∀ next ∈ segments.head?, next.ink ≠ some .literal) ∨
        segment.ink = some .context ∧ IsArgument segment.text (segments.flatMap Segment.text)) := by
  constructor
  · rintro ⟨whole, filled, inked, unquoted, apart, quoted⟩
    rw [List.forall_mem_cons] at filled inked unquoted
    rw [@forall_split_cons _ _ fun segment after => segment.ink = some .literal →
      ∀ next ∈ after.head?, next.ink ≠ some .literal] at apart
    rw [@forall_split_cons _ _ fun segment after => segment.ink = some .context →
      IsArgument segment.text (after.flatMap Segment.text)] at quoted
    refine ⟨whole, ⟨rfl, filled.2, inked.2, unquoted.2, apart.2, quoted.2⟩, ?_⟩
    rcases inked.1 with literal | context
    · exact .inl ⟨literal, filled.1, unquoted.1 literal, apart.1 literal⟩
    · exact .inr ⟨context, quoted.1 context⟩
  · rintro ⟨whole, ⟨-, filled, inked, unquoted, apart, quoted⟩, ⟨ink, full, bare, distant⟩ | ⟨ink, argument⟩⟩
    · have other : segment.ink ≠ some .context := by rw [ink]; decide
      exact ⟨whole, List.forall_mem_cons.2 ⟨full, filled⟩, List.forall_mem_cons.2 ⟨.inl ink, inked⟩,
        List.forall_mem_cons.2 ⟨fun _ => bare, unquoted⟩, forall_split_cons.2 ⟨fun _ => distant, apart⟩,
        forall_split_cons.2 ⟨fun context => absurd context other, quoted⟩⟩
    · have other : segment.ink ≠ some .literal := by rw [ink]; decide
      have full : segment.text ≠ [] := by
        obtain ⟨quote, tail, -, same⟩ := argument.exists_quote
        rw [same]
        exact List.cons_ne_nil quote tail
      exact ⟨whole, List.forall_mem_cons.2 ⟨full, filled⟩, List.forall_mem_cons.2 ⟨.inr ink, inked⟩,
        List.forall_mem_cons.2 ⟨fun literal => absurd literal other, unquoted⟩,
        forall_split_cons.2 ⟨fun literal => absurd literal other, apart⟩,
        forall_split_cons.2 ⟨fun _ => argument, quoted⟩⟩

theorem Partitions.cons_literal (others : Partitions segments behind) (unquoted : ∀ c ∈ before, isQuote c = false)
    (apart : ∀ next ∈ segments.head?, next.ink ≠ some .literal) :
    Partitions (literalSegment before ++ segments) (before ++ behind) := by
  obtain rfl := others.whole
  by_cases filled : before = []
  · rw [filled]
    exact others
  · rw [literalSegment_eq filled, List.singleton_append, partitions_cons]
    exact ⟨rfl, others, .inl ⟨rfl, filled, unquoted, apart⟩⟩

theorem Partitions.cons_argument (others : Partitions segments behind) (quoted : IsArgument argument behind) :
    Partitions (⟨some .context, argument⟩ :: segments) (argument ++ behind) := by
  obtain rfl := others.whole
  exact partitions_cons.2 ⟨rfl, others, .inr ⟨rfl, quoted⟩⟩

theorem partitions_commandSegments (command : List Char) : Partitions (commandSegments command) command := by
  fun_induction commandSegments command with
  | case1 command split =>
    have unquoted : ∀ c ∈ command, isQuote c = false := by
      simpa using List.dropWhile_eq_nil_iff.1 split
    have partitions := (partitions_nil.2 rfl).cons_literal unquoted (by simp)
    rwa [List.append_nil, List.append_nil] at partitions
  | case2 command quote rest split ih =>
    obtain ⟨opens, whole⟩ := split_command split
    have unquoted : ∀ c ∈ command.takeWhile (!isQuote ·), isQuote c = false := by
      intro c member
      simpa using List.mem_takeWhile_imp member
    have apart : some Ink.context ≠ some .literal := by decide
    have partitions := (ih.cons_argument (isArgument_cut opens rest)).cons_literal unquoted (stops_at apart)
    rwa [whole] at partitions

/-- What a partition starts with is a quote if it is not a literal. -/
theorem Partitions.starts (partitions : Partitions segments command)
    (apart : ∀ next ∈ segments.head?, next.ink ≠ some .literal) : ∀ c ∈ command.head?, isQuote c = true := by
  cases segments with
  | nil =>
    rw [partitions_nil.1 partitions]
    exact nofun
  | cons segment segments =>
    obtain ⟨rfl, -, ⟨literal, -⟩ | ⟨-, quoted⟩⟩ := partitions_cons.1 partitions
    · exact absurd literal (apart segment rfl)
    · obtain ⟨quote, tail, opens, same⟩ := quoted.exists_quote
      rw [same]
      exact stops_at opens

theorem Partitions.eq_commandSegments (partitions : Partitions segments command) :
    segments = commandSegments command := by
  induction segments generalizing command with
  | nil =>
    rw [partitions_nil.1 partitions, commandSegments_unquoted (List.forall_mem_nil _)]
    rfl
  | cons segment segments ih =>
    obtain ⟨rfl, others, ⟨ink, filled, unquoted, apart⟩ | ⟨ink, quoted⟩⟩ := partitions_cons.1 partitions
    -- No literal follows this one, so what follows is a quote or nothing, and the run of other characters ends here.
    · rw [commandSegments_append unquoted (others.starts apart), literalSegment_eq filled, ← ih others, ← ink]
      rfl
    · rw [commandSegments_argument quoted, ← ih others, ← ink]

/-! Coloured text. -/

theorem Ink.letters_inj {ink other : Ink} (same : ink.letters = other.letters) : ink = other := by
  revert same
  cases ink <;> cases other <;> decide +kernel

theorem toList_painted (ink : Ink) (text rest : List Char) :
    (Segment.painted ⟨some ink, text⟩).toList ++ rest =
      '\x1b' :: '[' :: (ink.letters ++ 'm' :: (text ++ (Ink.reset.toList ++ rest))) := by
  dsimp only [Segment.painted]
  rw [toList_paint, ink.toList_start]
  simp only [List.cons_append, List.append_assoc, List.nil_append]

theorem Segment.Legible.painted_ne_nil (legible : segment.Legible) (rest : List Char) :
    segment.painted.toList ++ rest ≠ [] := by
  obtain ⟨ink, text⟩ := segment
  obtain ⟨⟨ink, rfl⟩, -⟩ := legible
  rw [toList_painted]
  exact List.cons_ne_nil _ _

/-- A coloured segment without escape characters is known from the front of a text. -/
theorem painted_inj {other : Segment} {rest after : List Char} (legible : segment.Legible) (readable : other.Legible)
    (same : segment.painted.toList ++ rest = other.painted.toList ++ after) : segment = other ∧ rest = after := by
  obtain ⟨ink, text⟩ := segment
  obtain ⟨shade, shown⟩ := other
  obtain ⟨⟨ink, rfl⟩, bare⟩ := legible
  obtain ⟨⟨shade, rfl⟩, clean⟩ := readable
  have reset : ∀ rest, ∀ c ∈ (Ink.reset.toList ++ rest).head?, (c != '\x1b') = false :=
    fun rest => stops_at (bne_self_eq_false '\x1b')
  rw [toList_painted, toList_painted, List.cons.injEq, List.cons.injEq] at same
  obtain ⟨letters, onward⟩ := run_inj (bne_of_not_mem ink.m_not_mem_letters)
    (bne_of_not_mem shade.m_not_mem_letters) (stops_at (bne_self_eq_false 'm')) (stops_at (bne_self_eq_false 'm'))
    same.2.2
  obtain ⟨rfl, ends⟩ := run_inj (bne_of_not_mem bare) (bne_of_not_mem clean) (reset rest) (reset after)
    (List.cons.inj onward).2
  rw [Ink.letters_inj letters]
  exact ⟨rfl, List.append_cancel_left ends⟩

theorem paintAll_inj {others : List Segment}
    (legible : ∀ segment ∈ segments, segment.Legible) (readable : ∀ other ∈ others, other.Legible)
    (same : paintAll segments = paintAll others) : segments = others := by
  have flat := congrArg String.toList same
  rw [toList_paintAll, toList_paintAll] at flat
  clear same
  induction segments generalizing others with
  | nil =>
    cases others with
    | nil => rfl
    | cons other others => exact absurd flat.symm ((readable other List.mem_cons_self).painted_ne_nil _)
  | cons segment segments ih =>
    rw [List.forall_mem_cons] at legible
    cases others with
    | nil => exact absurd flat (legible.1.painted_ne_nil _)
    | cons other others =>
      rw [List.forall_mem_cons] at readable
      obtain ⟨rfl, rest⟩ := painted_inj legible.1 readable.1 flat
      rw [ih legible.2 readable.2 rest]

/-- The scan of a command without escape characters ends, and only with these segments; they, and no others, partition
the command; and they, and no others in colour without escape characters, are what its coloured text shows. -/
theorem command_partitioned {command : String} (bare : '\x1b' ∉ command.toList) (segments : List Segment) :
    (Scans command.toList segments ↔ segments = commandSegments command.toList) ∧
      (Partitions segments command.toList ↔ segments = commandSegments command.toList) ∧
      ((∀ segment ∈ segments, segment.Legible) ∧ paintAll segments = paintCommand command ↔
        segments = commandSegments command.toList) := by
  have parts := partitions_commandSegments command.toList
  have legible : ∀ segment ∈ commandSegments command.toList, segment.Legible := by
    intro segment member
    constructor
    · exact (parts.inked segment member).elim (⟨_, ·⟩) (⟨_, ·⟩)
    · intro escape
      rw [← parts.whole] at bare
      exact bare (List.mem_flatMap.2 ⟨segment, member, escape⟩)
  refine ⟨⟨fun scans => scans.unique (scans_commandSegments _), ?_⟩, ⟨Partitions.eq_commandSegments, ?_⟩,
    ⟨fun shown => paintAll_inj shown.1 legible shown.2, ?_⟩⟩
  · rintro rfl
    exact scans_commandSegments _
  · rintro rfl
    exact parts
  · rintro rfl
    exact ⟨legible, rfl⟩

def quotedCommand : String :=
  "jql 'é = \"ü\"'\"\" x '→"

def quotedSegments : List Segment :=
  [⟨some .literal, "jql ".toList⟩, ⟨some .context, "'é = \"ü\"'".toList⟩, ⟨some .context, "\"\"".toList⟩,
    ⟨some .literal, " x ".toList⟩, ⟨some .context, "'→".toList⟩]

theorem quotedCommand_partitioned :
    '\x1b' ∉ quotedCommand.toList ∧ Scans quotedCommand.toList quotedSegments ∧
      Partitions quotedSegments quotedCommand.toList ∧ paintAll quotedSegments = paintCommand quotedCommand := by
  have bare : '\x1b' ∉ quotedCommand.toList := by decide
  have same : quotedSegments = commandSegments quotedCommand.toList := by decide +kernel
  obtain ⟨scan, partition, shown⟩ := command_partitioned bare quotedSegments
  exact ⟨bare, scan.2 same, partition.2 same, (shown.2 same).2⟩

end IssueQuery.Help
