import IssueQuery.Help.Plain
import IssueQuery.Proofs.Text.Lines
import IssueQuery.Proofs.Text.Runs

/-!
Coloured text less its colours. Of a painted line the line is left, and of a painted block its lines; but the empty
lines that a block starts with are lost, since nothing is put between them and the others.
-/

namespace IssueQuery.Help
open Text

variable {text rest line : List Char}

/-! What a colour is to `plain`. -/

theorem plain_append (bare : '\x1b' ∉ text) (rest : List Char) : plain (text ++ rest) = text ++ plain rest := by
  induction text with
  | nil => rfl
  | cons c text ih =>
    obtain ⟨first, later⟩ := not_or.1 (List.mem_cons.not.1 bare)
    rw [List.cons_append, plain, ih later, List.cons_append]
    exact fun _ escape => absurd escape.symm first

theorem plain_switch {code : List Char} (single : 'm' ∉ code) (rest : List Char) :
    plain ('\x1b' :: '[' :: (code ++ 'm' :: rest)) = plain rest := by
  have stop : ∀ c ∈ ('m' :: rest).head?, (c != 'm') = false := stops_at (by decide)
  rw [plain, dropWhile_run (bne_of_not_mem single) stop, List.drop_succ_cons, List.drop_zero]

def Ink.letters (ink : Ink) : List Char :=
  "38;5;".toList ++ (toString ink.code).toList

theorem Ink.toList_start (ink : Ink) : ink.start.toList = '\x1b' :: '[' :: (ink.letters ++ ['m']) := by
  cases ink <;> decide +kernel

theorem Ink.m_not_mem_letters (ink : Ink) : 'm' ∉ ink.letters := by
  cases ink <;> decide +kernel

theorem plain_start (ink : Ink) (rest : List Char) : plain (ink.start.toList ++ rest) = plain rest := by
  rw [ink.toList_start, List.cons_append, List.cons_append, List.append_assoc, List.singleton_append,
    plain_switch ink.m_not_mem_letters]

theorem plain_reset (rest : List Char) : plain (Ink.reset.toList ++ rest) = plain rest :=
  plain_switch (show 'm' ∉ ['0'] by decide) rest

theorem toList_paint (ink : Ink) (text : List Char) :
    (ink.paint (String.ofList text)).toList = ink.start.toList ++ (text ++ Ink.reset.toList) := by
  rw [Ink.paint, String.toList_append, String.toList_append, String.toList_ofList, List.append_assoc]

theorem plain_painted {segment : Segment} (bare : '\x1b' ∉ segment.text) (rest : List Char) :
    plain (segment.painted.toList ++ rest) = segment.text ++ plain rest := by
  obtain ⟨ink, text⟩ := segment
  cases ink with
  | none => rw [Segment.painted, String.toList_ofList, plain_append bare]
  | some ink =>
    dsimp only [Segment.painted]
    rw [toList_paint, List.append_assoc, List.append_assoc, plain_start, plain_append bare, plain_reset]

theorem toList_paintAll (segments : List Segment) :
    (paintAll segments).toList = segments.flatMap fun segment => segment.painted.toList := by
  rw [paintAll, String.toList_join, List.flatMap_map]

theorem plain_paintAll {segments : List Segment} (bare : ∀ segment ∈ segments, '\x1b' ∉ segment.text)
    (rest : List Char) :
    plain ((paintAll segments).toList ++ rest) = segments.flatMap Segment.text ++ plain rest := by
  rw [toList_paintAll]
  induction segments with
  | nil => rfl
  | cons segment segments ih =>
    obtain ⟨first, later⟩ := List.forall_mem_cons.1 bare
    rw [List.flatMap_cons, List.append_assoc, plain_painted first, ih later, List.flatMap_cons, List.append_assoc]

/-! The segments of a line make up the line. -/

theorem flatMap_literalSegment (text : List Char) : (literalSegment text).flatMap Segment.text = text := by
  rw [literalSegment]
  split
  · next empty => exact (List.isEmpty_iff.1 empty).symm
  · exact List.append_nil text

theorem flatMap_commandSegments (command : List Char) : (commandSegments command).flatMap Segment.text = command := by
  fun_induction commandSegments command with
  | case1 command split => exact flatMap_literalSegment command
  | case2 command quote rest split ih =>
    have cut : command = command.takeWhile (!isQuote ·) ++ quote :: rest := by
      rw [← split, List.takeWhile_append_dropWhile]
    conv_rhs => rw [cut]
    rw [List.flatMap_append, flatMap_literalSegment, List.flatMap_cons, ih]
    simp only [List.cons_append, List.append_assoc, List.take_append_drop, List.takeWhile_append_dropWhile]

theorem splitDescription?_eq {command description : List Char}
    (found : splitDescription? line = some (command, description)) : line = command ++ description := by
  fun_induction splitDescription? line generalizing command with
  | case1 => cases found
  | case2 c rest gap =>
    cases found
    rfl
  | case3 c rest _ ih =>
    obtain ⟨parts, split, same⟩ := Option.map_eq_some_iff.1 found
    cases same
    rw [List.cons_append, ← ih split]

theorem flatMap_lineSegments (line : List Char) : (lineSegments line).flatMap Segment.text = line := by
  have whole : line.take (line.length - (trimStart line).length) ++ trimStart line = line :=
    List.suffix_iff_eq_append.1 (List.dropWhile_suffix _)
  unfold lineSegments
  dsimp only
  split
  · simpa using whole
  · split
    · next command description found =>
      have cut := splitDescription?_eq found
      rw [List.cons_append, List.flatMap_cons, List.flatMap_append, flatMap_commandSegments, List.flatMap_singleton,
        ← cut]
      exact whole
    · exact List.append_nil line

theorem text_eq_nil_of_painted {segment : Segment} (empty : segment.painted.toList = []) : segment.text = [] := by
  obtain ⟨ink, text⟩ := segment
  cases ink with
  | none => rwa [Segment.painted, String.toList_ofList] at empty
  | some ink =>
    dsimp only [Segment.painted] at empty
    rw [toList_paint, List.append_eq_nil_iff, List.append_eq_nil_iff] at empty
    exact empty.2.1

theorem isEmpty_paintLine (line : List Char) : (paintAll (lineSegments line)).isEmpty = line.isEmpty := by
  rw [Bool.eq_iff_iff, String.isEmpty_iff, ← String.toList_eq_nil_iff, toList_paintAll, List.isEmpty_iff]
  constructor
  · intro empty
    rw [← flatMap_lineSegments line, List.flatMap_eq_nil_iff]
    exact fun segment member => text_eq_nil_of_painted (List.flatMap_eq_nil_iff.1 empty segment member)
  · rintro rfl
    rfl

theorem plain_paintLine (bare : '\x1b' ∉ line) (rest : List Char) :
    plain ((paintAll (lineSegments line)).toList ++ rest) = line ++ plain rest := by
  have inside : ∀ segment ∈ lineSegments line, '\x1b' ∉ segment.text := by
    intro segment member escape
    rw [← flatMap_lineSegments line] at bare
    exact bare (List.mem_flatMap.2 ⟨segment, member, escape⟩)
  rw [plain_paintAll inside, flatMap_lineSegments]

theorem plain_paintLines {rows : List (List Char)} (bare : ∀ row ∈ rows, '\x1b' ∉ row) :
    plain (['\n'].intercalate (rows.map fun row => (paintAll (lineSegments row)).toList)) =
      ['\n'].intercalate rows := by
  have newline : '\x1b' ∉ ['\n'] := by decide
  induction rows with
  | nil => rw [List.map_nil, List.intercalate_nil, plain]
  | cons row rows ih =>
    obtain ⟨first, later⟩ := List.forall_mem_cons.1 bare
    cases rows with
    | nil =>
      have alone := plain_paintLine first []
      rw [plain, List.append_nil, List.append_nil] at alone
      rw [List.map_singleton, List.intercalate_singleton, List.intercalate_singleton, alone]
    | cons next rows =>
      rw [List.map_cons, List.map_cons, List.intercalate_cons_cons, List.append_assoc, plain_paintLine first,
        plain_append newline, List.intercalate_cons_cons, List.append_assoc]
      exact congrArg (fun shown => row ++ (['\n'] ++ shown)) (ih later)

/-- A block shows its lines, joined again, without the empty ones that it starts with. -/
theorem plain_paintBlock {block : String} (bare : '\x1b' ∉ block.toList) :
    plain (paintBlock block).toList = ['\n'].intercalate ((lines block.toList).dropWhile List.isEmpty) := by
  have empty : (String.isEmpty ∘ fun line => paintAll (lineSegments line)) = List.isEmpty := funext isEmpty_paintLine
  rw [paintBlock]
  rw [String.toList_intercalate, List.dropWhile_map, empty, List.map_map]
  apply plain_paintLines
  intro row member escape
  exact bare ((mem_lines ((List.dropWhile_subset _) member)).1 _ escape)

variable {rows : List (List Char)}

theorem dropWhile_isEmpty_eq_self_iff : rows.dropWhile List.isEmpty = rows ↔ rows.head? ≠ some [] := by
  cases rows with
  | nil => simp
  | cons row rows =>
    cases row with
    | nil =>
      have shorter := List.length_dropWhile_le List.isEmpty rows
      refine ⟨fun same => ?_, fun filled => absurd rfl filled⟩
      have length := congrArg List.length same
      rw [List.dropWhile_cons_of_pos rfl, List.length_cons] at length
      omega
    | cons c row => simp

/-- Cut at its newlines, the text of joined rows gives the rows, and an empty one where there are none. -/
theorem splitOn_joined (single : ∀ row ∈ rows, '\n' ∉ row) :
    (['\n'].intercalate rows).splitOn '\n' = if rows = [] then [[]] else rows := by
  split
  · next none =>
    rw [none]
    rfl
  · next filled => exact List.splitOn_intercalate '\n' single filled

theorem splitOn_shown (single : ∀ row ∈ rows, '\n' ∉ row) :
    (['\n'].intercalate (rows.dropWhile List.isEmpty)).splitOn '\n' = rows ↔
      rows = [[]] ∨ rows ≠ [] ∧ rows.head? ≠ some [] := by
  have still : ∀ row ∈ rows.dropWhile List.isEmpty, '\n' ∉ row :=
    fun row member => single row (List.dropWhile_subset _ member)
  rw [splitOn_joined still]
  by_cases filled : rows.head? ≠ some []
  · rw [dropWhile_isEmpty_eq_self_iff.2 filled]
    cases rows with
    | nil => simp
    | cons row rows =>
      rw [if_neg (List.cons_ne_nil row rows)]
      exact ⟨fun _ => .inr ⟨List.cons_ne_nil row rows, filled⟩, fun _ => rfl⟩
  · obtain ⟨more, rfl⟩ := List.head?_eq_some_iff.1 (not_not.1 filled)
    have shorter := List.length_dropWhile_le List.isEmpty more
    rw [List.dropWhile_cons_of_pos rfl]
    constructor
    · intro same
      split at same
      · exact .inl same.symm
      · have length := congrArg List.length same
        rw [List.length_cons] at length
        omega
    · rintro (alone | ⟨-, other⟩)
      · obtain rfl : more = [] := (List.cons.inj alone).2
        rfl
      · exact absurd rfl other

theorem lines_shown (single : ∀ row ∈ rows, '\n' ∉ row) :
    lines (['\n'].intercalate (rows.dropWhile List.isEmpty)) = rows ↔
      rows.head? ≠ some [] ∧ rows.getLast? ≠ some [] ∧ ∀ row ∈ rows.dropLast, row.getLast? ≠ some '\r' := by
  have still : ∀ row ∈ rows.dropWhile List.isEmpty, '\n' ∉ row :=
    fun row member => single row (List.dropWhile_subset _ member)
  rw [lines_intercalate still, ← relined_eq_self_iff, ← dropWhile_isEmpty_eq_self_iff]
  constructor
  · intro same
    have whole : rows.dropWhile List.isEmpty = rows := by
      apply (List.dropWhile_suffix _).eq_of_length_le
      have shorter := length_relined_le (rows.dropWhile List.isEmpty)
      rwa [same] at shorter
    rw [whole] at same
    exact ⟨whole, same⟩
  · rintro ⟨whole, same⟩
    rw [whole, same]

theorem plain_block {surroundings : Surroundings} (forced : surroundings.colours = true) {text : String}
    (bare : '\x1b' ∉ text.toList) :
    plain (block surroundings text).toList = ['\n'].intercalate ((lines text.toList).dropWhile List.isEmpty) := by
  rw [block, if_pos forced, plain_paintBlock bare]

/-- In colour a text shows its lines but the empty ones at its start. So the newlines of what is shown cut it into the
lines of the text exactly if that has lines and does not start with an empty one, or has only that; and it has the same
lines as the text exactly if neither its first nor its last line is empty and no other line ends in a carriage return. -/
theorem block_shown {surroundings : Surroundings} (forced : surroundings.colours = true) {text : String}
    (bare : '\x1b' ∉ text.toList) :
    plain (block surroundings text).toList = ['\n'].intercalate ((lines text.toList).dropWhile List.isEmpty) ∧
      ((plain (block surroundings text).toList).splitOn '\n' = lines text.toList ↔
        lines text.toList = [[]] ∨ lines text.toList ≠ [] ∧ (lines text.toList).head? ≠ some []) ∧
      (lines (plain (block surroundings text).toList) = lines text.toList ↔
        (lines text.toList).head? ≠ some [] ∧ (lines text.toList).getLast? ≠ some [] ∧
          ∀ line ∈ (lines text.toList).dropLast, line.getLast? ≠ some '\r') := by
  have single : ∀ line ∈ lines text.toList, '\n' ∉ line := fun line member => (mem_lines member).2
  rw [plain_block forced bare]
  exact ⟨rfl, splitOn_shown single, lines_shown single⟩

def inColour : Surroundings :=
  { color := some "1" }

def exampleText : String :=
  "Examples:\n  jql query 'id = \"1\"'    First issue \n\n \n  plain: line"

theorem exampleText_shown :
    inColour.colours = true ∧ '\x1b' ∉ exampleText.toList ∧
      lines (plain (block inColour exampleText).toList) = lines exampleText.toList ∧
      (lines exampleText.toList).length = 5 := by
  have bare : '\x1b' ∉ exampleText.toList := by decide
  obtain ⟨-, -, same⟩ := @block_shown inColour rfl exampleText bare
  exact ⟨rfl, bare, same.2 (by decide), by decide⟩

/-- The empty line that a text starts with is not shown. -/
theorem leadingLine_lost :
    lines "\njql a  b".toList = [[], "jql a  b".toList] ∧
      lines (plain (block inColour "\njql a  b").toList) = ["jql a  b".toList] ∧
      (plain (block inColour "\njql a  b").toList).splitOn '\n' = ["jql a  b".toList] := by
  have shown := @plain_block inColour rfl "\njql a  b" (by decide)
  rw [shown]
  decide

end IssueQuery.Help
