import IssueQuery.Help.Block
import IssueQuery.Text.Place

/-!
The segments of a command said in two other ways: by a scan over places in the command, and by what is asked of
segments that partition it.
-/

namespace IssueQuery.Help

open Text

/-- One round of the scan, with the first quote at `start`: the segments up to the end of the quoted argument, and
what is left behind it. There is no result where a cut would fail. -/
def scanRound? (start : Nat) (text : List Char) : Option (List Segment × List Char) := do
  let (before, onward) ← cutAt? start text
  let quote := onward.headD '\''
  let (_, inside) ← cutAt? (start + 1) text
  let stop := (firstPlace? (· == quote) inside).elim (byteLength text) (start + · + 2)
  let argument ← slice? start stop text
  let (_, left) ← cutAt? stop text
  return ((if 0 < start then [⟨some .literal, before⟩] else []) ++ [⟨some .context, argument⟩], left)

inductive Scans : List Char → List Segment → Prop
  | last {text : List Char} (unquoted : firstPlace? isQuote text = none) : Scans text (literalSegment text)
  | round {text left : List Char} {start : Nat} {added segments : List Segment}
      (found : firstPlace? isQuote text = some start) (cut : scanRound? start text = some (added, left))
      (further : Scans left segments) : Scans text (added ++ segments)

/-- A quoted argument with something behind it: it starts with a quote and ends with the next one of its kind, or,
where there is none, with the command. -/
def IsArgument (argument behind : List Char) : Prop :=
  ∃ quote inner, isQuote quote = true ∧ quote ∉ inner ∧
    (argument = quote :: (inner ++ [quote]) ∨ argument = quote :: inner ∧ behind = [])

/-- In coloured text such a segment can be seen to start and to end. -/
structure Segment.Legible (segment : Segment) : Prop where
  coloured : ∃ ink, segment.ink = some ink
  bare : '\x1b' ∉ segment.text

/-- The segments make up the command, in the two colours that a command has. -/
structure Partitions (segments : List Segment) (command : List Char) : Prop where
  whole : segments.flatMap Segment.text = command
  filled : ∀ segment ∈ segments, segment.text ≠ []
  inked : ∀ segment ∈ segments, segment.ink = some .literal ∨ segment.ink = some .context
  unquoted : ∀ segment ∈ segments, segment.ink = some .literal → ∀ c ∈ segment.text, isQuote c = false
  apart : ∀ before segment after, segments = before ++ segment :: after → segment.ink = some .literal →
    ∀ next ∈ after.head?, next.ink ≠ some .literal
  quoted : ∀ before segment after, segments = before ++ segment :: after → segment.ink = some .context →
    IsArgument segment.text (after.flatMap Segment.text)

end IssueQuery.Help
