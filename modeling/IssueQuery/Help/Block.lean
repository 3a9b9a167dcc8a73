import IssueQuery.Help.Ink
import IssueQuery.Text.ByteLength
import IssueQuery.Text.CharClass
import IssueQuery.Text.Lines

/-!
Blocks of examples: lines with a heading, or a command and what it does. A line is cut into segments, each
in one colour or in none; the segments of a command are the command.
-/

namespace IssueQuery.Help

open Text

structure Segment where
  ink : Option Ink
  text : List Char
  deriving DecidableEq, Repr

def Segment.painted (segment : Segment) : String :=
  match segment.ink with
  | none => String.ofList segment.text
  | some ink => ink.paint (String.ofList segment.text)

def paintAll (segments : List Segment) : String :=
  String.join (segments.map Segment.painted)

def isQuote (c : Char) : Bool :=
  c == '\'' || c == '"'

def literalSegment (text : List Char) : List Segment :=
  if text.isEmpty then [] else [⟨some .literal, text⟩]

theorem length_dropWhile_le (p : Char → Bool) (cs : List Char) :
    (cs.dropWhile p).length ≤ cs.length :=
  (List.dropWhile_sublist p).length_le

def commandSegments (command : List Char) : List Segment :=
  match _split : command.dropWhile (!isQuote ·) with
  | [] => literalSegment command
  | quote :: rest =>
    literalSegment (command.takeWhile (!isQuote ·)) ++
      ⟨some .context,
        quote :: (rest.takeWhile (· != quote) ++ (rest.dropWhile (· != quote)).take 1)⟩ ::
      commandSegments ((rest.dropWhile (· != quote)).drop 1)
termination_by command.length
decreasing_by
  have shorter := length_dropWhile_le (!isQuote ·) command
  have inner := length_dropWhile_le (· != quote) rest
  simp only [_split, List.length_cons] at shorter
  simp only [List.length_drop]
  omega

def paintCommand (command : String) : String :=
  paintAll (commandSegments command.toList)

/-- Two or more spaces with something other than spaces after them. -/
def startsGap : List Char → Bool
  | ' ' :: ' ' :: rest => rest.any (· != ' ')
  | _ => false

def splitDescription? : List Char → Option (List Char × List Char)
  | [] => none
  | c :: rest =>
    if startsGap (c :: rest) then some ([], c :: rest)
    else (splitDescription? rest).map fun (command, description) => (c :: command, description)

def descriptionStart? (line : String) : Option Nat :=
  (splitDescription? line.toList).map fun (command, _) => byteLength command

def hasGap : List Char → Bool
  | ' ' :: ' ' :: _ => true
  | _ :: rest => hasGap rest
  | [] => false

def isHeading (trimmed : List Char) : Bool :=
  trimmed.getLast? == some ':' && !hasGap trimmed

def lineSegments (line : List Char) : List Segment :=
  let trimmed := trimStart line
  let indent := ⟨none, line.take (line.length - trimmed.length)⟩
  if isHeading trimmed then [indent, ⟨some .header, trimmed⟩]
  else
    match splitDescription? trimmed with
    | some (command, description) => indent :: commandSegments command ++ [⟨none, description⟩]
    | none => [⟨none, line⟩]

/-- A block in colour. Blank lines at its start are lost, and so is a newline at its end. -/
def paintBlock (block : String) : String :=
  let painted := (lines block.toList).map fun line => paintAll (lineSegments line)
  "\n".intercalate (painted.dropWhile String.isEmpty)

def block (surroundings : Surroundings) (text : String) : String :=
  if surroundings.colours then paintBlock text else text

end IssueQuery.Help
