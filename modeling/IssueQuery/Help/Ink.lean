/-! Colours of help pages and when they are used. -/

namespace IssueQuery.Help

inductive Ink where
  | header | literal | context
  deriving DecidableEq, Repr

namespace Ink

def code : Ink → Nat
  | header => 74
  | literal => 250
  | context => 245

def start (ink : Ink) : String :=
  s!"\x1b[38;5;{toString ink.code}m"

def reset : String := "\x1b[0m"

def paint (ink : Ink) (text : String) : String :=
  ink.start ++ text ++ reset

end Ink

structure Surroundings where
  noColor : Option String := none
  color : Option String := none
  terminal : Bool := false
  deriving DecidableEq, Repr

/-- A variable counts when it is exactly `1`; the one against colours wins. -/
def Surroundings.colours (surroundings : Surroundings) : Bool :=
  surroundings.noColor != some "1" && (surroundings.color == some "1" || surroundings.terminal)

def styleInks : List Ink :=
  [.header, .header, .literal, .context, .context]

def styles (surroundings : Surroundings) : List String :=
  styleInks.map fun ink => if surroundings.colours then ink.start else ""

end IssueQuery.Help
