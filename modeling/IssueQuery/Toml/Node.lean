/-!
TOML documents as trees, and how they grow line by line. A table remembers how it came about, because that
decides what may still be added to it: nothing to one written in braces, no dotted key to one that a header
has opened, and no second header to one that has been opened before.
-/

namespace IssueQuery.Toml

inductive Origin where
  | inline | dotted | implied | header
  deriving DecidableEq, Repr

/-- What stands for a key. Floats, dates and times keep their spelling. -/
inductive Node where
  | text (text : String)
  | integer (n : Int)
  | float (written : String)
  | boolean (value : Bool)
  | moment (written : String)
  | array (items : List Node)
  | table (origin : Origin) (entries : List (String × Node))
  | tables (elements : List (List (String × Node)))

abbrev Entries := List (String × Node)

namespace Entries

def replace (key : String) (node : Node) (entries : Entries) : Entries :=
  entries.map fun entry => if entry.1 == key then (key, node) else entry

def define? (value : Node) : List String → Entries → Option Entries
  | [], _ => none
  | [key], entries =>
    if (entries.lookup key).isSome then none else some (entries ++ [(key, value)])
  | key :: next :: rest, entries =>
    match entries.lookup key with
    | none => do
      let inner ← define? value (next :: rest) []
      return entries ++ [(key, .table .dotted inner)]
    | some (.table .dotted inner) => do
      return replace key (.table .dotted (← define? value (next :: rest) inner)) entries
    | some (.table .implied inner) => do
      if rest.isEmpty then none
      return replace key (.table .implied (← define? value (next :: rest) inner)) entries
    | some (.tables elements) => do
      if rest.isEmpty then none
      let last ← elements.getLast?
      return replace key (.tables (elements.dropLast ++ [← define? value (next :: rest) last])) entries
    | some _ => none

inductive Header where
  | table | element
  deriving DecidableEq, Repr

/-- Opens the table of a header. Tables on the way are made where they are missing. -/
def open? (header : Header) : List String → Entries → Option Entries
  | [], _ => none
  | [key], entries =>
    match header, entries.lookup key with
    | .table, none => some (entries ++ [(key, .table .header [])])
    | .table, some (.table .implied inner) => some (replace key (.table .header inner) entries)
    | .element, none => some (entries ++ [(key, .tables [[]])])
    | .element, some (.tables elements) => some (replace key (.tables (elements ++ [[]])) entries)
    | _, _ => none
  | key :: next :: rest, entries =>
    match entries.lookup key with
    | none => do
      let inner ← open? header (next :: rest) []
      return entries ++ [(key, .table .implied inner)]
    | some (.table .inline _) => none
    | some (.table origin inner) => do
      return replace key (.table origin (← open? header (next :: rest) inner)) entries
    | some (.tables elements) => do
      let last ← elements.getLast?
      return replace key (.tables (elements.dropLast ++ [← open? header (next :: rest) last])) entries
    | some _ => none

def within? (change : Entries → Option Entries) : List String → Entries → Option Entries
  | [], entries => change entries
  | key :: rest, entries =>
    match entries.lookup key with
    | some (.table origin inner) => do
      return replace key (.table origin (← within? change rest inner)) entries
    | some (.tables elements) => do
      let last ← elements.getLast?
      return replace key (.tables (elements.dropLast ++ [← within? change rest last])) entries
    | _ => none

end Entries

end IssueQuery.Toml
