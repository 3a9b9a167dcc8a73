import IssueQuery.Log.Level
import IssueQuery.Text.CharClass

/-!
Log directives: which records are let through, by where they come from. A list of directives is kept with
the most specific first, and the first one that fits a record decides about it.
-/

namespace IssueQuery.Log

open Text

structure FieldMatch where
  name : String
  value : Option String
  deriving DecidableEq, Repr

structure Directive where
  target : Option String := none
  span : Option String := none
  field : Option FieldMatch := none
  threshold : Threshold := .upTo .trace
  deriving DecidableEq, Repr

namespace FieldMatch

def text (field : FieldMatch) : String :=
  field.name ++ field.value.elim "" ("=" ++ ·)

def ofText (text : List Char) : FieldMatch where
  name := String.ofList (text.takeWhile (· != '='))
  value :=
    match text.dropWhile (· != '=') with
    | [] => none
    | _ :: rest => some (String.ofList (rest.takeWhile (· != '=')))

end FieldMatch

namespace Directive

def startsName (c : Char) : Bool :=
  c == '-' || c == ':' || c == '_' || isAlphanumeric c

def withThreshold? (directive : Directive) (text : List Char) : Option Directive :=
  if text.isEmpty then some { directive with threshold := .upTo .trace }
  else (Threshold.ofText? text).map fun threshold => { directive with threshold }

def afterSpan? (directive : Directive) : List Char → Option Directive
  | [] => some directive
  | '=' :: rest => directive.withThreshold? rest
  | _ => none

def inSpan? (directive : Directive) (text : List Char) : Option Directive :=
  let name := text.takeWhile fun c => c != ']' && c != '\x7b'
  match text.dropWhile fun c => c != ']' && c != '\x7b' with
  | ']' :: rest => { directive with span := some (String.ofList name) }.afterSpan? rest
  | '\x7b' :: rest =>
    let field := rest.takeWhile (· != '\x7d')
    match rest.dropWhile (· != '\x7d') with
    | '\x7d' :: ']' :: rest =>
      if field.isEmpty then none
      else
        { directive with
          span := if name.isEmpty then none else some (String.ofList name)
          field := some (FieldMatch.ofText field) }.afterSpan? rest
    | _ => none
  | _ => none

def ofWord (word : List Char) : Directive :=
  match Threshold.ofText? word with
  | some threshold => { threshold }
  | none => { target := some (String.ofList word) }

def ofText? (text : List Char) : Option Directive :=
  match trimStart text with
  | [] => none
  | '[' :: rest => if text.head? == some '[' then inSpan? {} rest else none
  | first :: _ =>
    if !startsName first then none
    else
      let word := text.takeWhile fun c => c != '=' && c != '['
      match text.dropWhile fun c => c != '=' && c != '[' with
      | [] => some (ofWord word)
      | next :: rest =>
        if text.head? != some first then none
        else if next == '=' then { target := some (String.ofList word) : Directive }.withThreshold? rest
        else inSpan? { target := some (String.ofList word) } rest

def isDynamic (directive : Directive) : Bool :=
  directive.span.isSome || directive.field.isSome

def isStatic (directive : Directive) : Bool :=
  directive.span.isNone && directive.field.all fun field => field.value.isNone

def scopeText (directive : Directive) : String :=
  if directive.isDynamic then
    "[" ++ directive.span.getD "" ++
      directive.field.elim "" (fun field => "\x7b" ++ field.text ++ "\x7d") ++ "]"
  else ""

def text (directive : Directive) : String :=
  let scope := directive.target.getD "" ++ directive.scopeText
  (if directive.target.isNone && !directive.isDynamic then "" else scope ++ "=") ++
    directive.threshold.text

def sizeKey (text : Option String) : Nat :=
  text.elim 0 fun text => text.utf8ByteSize + 1

/-- How specific a directive is: by the length of its target, then by having a span, a field and a value;
last by its texts. -/
def specificity : Directive → Directive → Ordering :=
  compareLex (compareOn fun d => sizeKey d.target) <|
  compareLex (compareOn fun d => d.span.isSome) <|
  compareLex (compareOn fun d => d.field.isSome) <|
  compareLex (compareOn fun d => d.field.any fun field => field.value.isSome) <|
  compareLex (compareOn fun d => d.target.getD "") <|
  compareLex (compareOn fun d => d.span.getD "") <|
  compareOn fun d => d.field.elim "" FieldMatch.text

/-- Puts a directive in its place, the most specific first. One for the same scope is replaced. -/
def insert (directive : Directive) : List Directive → List Directive
  | [] => [directive]
  | other :: rest =>
    match specificity directive other with
    | .gt => directive :: other :: rest
    | .eq => directive :: rest
    | .lt => other :: insert directive rest

def sorted (directives : List Directive) : List Directive :=
  directives.foldl (fun kept directive => directive.insert kept) []

end Directive

structure Directives where
  records : List Directive
  spans : List Directive
  deriving DecidableEq, Repr

namespace Directives

/-- With no directive at all nothing is let through. -/
def ofList (directives : List Directive) : Directives :=
  let records := directives.filter Directive.isStatic
  let spans := directives.filter Directive.isDynamic
  if records.isEmpty && spans.isEmpty then ⟨[{ threshold := .off }], []⟩
  else ⟨Directive.sorted records, Directive.sorted spans⟩

def pieces (text : List Char) : List (List Char) :=
  (text.splitOn ',').filter fun piece => !piece.isEmpty

def read? (text : String) : Option Directives :=
  ((pieces text.toList).mapM Directive.ofText?).map ofList

def byDefault : Directives :=
  .ofList [{ threshold := .upTo .warn }]

def given (text : Option String) : Directives :=
  ((text.bind read?).getD byDefault)

def text (directives : Directives) : String :=
  ",".intercalate ((directives.records ++ directives.spans).map Directive.text)

end Directives

end IssueQuery.Log
