import IssueQuery.Toml.Moment
import IssueQuery.Toml.Node
import IssueQuery.Toml.Number
import IssueQuery.Toml.Quoted

/-! Reading TOML documents. -/

namespace IssueQuery.Toml

open Text

def skipTrivia? (inComment : Bool) : List Char → Option (List Char)
  | [] => some []
  | '\n' :: rest => skipTrivia? false rest
  | '\r' :: '\n' :: rest => skipTrivia? false rest
  | c :: rest =>
    if inComment then (if isControl c then none else skipTrivia? true rest)
    else if isBlank c then skipTrivia? false rest
    else if c == '#' then skipTrivia? true rest
    else some (c :: rest)

def skipBlanks (text : List Char) : List Char :=
  text.dropWhile isBlank

def atLineEnd (text : List Char) : Bool :=
  let rest := skipBlanks text
  rest.isEmpty || rest.head? == some '#' || endsLine rest

def isBareKey (c : Char) : Bool :=
  c.isAlphanum || c == '_' || c == '-'

def keyPart? (text : List Char) : Option (String × List Char) :=
  match text with
  | '"' :: rest => (readBasic? rest).map fun (key, rest) => (String.ofList key, rest)
  | '\'' :: rest => (readLiteral? rest).map fun (key, rest) => (String.ofList key, rest)
  | _ =>
    let key := text.takeWhile isBareKey
    if key.isEmpty then none else some (String.ofList key, text.dropWhile isBareKey)

def key? : Nat → List Char → Option (List String × List Char)
  | 0, _ => none
  | fuel + 1, text => do
    let (part, rest) ← keyPart? (skipBlanks text)
    match skipBlanks rest with
    | '.' :: rest =>
      let (parts, rest) ← key? fuel rest
      return (part :: parts, rest)
    | rest => return ([part], rest)

def isScalarChar (c : Char) : Bool :=
  c.isAlphanum || c == '+' || c == '-' || c == '.' || c == ':' || c == '_'

/-- What is written without quotes or brackets. A date may have its time after one blank. -/
def scalarText (text : List Char) : List Char × List Char :=
  let first := text.takeWhile isScalarChar
  match afterDate? first, text.dropWhile isScalarChar with
  | some [], ' ' :: c :: rest =>
    if c.isDigit then
      (first ++ ' ' :: (c :: rest).takeWhile isScalarChar, (c :: rest).dropWhile isScalarChar)
    else (first, ' ' :: c :: rest)
  | _, rest => (first, rest)

def scalar? (written : List Char) : Option Node :=
  if written == ['t', 'r', 'u', 'e'] then some (.boolean true)
  else if written == ['f', 'a', 'l', 's', 'e'] then some (.boolean false)
  else
    match integer? written with
    | some n => some (.integer n)
    | none =>
      if isFloat written then some (.float (String.ofList written))
      else if isMoment written then some (.moment (String.ofList written))
      else none

mutual

def value? : Nat → List Char → Option (Node × List Char)
  | 0, _ => none
  | fuel + 1, text =>
    match text with
    | '[' :: rest => (items? fuel rest).map fun (items, rest) => (.array items, rest)
    | '\x7b' :: rest =>
      (members? fuel [] rest).map fun (members, rest) => (.table .inline members, rest)
    | '"' :: _ | '\'' :: _ =>
      (readQuoted? text).map fun (quoted, rest) => (.text (String.ofList quoted), rest)
    | _ =>
      let (written, rest) := scalarText text
      (scalar? written).map fun node => (node, rest)

def items? : Nat → List Char → Option (List Node × List Char)
  | 0, _ => none
  | fuel + 1, text => do
    match ← skipTrivia? false text with
    | ']' :: rest => return ([], rest)
    | text =>
      let (item, rest) ← value? fuel text
      match ← skipTrivia? false rest with
      | ']' :: rest => return ([item], rest)
      | ',' :: rest =>
        let (items, rest) ← items? fuel rest
        return (item :: items, rest)
      | _ => none

def members? : Nat → Entries → List Char → Option (Entries × List Char)
  | 0, _, _ => none
  | fuel + 1, members, text => do
    match ← skipTrivia? false text with
    | '\x7d' :: rest => return (members, rest)
    | text =>
      let (path, rest) ← key? text.length text
      let rest ← dropChar? '=' rest
      let (node, rest) ← value? fuel (skipBlanks rest)
      let members ← Entries.define? node path members
      match ← skipTrivia? false rest with
      | '\x7d' :: rest => return (members, rest)
      | ',' :: rest => members? fuel members rest
      | _ => none

end

def header? (text : List Char) : Option ((Entries.Header × List String) × List Char) :=
  match text with
  | '[' :: rest => do
    let (path, rest) ← key? text.length rest
    match rest with
    | ']' :: ']' :: rest => return ((.element, path), rest)
    | _ => none
  | _ => do
    let (path, rest) ← key? text.length text
    return ((.table, path), ← dropChar? ']' rest)

def binding? (text : List Char) : Option ((List String × Node) × List Char) := do
  let (path, rest) ← key? text.length text
  let rest ← dropChar? '=' rest
  let (node, rest) ← value? text.length (skipBlanks rest)
  return ((path, node), rest)

def readFrom? : Nat → List String → Entries → List Char → Option Entries
  | 0, _, _, _ => none
  | fuel + 1, place, entries, text => do
    match ← skipTrivia? false text with
    | [] => return entries
    | '[' :: rest =>
      let ((header, path), rest) ← header? rest
      if !atLineEnd rest then none
      readFrom? fuel path (← Entries.open? header path entries) rest
    | text =>
      let ((path, node), rest) ← binding? text
      if !atLineEnd rest then none
      readFrom? fuel place (← Entries.within? (Entries.define? node path) place entries) rest

def read? (text : String) : Option Entries :=
  let body := match text.toList with
    | '\uFEFF' :: body => body
    | body => body
  readFrom? (body.length + 1) [] [] body

end IssueQuery.Toml
