import IssueQuery.Command.Usage

/-!
Reading command lines. A value is checked when the next option or operand is understood or when the line
ends, so an argument that is not understood at all is reported before a bad value in front of it. What is
wrong after the name of a command is reported before what is wrong in front of it.
-/

namespace IssueQuery

inductive Pending where
  | awaiting (setting : Setting)
  | setting (setting : Setting) (value : String)
  | operand (operand : Operand) (value : String)
  deriving DecidableEq, Repr

structure Reading where
  given : List (Setting × String) := []
  operand : Option String := none
  /-- An operand has been read, checked or not. -/
  hasOperand : Bool := false
  pending : Option Pending := none
  deriving DecidableEq, Repr

namespace Reading

def accept (reading : Reading) (setting : Setting) (value : String) : Except Usage Reading :=
  if reading.given.any fun other => other.1 == setting then .error .argumentConflict
  else if !setting.accepts value then .error .invalidValue
  else .ok { reading with given := reading.given ++ [(setting, value)] }

def settle (reading : Reading) : Except Usage Reading :=
  let settled := { reading with pending := none }
  match reading.pending with
  | none => .ok settled
  | some (.awaiting _) => .error .invalidValue
  | some (.setting setting value) => settled.accept setting value
  | some (.operand operand value) =>
    match operand.refusal? value with
    | some refusal => .error refusal
    | none => .ok { settled with operand := some value }

def isAwaiting (reading : Reading) : Bool :=
  match reading.pending with
  | some (.awaiting _) => true
  | _ => false

def endWith (reading : Reading) (usage : Usage) : Except Usage Reading := do
  let _ ← reading.settle
  throw usage

def take (reading : Reading) (setting : Setting) (value : Option String) : Except Usage Reading := do
  let settled ← reading.settle
  match value with
  | some value => settled.accept setting value
  | none => return { settled with pending := some (.awaiting setting) }

def takeLong (form : Form) (reading : Reading) (name : String) (value : Option String) :
    Except Usage Reading :=
  let shown := if name == "help" then some Usage.showHelp
    else if form.isOutermost && name == "version" then some Usage.showVersion
    else none
  match shown, form.settings.find? fun setting => setting.long == name with
  | some usage, _ => if value.isSome then .error .tooManyValues else reading.endWith usage
  | none, some setting => reading.take setting value
  | none, none => .error .unknownArgument

/-- An option by its letter. What follows the letter is its value, with or without an equals sign. -/
def takeShort (form : Form) (reading : Reading) (letter : Char) (rest : List Char) :
    Except Usage Reading :=
  if letter == 'h' then reading.endWith .showHelp
  else if form.isOutermost && letter == 'V' then reading.endWith .showVersion
  else
    match form.settings.find? fun setting => setting.short? == some letter with
    | none => .error .unknownArgument
    | some setting =>
      reading.take setting <|
        match rest with
        | [] => none
        | '=' :: value => some (String.ofList value)
        | value => some (String.ofList value)

def takeOperand (form : Form) (reading : Reading) (literally : Bool) (word : String) :
    Except Usage Reading :=
  match form.operand with
  | some operand =>
    if reading.hasOperand then .error .unknownArgument
    else do
      let settled ← reading.settle
      return { settled with hasOperand := true, pending := some (.operand operand word) }
  | none =>
    if form.isOutermost && !(literally && (word == "help" || (Verb.ofName? word).isSome)) then
      .error .invalidSubcommand
    else .error .unknownArgument

def takeArgument (form : Form) (reading : Reading) (argument : String) : Except Usage Reading :=
  match argument.toList with
  | '-' :: '-' :: name =>
    reading.takeLong form (String.ofList (name.takeWhile (· != '='))) <|
      match name.dropWhile (· != '=') with
      | [] => none
      | _ :: value => some (String.ofList value)
  | '-' :: letter :: rest => reading.takeShort form letter rest
  | _ =>
    match reading.pending with
    | some (.awaiting setting) => .ok { reading with pending := some (.setting setting argument) }
    | _ => reading.takeOperand form false argument

def takeLiterally (form : Form) (reading : Reading) : List String → Except Usage Reading
  | [] => reading.settle
  | word :: rest => do takeLiterally form (← reading.takeOperand form true word) rest

end Reading

def Form.read (form : Form) (reading : Reading) : List String → Except Usage Reading
  | [] => reading.settle
  | "--" :: rest => reading.takeLiterally form rest
  | argument :: rest => do form.read (← reading.takeArgument form argument) rest

namespace Command

def output (reading : Reading) : OutputFormat :=
  ((reading.given.lookup .output).bind OutputFormat.ofName?).getD .text

def ofReading (reading : Reading) : Verb → Except Usage Command
  | .init => .ok (.init (reading.given.lookup .path))
  | .new =>
    match reading.operand with
    | none => .error .missingArgument
    | some title =>
      .ok (.new {
        title := title
        description := reading.given.lookup .description
        status := (reading.given.lookup .status).getD Issue.defaultStatus
        priority := (reading.given.lookup .priority).getD Issue.defaultPriority
        assignee := reading.given.lookup .assignee
        resolved := reading.given.lookup .resolved })
  | .query =>
    match reading.operand with
    | none => .error .missingArgument
    | some text => .ok (.query text (output reading))
  | .explain =>
    match reading.operand with
    | none => .error .missingArgument
    | some text => .ok (.explain text (output reading))
  | .completion =>
    match reading.operand.bind Shell.ofName? with
    | none => .error .missingArgument
    | some shell => .ok (.completion shell)

end Command

def helpOutcome : List String → Usage
  | [] => .showHelp
  | [name] => if name == "help" || (Verb.ofName? name).isSome then .showHelp else .invalidSubcommand
  | _ => .invalidSubcommand

def withoutCommand (outer : Reading) : Except Usage Invocation :=
  if outer.given.isEmpty then .error .nothingGiven else .error .missingSubcommand

/-- A command and its arguments, after what stood in front of it. The directory that is given last counts. -/
def Verb.invocation (verb : Verb) (outer : Reading) (arguments : List String) :
    Except Usage Invocation := do
  let inner ← verb.form.read {} arguments
  let command ← Command.ofReading inner verb
  let outer ← outer.settle
  return ⟨inner.given.lookup .directory <|> outer.given.lookup .directory, command⟩

namespace Invocation

def readFrom (outer : Reading) : List String → Except Usage Invocation
  | [] => do withoutCommand (← outer.settle)
  | argument :: rest =>
    match if outer.isAwaiting then none else Verb.ofName? argument with
    | some verb => verb.invocation outer rest
    | none =>
      if !outer.isAwaiting && argument == "help" then .error (helpOutcome rest)
      else if argument == "--" then do
        withoutCommand (← outer.takeLiterally .outermost rest)
      else do readFrom (← outer.takeArgument .outermost argument) rest

def read (arguments : List String) : Except Usage Invocation :=
  readFrom {} arguments

end Invocation

end IssueQuery
