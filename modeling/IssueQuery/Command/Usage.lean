import IssueQuery.Command.New
import IssueQuery.Command.Query

/-! What the command line offers: commands, their settings and their operands. -/

namespace IssueQuery

inductive Usage where
  | showHelp | showVersion | nothingGiven | missingSubcommand | invalidSubcommand | unknownArgument
  | missingArgument | argumentConflict | invalidValue | unfitValue | tooManyValues
  deriving DecidableEq, Repr

def Usage.exitCode : Usage → Nat
  | showHelp | showVersion => 0
  | _ => 2

inductive Verb where
  | init | new | query | explain | completion
  deriving DecidableEq, Repr

namespace Verb

def name : Verb → String
  | init => "init"
  | new => "new"
  | query => "query"
  | explain => "explain"
  | completion => "completion"

def all : List Verb := [init, new, query, explain, completion]

def ofName? (name : String) : Option Verb :=
  all.find? fun verb => verb.name == name

end Verb

inductive Shell where
  | bash | elvish | fish | powershell | zsh
  deriving DecidableEq, Repr

namespace Shell

def name : Shell → String
  | bash => "bash"
  | elvish => "elvish"
  | fish => "fish"
  | powershell => "powershell"
  | zsh => "zsh"

def ofName? (name : String) : Option Shell :=
  [bash, elvish, fish, powershell, zsh].find? fun shell => shell.name == name

end Shell

namespace OutputFormat

def name : OutputFormat → String
  | text => "text"
  | json => "json"

def ofName? (name : String) : Option OutputFormat :=
  [text, json].find? fun output => output.name == name

end OutputFormat

inductive Setting where
  | directory | path | description | status | priority | assignee | resolved | output
  deriving DecidableEq, Repr

namespace Setting

def long : Setting → String
  | directory => "directory"
  | path => "path"
  | description => "description"
  | status => "status"
  | priority => "priority"
  | assignee => "assignee"
  | resolved => "resolved"
  | output => "output"

def short? : Setting → Option Char
  | directory => some 'C'
  | description => some 'd'
  | status => some 's'
  | priority => some 'p'
  | assignee => some 'a'
  | output => some 'o'
  | path | resolved => none

def accepts (setting : Setting) (value : String) : Bool :=
  match setting with
  | output => (OutputFormat.ofName? value).isSome
  | _ => true

end Setting

inductive Operand where
  | title | query | shell
  deriving DecidableEq, Repr

def Operand.refusal? (operand : Operand) (value : String) : Option Usage :=
  match operand with
  | title => if Text.blank value.toList then some .unfitValue else none
  | query => none
  | shell => if (Shell.ofName? value).isSome then none else some .invalidValue

structure Form where
  settings : List Setting
  operand : Option Operand
  isOutermost : Bool := false
  deriving DecidableEq, Repr

def Form.outermost : Form :=
  ⟨[.directory], none, true⟩

def Verb.form : Verb → Form
  | init => ⟨[.path, .directory], none, false⟩
  | new => ⟨[.description, .status, .priority, .assignee, .resolved, .directory], some .title, false⟩
  | query => ⟨[.output, .directory], some .query, false⟩
  | explain => ⟨[.output, .directory], some .query, false⟩
  | completion => ⟨[.directory], some .shell, false⟩

inductive Command where
  | init (path : Option String)
  | new (draft : Draft)
  | query (text : String) (output : OutputFormat)
  | explain (text : String) (output : OutputFormat)
  | completion (shell : Shell)
  deriving DecidableEq, Repr

structure Invocation where
  directory : Option String
  command : Command
  deriving DecidableEq, Repr

end IssueQuery
