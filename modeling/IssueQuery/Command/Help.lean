import IssueQuery.Command.Usage
import IssueQuery.Help.Pages

/-! What is printed when a command line runs nothing. -/

namespace IssueQuery.Usage

def version : String := "jql 0.1.0"

def message (surroundings : Help.Surroundings) : Usage → String
  | showHelp => Help.quickstart surroundings
  | showVersion => version
  | nothingGiven => Help.quickstart surroundings
  | missingSubcommand => "error: a subcommand is required"
  | invalidSubcommand => "error: unrecognized subcommand"
  | unknownArgument => "error: unexpected argument"
  | missingArgument => "error: a required argument is missing"
  | argumentConflict => "error: an option is given more than once"
  | invalidValue => "error: an option has no value or a value it does not take"
  | unfitValue => "error: a value cannot be empty"
  | tooManyValues => "error: an option takes no value"

end IssueQuery.Usage
