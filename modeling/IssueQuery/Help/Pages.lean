import IssueQuery.Help.Block

/-! The pages that follow generated help. -/

namespace IssueQuery.Help

def quickstartText : String :=
  "Get started:\n" ++
  "  jql init                              Create .jql/ and the database\n" ++
  "  jql new \"Fix login\" -p high           Add an issue\n" ++
  "  jql query 'status = \"open\"'           Find open issues\n" ++
  "  jql explain 'priority IN (high, low)'  Show the compiled SQL"

def querySyntaxText : String :=
  "Examples:\n" ++
  "  jql query 'status = \"open\"'                           Open issues\n" ++
  "  jql query 'status = \"open\" AND priority = \"high\"'     Both must match\n" ++
  "  jql query '(status = \"open\" OR status = \"closed\") AND assignee = \"bob\"'  Grouping\n" ++
  "  jql query 'priority IN (\"high\", \"medium\")'            Membership\n" ++
  "  jql query 'resolved IS NULL ORDER BY created_at DESC'  Unresolved, newest first\n" ++
  "  jql query 'title CONTAINS \"%crash%\"'                  SQL LIKE pattern\n" ++
  "  jql query 'NOT assignee = \"bob\"' -o json              JSON envelope\n" ++
  "\n" ++
  "Operators:\n" ++
  "  =  !=  >  <  >=  <=   compare with a value\n" ++
  "  IN (a, b)             membership in a list\n" ++
  "  CONTAINS              LIKE pattern, include % yourself\n" ++
  "  IS, IS NOT            NULL, TRUE or FALSE\n" ++
  "\n" ++
  "Logical keywords:\n" ++
  "  AND  OR  NOT          apply to every following condition at the same level"

def quickstart (surroundings : Surroundings) : String :=
  block surroundings quickstartText

def querySyntax (surroundings : Surroundings) : String :=
  block surroundings querySyntaxText

end IssueQuery.Help
