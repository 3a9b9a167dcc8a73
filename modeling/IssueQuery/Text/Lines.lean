/-! Lines of a text. -/

namespace IssueQuery.Text

/-- The lines of a text. A line ends at a newline or at a carriage return before one; a last newline starts
no line of its own. -/
def lines : List Char → List (List Char)
  | [] => []
  | '\n' :: rest => [] :: lines rest
  | '\r' :: '\n' :: rest => [] :: lines rest
  | c :: rest =>
    match lines rest with
    | [] => [[c]]
    | line :: more => (c :: line) :: more

end IssueQuery.Text
