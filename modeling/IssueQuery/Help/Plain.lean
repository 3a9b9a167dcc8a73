import IssueQuery.Help.Block

/-! What is left of coloured text when the colours are taken out. A colour is switched by an escape character,
an opening bracket and whatever stands before the next `m`. -/

namespace IssueQuery.Help

def plain (text : List Char) : List Char :=
  match text with
  | [] => []
  | '\x1b' :: '[' :: rest => plain ((rest.dropWhile (· != 'm')).drop 1)
  | c :: rest => c :: plain rest
termination_by text.length
decreasing_by
  · have := length_dropWhile_le (· != 'm') rest
    simp only [List.length_drop, List.length_cons]
    omega
  · simp

end IssueQuery.Help
