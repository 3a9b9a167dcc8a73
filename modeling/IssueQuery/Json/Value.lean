/-! JSON values. Objects keep the order of their members, and numbers keep their spelling. -/

namespace IssueQuery.Json

inductive Value where
  | null
  | bool (value : Bool)
  | number (literal : String)
  | string (text : String)
  | array (items : List Value)
  | object (members : List (String × Value))
  /-- Well-formed JSON in which some string is no text, because half of a surrogate pair stands alone. -/
  | garbled
  deriving Repr

def Value.int (n : Int) : Value := .number (toString n)

def Value.texts (items : List String) : Value := .array (items.map .string)

end IssueQuery.Json
