/-! What an engine says of a statement that it does not carry out. -/

namespace IssueQuery

inductive SqlError where
  | syntaxError (near : String) (offset : Nat)
  | unrecognizedToken (text : String) (offset : Nat)
  | incompleteInput
  | noSuchColumn (column : String) (offset : Nat)
  | interrupted
  | failed (reason : String)
  deriving DecidableEq, Repr

def SqlError.message (sql : String) : SqlError → String
  | syntaxError near offset => s!"near \"{near}\": syntax error in {sql} at offset {toString offset}"
  | unrecognizedToken text offset =>
    s!"unrecognized token: \"{text}\" in {sql} at offset {toString offset}"
  | incompleteInput => s!"incomplete input in {sql}"
  | noSuchColumn column offset => s!"no such column: {column} in {sql} at offset {toString offset}"
  | interrupted => "interrupted"
  | failed reason => reason

end IssueQuery
