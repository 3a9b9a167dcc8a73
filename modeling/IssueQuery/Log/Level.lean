import IssueQuery.Text.Digits

/-! Levels of log records and how much of them is let through. -/

namespace IssueQuery.Log

open Text

inductive Level where
  | error | warn | info | debug | trace
  deriving DecidableEq, Repr

def Level.rank : Level → Nat
  | error => 1
  | warn => 2
  | info => 3
  | debug => 4
  | trace => 5

def Level.name : Level → String
  | error => "ERROR"
  | warn => "WARN"
  | info => "INFO"
  | debug => "DEBUG"
  | trace => "TRACE"

inductive Threshold where
  | off
  | upTo (level : Level)
  deriving DecidableEq, Repr

namespace Threshold

def admits (threshold : Threshold) (level : Level) : Bool :=
  match threshold with
  | off => false
  | upTo most => level.rank ≤ most.rank

def text : Threshold → String
  | off => "off"
  | upTo .error => "error"
  | upTo .warn => "warn"
  | upTo .info => "info"
  | upTo .debug => "debug"
  | upTo .trace => "trace"

def all : List Threshold :=
  [off, upTo .error, upTo .warn, upTo .info, upTo .debug, upTo .trace]

def ofNumber? (text : List Char) : Option Threshold :=
  let digits := match text with
    | '+' :: digits => digits
    | digits => digits
  if digits.isEmpty || !digits.all Char.isDigit then none
  else all[digitsValue digits]?

def ofText? (text : List Char) : Option Threshold :=
  match ofNumber? text with
  | some threshold => some threshold
  | none =>
    if text.isEmpty then some (upTo .error)
    else all.find? fun threshold => threshold.text.toList == text.map Char.toLower

end Threshold

end IssueQuery.Log
