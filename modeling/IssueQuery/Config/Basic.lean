import IssueQuery.Toml.Reader

/-! The configuration of a project: where its database lies and how long a query may run. -/

namespace IssueQuery

structure Config where
  database : Option String := none
  timeout : Option Nat := none
  deriving DecidableEq, Repr

namespace Config

def initial : Config where
  timeout := some 5000

def timeLimit (config : Config) : Option Nat :=
  config.timeout.filter (· != 0)

def databaseKey : String := "database"

def timeoutKey : String := "query_timeout_ms"

def ofEntries? (entries : Toml.Entries) : Option Config := do
  let database ← match entries.lookup databaseKey with
    | none => pure none
    | some (.text path) => pure (some path)
    | some _ => none
  let timeout ← match entries.lookup timeoutKey with
    | none => pure none
    | some (.integer n) => if 0 ≤ n ∧ n.toNat < Nat.pow 2 64 then pure (some n.toNat) else none
    | some _ => none
  return { database, timeout }

def read? (text : String) : Option Config := do
  ofEntries? (← Toml.read? text)

def written (config : Config) : String :=
  String.ofList <|
    config.database.elim [] (fun path =>
      databaseKey.toList ++ " = ".toList ++ Toml.written path.toList ++ ['\n']) ++
    config.timeout.elim [] (fun limit =>
      timeoutKey.toList ++ " = ".toList ++ Nat.toDigits 10 limit ++ ['\n'])

end Config

end IssueQuery
