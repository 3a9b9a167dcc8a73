import IssueQuery.Command.Help
import IssueQuery.Command.Run
import IssueQuery.Project.Saved
import IssueQuery.Time.Epoch
import Std.Time.DateTime.Timestamp

/-! The program. It loads the part of the disk that a command can reach into a tree, runs the command on it
and writes back what has changed. -/

namespace IssueQuery

def leadsToDirectory (path : String) : IO Bool := do
  try
    let _ ← IO.FS.realPath (Path.join path ".")
    return true
  catch _ => return false

def leadsSomewhere (path : String) : IO Bool := do
  try
    let _ ← IO.FS.realPath path
    return true
  catch _ => return false

def readEntry (path : String) : IO Entry := do
  try
    return Entry.ofContent (← IO.FS.readFile path)
  catch _ => return .text "\x00"

def loadLocation (tree : Tree) (location : Location) : IO Tree := do
  if ← leadsToDirectory location.path then return tree.put location .directory
  else if ← leadsSomewhere location.path then return tree.put location (← readEntry location.path)
  else return tree

def loadChain (tree : Tree) : Location → IO Tree
  | [] => return tree
  | name :: above => do loadLocation (← loadChain tree above) (name :: above)

def loadProject (tree : Tree) (location : Location) : IO Tree := do
  let mut tree ← loadChain tree location
  tree ← loadLocation tree (workName :: location)
  for name in [configName, databaseName, ignoreName] do
    tree ← loadLocation tree (name :: workName :: location)
  return tree

def loadProjects (tree : Tree) : Location → IO Tree
  | [] => loadProject tree []
  | name :: above => do loadProject (← loadProjects tree above) (name :: above)

def loadPath (tree : Tree) (here : Location) (path : String) : IO Tree := do
  let (base, pieces) := Tree.start here path
  let mut tree := tree
  let mut location := base
  for piece in pieces do
    unless Path.isIdle piece do
      location := if piece == ".." then location.tail else piece :: location
      tree ← loadLocation tree location
  return tree

def loadFor (invocation : Invocation) (here : Location) : IO Tree := do
  let mut tree ← loadProjects {} here
  let mut inside := here
  if let some path := invocation.directory then
    tree ← loadPath tree here path
    if let .ok location := tree.directory here path then
      inside := location
      tree ← loadProjects tree location
  if let .init (some path) := invocation.command then
    tree ← loadPath tree inside (Path.join path workName)
  if let .ok (_, path) := Project.settings tree inside then
    tree ← loadPath tree inside path
  return tree

def saveEntry (location : Location) (entry : Entry) : IO Unit :=
  match entry.content? with
  | none => IO.FS.createDirAll location.path
  | some content => IO.FS.writeFile location.path content

/-- Writes the entries that have changed, directories before what is in them. -/
def saveChanges (before after : Tree) : IO Unit := do
  let changed := after.entries.filter fun (location, entry) => before.lookup? location != some entry
  for (location, entry) in changed.mergeSort fun a b => decide (a.1.length ≤ b.1.length) do
    saveEntry location entry

def currentInstant : IO Instant := do
  let now ← Std.Time.Timestamp.now
  match Instant.ofEpoch? now.val.second.val now.val.nano.val.toNat with
  | some instant => return instant
  | none => throw (IO.userError "the clock shows no time that can be stored")

def surroundings : IO Help.Surroundings := do
  return ⟨← IO.getEnv "NO_COLOR", ← IO.getEnv "COLOR", ← (← IO.getStdout).isTty⟩

def runInvocation (invocation : Invocation) : IO UInt32 := do
  let here : Location := ((Path.pieces (toString (← IO.currentDir))).filter (!Path.isIdle ·)).reverse
  let directives := Log.Directives.given (← IO.getEnv "JQL_LOG")
  let tree ← loadFor invocation here
  let (outcome, after) := invocation.run directives here (← currentInstant) tree
  saveChanges tree after
  IO.print outcome.output
  IO.eprint outcome.errors
  return UInt32.ofNat outcome.exitCode

end IssueQuery

open IssueQuery

def main (arguments : List String) : IO UInt32 := do
  match Invocation.read arguments with
  | .ok invocation => runInvocation invocation
  | .error usage =>
    let message := usage.message (← surroundings)
    if usage.exitCode = 0 then IO.println message else IO.eprintln message
    return UInt32.ofNat usage.exitCode
