import IssueQuery.Command.Error
import IssueQuery.Project.Tree

/-!
Projects: directories that hold a work directory with a configuration. A command belongs to the nearest
project around the directory in which it runs.
-/

namespace IssueQuery

namespace Tree

def workDirectory? (tree : Tree) : Location → Option Location
  | [] => if tree.isDirectory [workName] then some [workName] else none
  | name :: above =>
    if tree.isDirectory (workName :: name :: above) then some (workName :: name :: above)
    else workDirectory? tree above

def workDirectory (tree : Tree) (here : Location) : Except CommandError Location :=
  match tree.workDirectory? here with
  | some work => .ok work
  | none => .error .notInitialized

def readConfig (tree : Tree) (here : Location) (work : String) : Except CommandError Config :=
  match tree.readText here (Path.join work configName) with
  | .error reason => .error (.config s!"failed to read config: {reason.message}")
  | .ok content =>
    match Config.read? content with
    | none => .error (.config "failed to parse config")
    | some config => .ok config

end Tree

def FileError.inStore (reason : FileError) : CommandError :=
  .failure (.io reason.message)

def FileError.inCommand (reason : FileError) : CommandError :=
  .io reason.message

def cannotOpen (path : String) : CommandError :=
  .failure (.database s!"unable to open database file: {path}")

structure Database where
  location : Location
  store : Store
  deriving DecidableEq, Repr

namespace Database

def makeParent (here : Location) (path : String) : TreeAction CommandError Unit := do
  match Path.parent? path with
  | none => pure ()
  | some parent =>
    unless parent.isEmpty || (← get).leadsSomewhere here parent do
      (TreeAction.makeDirectories here parent).mapError FileError.inStore

def save (database : Database) : TreeAction CommandError Unit :=
  modify fun tree => tree.put database.location (.database database.store)

/-- Opens the database at a path, an empty one where there is none. An empty file is an empty database. -/
def openAt (here : Location) (path : String) : TreeAction CommandError Database := do
  makeParent here path
  let location ← TreeAction.of fun tree => (tree.target here path).mapError fun _ => cannotOpen path
  match (← get).lookup? location with
  | some (.database store) => return ⟨location, store⟩
  | some (.text content) =>
    unless content.isEmpty do throw (.failure (.database "file is not a database"))
  | _ => pure ()
  let database : Database := ⟨location, .empty⟩
  database.save
  return database

end Database

namespace Project

def settings (tree : Tree) (here : Location) : Except CommandError (Config × String) := do
  let work ← tree.workDirectory here
  let config ← tree.readConfig here work.path
  return (config, config.databasePath work.path)

def openFrom (here : Location) : TreeAction CommandError (Config × Database) := do
  let (config, path) ← TreeAction.of fun tree => settings tree here
  return (config, ← Database.openAt here path)

def ignoreText : String :=
  "# Database\nissues.db\nissues.db-wal\nissues.db-shm\n"

def init (here : Location) (path : String) : TreeAction CommandError String := do
  let work := Path.join path workName
  if (← get).leadsSomewhere here work then throw (.alreadyInitialized work)
  (TreeAction.makeDirectories here work).mapError FileError.inCommand
  (TreeAction.writeText here (Path.join work configName) Config.initial.written).mapError
    FileError.inCommand
  let config ← TreeAction.of fun tree => tree.readConfig here work
  let _ ← Database.openAt here (config.databasePath work)
  (TreeAction.writeText here (Path.join work ignoreName) ignoreText).mapError FileError.inCommand
  return work

end Project

end IssueQuery
