import IssueQuery.Config.Basic

/-! Paths as text. Joining and taking the parent leave the spelling as it is; what a path leads to is not
asked here. -/

namespace IssueQuery.Path

def isAbsolute (path : String) : Bool :=
  path.toList.head? == some '/'

/-- A path below another one. An absolute path stands for itself. -/
def join (base path : String) : String :=
  if isAbsolute path || base.isEmpty then path
  else if base.toList.getLast? == some '/' then base ++ path
  else base ++ "/" ++ path

def pieces (path : String) : List String :=
  (path.toList.splitOn '/').map String.ofList

def isIdle (piece : String) : Bool :=
  piece == "" || piece == "."

def dropIdleEnd (pieces : List String) : List String :=
  (pieces.reverse.dropWhile isIdle).reverse

def split (path : String) : List String × List String :=
  match pieces path with
  | "" :: rest => ([""], rest)
  | "." :: rest => (["."], rest)
  | rest => ([], rest)

def parent? (path : String) : Option String :=
  let (lead, rest) := split path
  match dropIdleEnd rest with
  | [] => if lead == ["."] then some "" else none
  | names =>
    match lead, dropIdleEnd names.dropLast with
    | [""], [] => some "/"
    | _, outer => some ("/".intercalate (lead ++ outer))

end IssueQuery.Path

namespace IssueQuery

def workName : String := ".jql"

def configName : String := "config.toml"

def databaseName : String := "issues.db"

def ignoreName : String := ".gitignore"

/-- Where the database of a work directory lies: beside the configuration, or where the configuration says,
as seen from the project. -/
def Config.databasePath (config : Config) (work : String) : String :=
  match config.database with
  | none => Path.join work databaseName
  | some path => Path.join ((Path.parent? work).getD work) path

end IssueQuery
