import IssueQuery.Project.Path
import IssueQuery.Store.Basic

/-!
Trees of directories and files, as far as projects need them. A file holds text or a database. A location
is the list of names that leads to it from the root, the innermost first, so that the directories above it
are its tails.
-/

namespace IssueQuery

abbrev Location := List String

inductive Entry where
  | directory
  | text (content : String)
  | database (store : Store)
  deriving DecidableEq, Repr

inductive FileError where
  | notFound | alreadyThere | notDirectory | isDirectory | notText
  deriving DecidableEq, Repr

def FileError.message : FileError → String
  | notFound => "No such file or directory (os error 2)"
  | alreadyThere => "File exists (os error 17)"
  | notDirectory => "Not a directory (os error 20)"
  | isDirectory => "Is a directory (os error 21)"
  | notText => "stream did not contain valid UTF-8"

/-- The root is always there. -/
structure Tree where
  entries : List (Location × Entry) := []
  deriving DecidableEq, Repr

namespace Tree

def lookup? (tree : Tree) : Location → Option Entry
  | [] => some .directory
  | location => tree.entries.lookup location

def put (tree : Tree) (location : Location) (entry : Entry) : Tree :=
  ⟨(location, entry) :: tree.entries.filter fun other => other.1 != location⟩

def isDirectory (tree : Tree) (location : Location) : Bool :=
  tree.lookup? location == some .directory

def has (tree : Tree) (location : Location) : Bool :=
  (tree.lookup? location).isSome

def names (tree : Tree) (location : Location) : List String :=
  let inside := tree.entries.filterMap fun other =>
    match other.1 with
    | name :: above => if above == location then some name else none
    | [] => none
  inside.mergeSort fun a b => decide (a ≤ b)

/-- Follows the pieces of a path. Everything but the last piece must lead to a directory. -/
def walk (tree : Tree) : Location → List String → Except FileError Location
  | here, [] => .ok here
  | here, piece :: rest =>
    match tree.lookup? here with
    | none => .error .notFound
    | some .directory =>
      if Path.isIdle piece then walk tree here rest
      else if piece == ".." then walk tree here.tail rest
      else walk tree (piece :: here) rest
    | some _ => .error .notDirectory

def start (here : Location) (path : String) : Location × List String :=
  match Path.pieces path with
  | "" :: rest => ([], rest)
  | rest => (here, rest)

/-- The location that a path leads to, seen from `here`. The empty path leads nowhere. -/
def resolve (tree : Tree) (here : Location) (path : String) : Except FileError Location :=
  if path.isEmpty then .error .notFound
  else
    let (base, pieces) := start here path
    walk tree base pieces

def find (tree : Tree) (here : Location) (path : String) : Except FileError (Location × Entry) := do
  let location ← tree.resolve here path
  match tree.lookup? location with
  | none => .error .notFound
  | some entry => .ok (location, entry)

def leadsSomewhere (tree : Tree) (here : Location) (path : String) : Bool :=
  (tree.find here path).isOk

def directory (tree : Tree) (here : Location) (path : String) : Except FileError Location := do
  match ← tree.find here path with
  | (location, .directory) => .ok location
  | _ => .error .notDirectory

def readText (tree : Tree) (here : Location) (path : String) : Except FileError String := do
  match ← tree.find here path with
  | (_, .text content) => .ok content
  | (_, .directory) => .error .isDirectory
  | (_, .database _) => .error .notText

def target (tree : Tree) (here : Location) (path : String) : Except FileError Location := do
  let location ← tree.resolve here path
  match tree.lookup? location with
  | some .directory => .error .isDirectory
  | some _ => .ok location
  | none =>
    match tree.lookup? location.tail with
    | some .directory => .ok location
    | some _ => .error .notDirectory
    | none => .error .notFound

def writeText (tree : Tree) (here : Location) (path content : String) : Except FileError Tree := do
  return tree.put (← tree.target here path) (.text content)

def makeDirectory (tree : Tree) (base : Location) (pieces : List String) : Except FileError Tree := do
  let location ← tree.walk base pieces
  if tree.has location then throw .alreadyThere
  match tree.lookup? location.tail with
  | some .directory => return tree.put location .directory
  | some _ => throw .notDirectory
  | none => throw .notFound

def leadsToDirectory (tree : Tree) (base : Location) (pieces : List String) : Bool :=
  match tree.walk base pieces with
  | .ok location => tree.isDirectory location
  | .error _ => false

end Tree

/-- Something done to a tree. What was done before a failure stays done. -/
abbrev TreeAction (ε : Type) := ExceptT ε (StateM Tree)

namespace TreeAction

variable {ε ε' α : Type}

def of (result : Tree → Except ε α) : TreeAction ε α := do
  match result (← get) with
  | .ok value => return value
  | .error reason => throw reason

def change (result : Tree → Except ε Tree) : TreeAction ε Unit := do
  set (← of result)

def mapError (f : ε → ε') (action : TreeAction ε α) : TreeAction ε' α :=
  fun tree => let (result, after) := action tree; (result.mapError f, after)

/-- Makes a directory and those above it that are missing. The pieces come with the innermost first. -/
def makeAll (base : Location) : List String → TreeAction FileError Unit
  | [] => pure ()
  | piece :: above => do
    let pieces := (piece :: above).reverse
    match (← get).makeDirectory base pieces with
    | .ok made => set made
    | .error .notFound =>
      makeAll base above
      match (← get).makeDirectory base pieces with
      | .ok made => set made
      | .error reason => unless (← get).leadsToDirectory base pieces do throw reason
    | .error reason => unless (← get).leadsToDirectory base pieces do throw reason

def makeDirectories (here : Location) (path : String) : TreeAction FileError Unit :=
  let (base, pieces) := Tree.start here path
  makeAll base (pieces.filter fun piece => !Path.isIdle piece).reverse

def writeText (here : Location) (path content : String) : TreeAction FileError Unit :=
  change fun tree => tree.writeText here path content

end TreeAction

def Location.path : Location → String
  | [] => "/"
  | location => String.join (location.reverse.map ("/" ++ ·))

end IssueQuery
