/-! Files and directories under one root, and the few operations on them that settings and reports
need. -/
namespace SlotServe

structure FileAccess (m : Type → Type) where
  /-- The text of a file. -/
  readText : String → m (Option String)
  /-- Make every directory on the way to a file. -/
  makeParents : String → m Bool
  /-- Put a text in the place of a file. -/
  writeText : String → String → m Bool

structure FileTree where
  /-- The directory that paths without a leading slash start from. -/
  here : List String
  /-- Directories besides the root. -/
  directories : List (List String)
  /-- Files with their text, none for a file that holds no text. -/
  files : List (List String × Option String)
  deriving DecidableEq

namespace FileTree

def isDirectory (tree : FileTree) (place : List String) : Bool :=
  place.isEmpty || tree.directories.contains place

def isFile (tree : FileTree) (place : List String) : Bool := (tree.files.lookup place).isSome

/-- The place that a name leads to from a directory. An empty name and a dot stay there, two dots go
up, and a name has at most 255 bytes. -/
def enter (tree : FileTree) (place : List String) (name : String) : Option (List String) :=
  if !tree.isDirectory place then none
  else if name = "" || name = "." then some place
  else if name = ".." then some place.dropLast
  else if name.utf8ByteSize ≤ 255 then some (place ++ [name])
  else none

def names (path : String) : List String := (path.toList.splitOn '/').map String.ofList

def start (tree : FileTree) (path : String) : List String :=
  if path.startsWith "/" then [] else tree.here

def locate (tree : FileTree) (path : String) : Option (List String) :=
  -- The bounds are those of a path and of a name on it.
  if path = "" || 4096 ≤ path.utf8ByteSize then none
  else (names path).foldlM tree.enter (tree.start path)

def read (tree : FileTree) (path : String) : Option String := do
  (← tree.files.lookup (← tree.locate path))

def write (tree : FileTree) (path : String) (text : String) : Option FileTree := do
  let place ← tree.locate path
  if tree.isDirectory place then none
  else some { tree with files := (place, some text) :: tree.files.filter (·.1 ≠ place) }

def descend (reached : FileTree × List String) (name : String) :
    Option (FileTree × List String) := do
  let (tree, place) := reached
  let next ← tree.enter place name
  if tree.isDirectory next then some (tree, next)
  else if tree.isFile next then none
  else some ({ tree with directories := next :: tree.directories }, next)

def makeParents (tree : FileTree) (path : String) : Option FileTree := do
  let entered := (names path).filter fun name => name ≠ "" && name ≠ "."
  let (made, _) ← entered.dropLast.foldlM descend (tree, tree.start path)
  return made

def commit (change : FileTree → Option FileTree) : StateM FileTree Bool := fun tree =>
  match change tree with
  | some next => (true, next)
  | none => (false, tree)

def access : FileAccess (StateM FileTree) where
  readText path := return (← get).read path
  makeParents path := commit fun tree => tree.makeParents path
  writeText path text := commit fun tree => tree.write path text

end FileTree

end SlotServe
