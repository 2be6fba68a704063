import MathScan.Files.Reading

/-
  Trees of files and directories, held as a list of their
  paths, how a tree is made of files, and the way from a path
  to a file in it.

  Key definitions include:
    * `Entry`
    * `FileTree`
    * `FileTree.writeFile`
    * `FileTree.insert`
    * `FileTree.ofFiles`
    * `FileTree.find?`
    * `FileTree.open?`
-/

namespace MathScan

------------------------------------------------------------
-- Trees
------------------------------------------------------------

/- What stands at a path. -/
inductive Entry where
  | directory
  | file (bytes : List UInt8)
deriving DecidableEq

/-
  A tree by the paths of its entries, each a list of names
  that starts at the top directory. Names of two dots stand
  only in front, and lead to the directories above the top.
-/
structure FileTree where
  entries : List (List String × Entry)

namespace FileTree

/- A tree with nothing below its top directory. -/
def empty : FileTree :=
  ⟨[]⟩

/- Whether a path is that of the top directory or above it. -/
def isAtTop
    (path : List String) : Bool :=
  path.all (· == "..")

/- What stands at a path. -/
def find?
    (tree : FileTree)
    (path : List String) : Option Entry :=
  if isAtTop path then
    some .directory
  else
    tree.entries.lookup path

/- A tree with a directory at a path, unless it is taken. -/
def makeDirectory
    (tree : FileTree)
    (path : List String) : FileTree :=
  if (tree.find? path).isSome then
    tree
  else
    ⟨tree.entries ++ [(path, .directory)]⟩

/-
  A tree with a file at a path, in place of a file that was
  there before. A directory is not replaced.
-/
def writeFile
    (tree : FileTree)
    (path : List String)
    (bytes : List UInt8) : FileTree :=
  if tree.find? path = some .directory then
    tree
  else
    ⟨tree.entries.filter (fun entry => entry.1 != path) ++
      [(path, .file bytes)]⟩

------------------------------------------------------------
-- Paths
------------------------------------------------------------

/- The parts of a path, which slashes stand between. -/
def parts : List Char → List (List Char)
  | [] => [[]]
  | c :: rest =>
    if c = '/' then
      [] :: parts rest
    else
      match parts rest with
      | [] => [[c]]
      | part :: more => (c :: part) :: more

/- The names in a path: its parts that are not empty. -/
def names
    (path : String) : List String :=
  ((parts path.toList).filter (fun part => !part.isEmpty)).map
    String.ofList

/-
  Where a walk stands: at a path from the top directory, or at
  the root of all paths, below which nothing is known.
-/
inductive Place where
  | inside (path : List String)
  | root
deriving DecidableEq

/- Where a path starts: at the top, unless it is absolute. -/
def start
    (path : String) : Place :=
  if path.toList.head? = some '/' then .root else .inside []

def above
    (path : List String) : List String :=
  if isAtTop path then path ++ [".."] else path.dropLast

------------------------------------------------------------
-- Making a tree
------------------------------------------------------------

/-
  Goes on to a name, and makes a directory of it if nothing
  has that name yet.
-/
def stepMaking
    (way : FileTree × Place)
    (name : String) : FileTree × Place :=
  match way with
  | (tree, .root) => (tree, .root)
  | (tree, .inside path) =>
    if name = "." then
      way
    else if name = ".." then
      (tree, .inside (above path))
    else
      (tree.makeDirectory (path ++ [name]),
        .inside (path ++ [name]))

/- A tree with the directories on the way along some names. -/
def makeWay
    (tree : FileTree)
    (path : String)
    (names : List String) : FileTree × Place :=
  names.foldl stepMaking (tree, start path)

/- A tree with one more entry and the directories to it. -/
def insert
    (tree : FileTree)
    (path : String)
    (entry : Entry) : FileTree :=
  match entry with
  | .directory => (tree.makeWay path (names path)).1
  | .file bytes =>
    match tree.makeWay path (names path).dropLast with
    | (tree, .root) => tree
    | (tree, .inside directory) =>
      match (names path).getLast? with
      | some name =>
        if name = "." ∨ name = ".." then
          tree
        else
          tree.writeFile (directory ++ [name]) bytes
      | none => tree

/- The tree of some files and directories, in their order. -/
def ofFiles
    (files : List (String × Entry)) : FileTree :=
  files.foldl
    (fun tree file => tree.insert file.1 file.2)
    empty

------------------------------------------------------------
-- Walking
------------------------------------------------------------

def nameLimit : Nat :=
  255

def pathLimit : Nat :=
  4096

/- Steps to a name that is not a dot or two of them. -/
def enter
    (tree : FileTree)
    (path : List String)
    (name : String) : Except OpenFault Place :=
  if nameLimit < name.utf8ByteSize then
    .error .nameTooLong
  else if (tree.find? (path ++ [name])).isSome then
    .ok (.inside (path ++ [name]))
  else
    .error .missing

/- One step of a walk, to the next name of a path. -/
def stepTo
    (tree : FileTree)
    (place : Place)
    (name : String) : Except OpenFault Place :=
  match place with
  | .root =>
    if name = "." ∨ name = ".." then
      .ok .root
    else if nameLimit < name.utf8ByteSize then
      .error .nameTooLong
    else
      .error .missing
  | .inside path =>
    if tree.find? path ≠ some .directory then
      .error .throughFile
    else if name = "." then
      .ok place
    else if name = ".." then
      .ok (.inside (above path))
    else
      tree.enter path name

/-
  The names that a path is walked by. A slash at its end asks
  for a directory, as a dot behind it does.
-/
def walkNames
    (path : String) : List String :=
  names path ++
    (if path.toList.getLast? = some '/' then ["."] else [])

/- The bytes of the file at a path, or why it is not opened. -/
def open?
    (tree : FileTree)
    (path : String) : Except OpenFault (List UInt8) :=
  if path.isEmpty then
    .error .missing
  else if pathLimit ≤ path.utf8ByteSize then
    .error .nameTooLong
  else
    match (walkNames path).foldlM tree.stepTo (start path) with
    | .error fault => .error fault
    | .ok .root => .error .isDirectory
    | .ok (.inside path) =>
      match tree.find? path with
      | some (.file bytes) => .ok bytes
      | _ => .error .isDirectory

end FileTree

end MathScan
