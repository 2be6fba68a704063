import MathScan.Files.Lines
import MathScan.Files.Tree

/-
  What a tree of files says about the package in it: its
  version, its introduction, and the packages to be shipped.

  Key definitions include:
    * `assignment?`
    * `versionOf`
    * `versionAt`
    * `textAt`
    * `packages`
-/

namespace MathScan.Package

------------------------------------------------------------
-- The version
------------------------------------------------------------

/- The version of a package that does not tell its own. -/
def defaultVersion : String :=
  "0.1.0"

/- The name that the version is assigned to. -/
def versionName : List Char :=
  "__version__".toList

/- Whether a character is a space within a line. -/
def isSpace
    (c : Char) : Bool :=
  c == ' ' || c == '\t' || c == '\x0c'

/- The content of the string literal that a text starts with. -/
def literal? : List Char → Option (List Char)
  | [] => none
  | mark :: rest =>
    if (mark = '\x22' ∨ mark = '\x27') ∧ mark ∈ rest then
      some (rest.takeWhile (· != mark))
    else
      none

/- The name and the string of an assignment of one line. -/
def assignment?
    (line : List Char) : Option (List Char × List Char) :=
  let endsName (c : Char) : Bool := isSpace c || c == '='
  let name := line.takeWhile (fun c => !endsName c)
  let afterName := line.dropWhile (fun c => !endsName c)
  match afterName.dropWhile isSpace with
  | '=' :: rest =>
    (literal? (rest.dropWhile isSpace)).map
      (fun content => (name, content))
  | _ => none

/- Whether a line settles the version. -/
def isVersionLine
    (line : List Char) : Bool :=
  versionName.isPrefixOf line

/-
  The version by the line that settles it, which is the first
  line that begins with its name. The line settles it even if
  it assigns to a longer name.
-/
def versionOf
    (line? : Option (List Char)) : String :=
  match line?.bind assignment? with
  | some (name, content) =>
    if name = versionName then
      String.ofList content
    else
      defaultVersion
  | none => defaultVersion

------------------------------------------------------------
-- Files of the tree
------------------------------------------------------------

/- The text at a path of the tree, if anything stands there. -/
def textAt
    (tree : FileTree)
    (path : List String) :
    Except ReadFault (Option (List Char)) :=
  match tree.find? path with
  | none => .ok none
  | some .directory => .error (.notOpened .isDirectory)
  | some (.file bytes) =>
    ((decodeText bytes).map some).mapError .notUtf8

/-
  The version that a file of the tree tells. The file is read
  no further than the block with the line that settles it.
-/
def versionAt
    (tree : FileTree)
    (path : List String) : Except ReadFault String :=
  match tree.find? path with
  | none => .ok defaultVersion
  | some .directory => .error (.notOpened .isDirectory)
  | some (.file bytes) =>
    ((findLine isVersionLine bytes).map versionOf).mapError
      .notUtf8

------------------------------------------------------------
-- Packages
------------------------------------------------------------

/- The file that makes a directory a package. -/
def packageFile : String :=
  "__init__.py"

/- The names of packages that are left out. -/
def excludedNames : List String :=
  ["ez_setup", "tests"]

/- The start of the names of packages that are left out. -/
def excludedStart : String :=
  "tests."

/- The end of the names of packages that are left out. -/
def excludedEnd : String :=
  "__pycache__"

/- The name of the package in the directory at a path. -/
def dottedName
    (path : List String) : String :=
  ".".intercalate path

/-
  Whether a package is left out by its name. That says nothing
  about the packages in it, which have names of their own.
-/
def isExcluded
    (name : String) : Bool :=
  excludedNames.contains name ||
    excludedStart.toList.isPrefixOf name.toList ||
    excludedEnd.toList.isSuffixOf name.toList

/- Whether the directory at a path is a package by itself. -/
def isPackage
    (tree : FileTree)
    (path : List String) : Bool :=
  (path.getLast?.all (fun name => !name.toList.contains '.')) &&
    match tree.find? (path ++ [packageFile]) with
    | some (.file _) => true
    | _ => false

/- The directories of a path, from the top one to the last. -/
def chain
    (path : List String) : List (List String) :=
  (List.range path.length).map (fun n => path.take (n + 1))

/-
  Whether a path leads to a package that is shipped: all
  directories on it are packages, and the last of them is not
  left out.
-/
def isShipped
    (tree : FileTree)
    (path : List String) : Bool :=
  (chain path).all (isPackage tree) &&
    !isExcluded (dottedName path)

/- The packages to be shipped, by their dotted names, in order. -/
def packages
    (tree : FileTree) : List String :=
  let found :=
    tree.entries.filter fun entry =>
      entry.2 = .directory && isShipped tree entry.1
  (found.map (fun entry => dottedName entry.1)).mergeSort
    (fun a b => decide (a ≤ b))

end MathScan.Package
