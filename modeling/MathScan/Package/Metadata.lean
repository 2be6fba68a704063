import MathScan.Package.Contents
import MathScan.Package.Readme

/-
  The description of the package for its distribution. Three
  parts of it depend on the files of the package.

  Key definitions include:
    * `Metadata`
    * `MetadataFault`
    * `metadata`
    * `ownTree`
-/

namespace MathScan.Package

------------------------------------------------------------
-- The description
------------------------------------------------------------

/- The description of a package. -/
structure Metadata where
  name : String
  version : String
  description : String
  longDescription : List Char
  longDescriptionType : String
  author : String
  license : String
  packages : List String
  includesData : Bool
  languageVersions : String
  requirements : List String
  developmentRequirements : List String
  scripts : List String
  classifiers : List String
  keywords : List String
  zipSafe : Bool

/- Why a package cannot be described: a file, and its fault. -/
structure MetadataFault where
  path : String
  fault : ReadFault

def MetadataFault.message
    (e : MetadataFault) : String :=
  e.fault.message e.path

/- What helps in the development of the package. -/
def developmentTools : List String :=
  ["pytest>=7.4.0", "pytest-cov>=4.1.0", "black>=23.3.0",
    "flake8>=6.0.0", "mypy>=1.4.0", "isort>=5.12.0"]

/- The classes of packages that the package is in. -/
def classes : List String :=
  ["Development Status :: 3 - Alpha",
    "Intended Audience :: Developers",
    "Intended Audience :: Education",
    "License :: OSI Approved :: MIT License",
    "Operating System :: OS Independent",
    "Programming Language :: Python :: 3",
    "Programming Language :: Python :: 3.8",
    "Programming Language :: Python :: 3.9",
    "Programming Language :: Python :: 3.10",
    "Programming Language :: Python :: 3.11",
    "Programming Language :: Python :: 3.12",
    "Topic :: Software Development :: Compilers",
    "Topic :: Software Development :: Libraries :: " ++
      "Python Modules"]

/- The description with the parts that depend on the files. -/
def describe
    (version : String)
    (longDescription : List Char)
    (packages : List String) : Metadata :=
  { name := "mathlang-scanner"
    version := version
    description :=
      "Lexical scanner for the MathLang expression language"
    longDescription := longDescription
    longDescriptionType := "text/markdown"
    author := "xwest"
    license := "MIT"
    packages := packages
    includesData := true
    languageVersions := ">=3.8"
    requirements := []
    developmentRequirements := developmentTools
    scripts := ["mathlang-scan=mathlang.cli:main"]
    classifiers := classes
    keywords :=
      ["lexer", "tokenizer", "scanner", "programming-language",
        "education"]
    zipSafe := false }

------------------------------------------------------------
-- The description of a tree
------------------------------------------------------------

/- What a file of a tree holds, or what stops its reading. -/
def partAt {α : Type}
    (read :
      FileTree → List String → Except ReadFault α)
    (tree : FileTree)
    (path : List String) : Except MetadataFault α :=
  (read tree path).mapError
    (fun fault => ⟨"/".intercalate path, fault⟩)

/- The description of the package in a tree of files. -/
def metadata
    (tree : FileTree) : Except MetadataFault Metadata :=
  match partAt versionAt tree ["mathlang", packageFile] with
  | .error e => .error e
  | .ok version =>
    match partAt textAt tree ["README.md"] with
    | .error e => .error e
    | .ok introduction =>
      .ok
        (describe version (introduction.getD [])
          (packages tree))

/- The parts of the package's own tree that count here. -/
def ownTree : FileTree :=
  let file (text : String) : Entry :=
    .file (Text.Utf8.encode text.toList)
  FileTree.ofFiles
    [("README.md", file readme),
      ("mathlang/__init__.py",
        file ("__version__ = \"" ++ defaultVersion ++ "\"\n")),
      ("mathlang/lexer/__init__.py", file "")]

end MathScan.Package
