import ConceptScript.Catalog.Source

/-!
Contract: catalogs in files.

Owns which files of a directory belong to a catalog and their order, and why loading fails.

Does not own access to files: the caller says what stands at a path. Nor does it own how a text is
read: the catalog at a path is told for any reader of texts, and then for YAML.
-/

set_option autoImplicit false

namespace ConceptScript

/-- Why the content of a file cannot be had. -/
inductive ReadFault where
  | missing
  | notDirectory
  | nameTooLong
  | zeroInName
  | notText
  deriving DecidableEq, Repr

def ReadFault.message : ReadFault → String
  | .missing => "No such file or directory (os error 2)"
  | .notDirectory => "Not a directory (os error 20)"
  | .nameTooLong => "File name too long (os error 36)"
  | .zeroInName => "file name contained an unexpected NUL byte"
  | .notText => "stream did not contain valid UTF-8"

abbrev FileContent := Except ReadFault ByteArray

/-- What stands at a path. The entries of a directory come in any order, with the content of those
that are regular files. -/
inductive Located where
  | file (content : FileContent)
  | directory (entries : List (String × Option FileContent))

inductive LoadFault where
  | unreadable (path : String) (cause : ReadFault)
  | malformed (path : String)
  | invalid (path : String) (cause : Catalog.Defect)
  deriving DecidableEq, Repr

namespace LoadFault

def message : LoadFault → String
  | .unreadable path _ => "Failed to read " ++ path
  | .malformed path => "Failed to parse " ++ path
  | .invalid path _ => "Invalid concept catalog at " ++ path

/-- The message with the cause behind it. -/
def explanation (fault : LoadFault) : String :=
  match fault with
  | .unreadable _ cause => fault.message ++ ": " ++ cause.message
  | .malformed _ => fault.message
  | .invalid _ cause => fault.message ++ ": " ++ cause.message

end LoadFault

namespace Catalog

/-- What follows the last point of a name, if anything stands before that point. -/
def extension? (name : String) : Option String :=
  let reversed := name.toList.reverse
  match reversed.dropWhile (· ≠ '.') with
  | _ :: _ :: _ => some (String.ofList (reversed.takeWhile (· ≠ '.')).reverse)
  | _ => none

def isSourceName (name : String) : Bool :=
  extension? name = some "yaml" || extension? name = some "yml"

/-- The files of a directory that belong to a catalog, by name. -/
def sourceFiles (entries : List (String × Option FileContent)) : List (String × FileContent) :=
  let files := entries.filterMap fun (name, content) => content.map fun content => (name, content)
  (files.filter fun file => isSourceName file.1).mergeSort fun left right => left.1 ≤ right.1

/-- The path of a name inside of a directory. -/
def pathIn (directory name : String) : String :=
  if directory.toList.getLast? = some '/' then directory ++ name else directory ++ "/" ++ name

/-- How the types that a text lists are read; `none` if the text is malformed. -/
abbrev TypesReader := String → Option (List ConceptType)

/-- The types that a file lists. -/
def readFile (read : TypesReader) (path : String) (content : FileContent) :
    Except LoadFault (List ConceptType) :=
  match content with
  | .error cause => .error (.unreadable path cause)
  | .ok bytes =>
    match String.fromUTF8? bytes with
    | none => .error (.unreadable path .notText)
    | some source =>
      match read source with
      | none => .error (.malformed path)
      | some types => .ok types

/-- The files that a path stands for, with their own paths. -/
def filesAt (path : String) : Located → List (String × FileContent)
  | .file content => [(path, content)]
  | .directory entries =>
    (sourceFiles entries).map fun (name, content) => (pathIn path name, content)

/-- The catalog at a path, given how texts are read. The types of all files are checked together, so
that a type may have a parent in any of them. -/
def loadWith (read : TypesReader) (path : String) (located : Located) :
    Except LoadFault Catalog := do
  let lists ← (filesAt path located).mapM fun (path, content) => readFile read path content
  match ofTypes lists.flatten with
  | .ok catalog => .ok catalog
  | .error defect => .error (.invalid path defect)

/-- The catalog at a path, whose files are YAML texts. -/
def load (path : String) (located : Located) : Except LoadFault Catalog :=
  loadWith readTypes? path located

end Catalog

end ConceptScript
