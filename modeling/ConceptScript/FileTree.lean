import ConceptScript.Catalog.Load

/-!
Contract: a tree of files kept in memory.

Owns how a path leads through the tree.

Does not own what files are for.
-/

set_option autoImplicit false

namespace ConceptScript

/-- Files and further directories, each by the names that lead to it from the root. -/
structure FileTree where
  files : List (List String × ByteArray) := []
  directories : List (List String) := []

namespace FileTree

/-- A name that does not lead anywhere. -/
def staysPut (name : String) : Bool :=
  name = "" || name = "."

/-- Adds a file, or a directory if the path ends with a slash. -/
def add (tree : FileTree) (path : String) (content : ByteArray) : FileTree :=
  let names := path.splitOn "/"
  let place := names.filter fun name => !staysPut name
  if names.getLast? = some "" then
    { tree with directories := tree.directories ++ [place] }
  else
    { tree with files := tree.files ++ [(place, content)] }

/-- Whether a directory has this place: the root, a place above a file, or a place at or above a
further directory. -/
def isDirectory (tree : FileTree) (place : List String) : Bool :=
  place.isEmpty || tree.files.any (fun file => place.isPrefixOf file.1 && place ≠ file.1) ||
    tree.directories.any fun directory => place.isPrefixOf directory

def file? (tree : FileTree) (place : List String) : Option ByteArray :=
  tree.files.lookup place

/-- The number of bytes that a name may have. -/
def longestName : Nat := 255

/-- The number of bytes that a path may have. -/
def longestPath : Nat := 4095

/-- Where names lead from a place, where `none` is a directory outside of the tree: nothing is known
there but further such directories above. Every name needs a directory to start from, even one that
stays there. -/
def resolve (tree : FileTree) :
    Option (List String) → List String → Except ReadFault (Option (List String))
  | place, [] => .ok place
  | none, name :: later =>
    if staysPut name || name = ".." then resolve tree none later
    else if longestName < name.utf8ByteSize then .error .nameTooLong
    else .error .missing
  | some place, name :: later =>
    if !tree.isDirectory place then
      .error .notDirectory
    else if staysPut name then
      resolve tree (some place) later
    else if name = ".." then
      resolve tree (if place.isEmpty then none else some place.dropLast) later
    else if longestName < name.utf8ByteSize then
      .error .nameTooLong
    else if tree.isDirectory (place ++ [name]) || (tree.file? (place ++ [name])).isSome then
      resolve tree (some (place ++ [name])) later
    else
      .error .missing

/-- The name of the entry of a directory through which a place is reached, and whether the place is
that entry. -/
def entryOn? (directory place : List String) : Option (String × Bool) :=
  if directory.isPrefixOf place then
    match place.drop directory.length with
    | [] => none
    | [name] => some (name, true)
    | name :: _ => some (name, false)
  else
    none

def entriesOf (tree : FileTree) (directory : List String) :
    List (String × Option FileContent) :=
  let fromFiles := tree.files.filterMap fun (place, content) =>
    (entryOn? directory place).map fun (name, direct) =>
      (name, if direct then some (.ok content) else none)
  let fromDirectories := tree.directories.filterMap fun place =>
    (entryOn? directory place).map fun (name, _) => (name, none)
  fromFiles ++ fromDirectories

/-- The place that a path from the root of the tree leads to. A path that starts with a slash starts
outside of the tree. -/
def placeOf (tree : FileTree) (path : String) : Except ReadFault (Option (List String)) :=
  if path.toList.contains '\x00' then .error .zeroInName
  else if path = "" then .error .missing
  else if longestPath < path.utf8ByteSize then .error .nameTooLong
  else
    let names := path.splitOn "/"
    tree.resolve (if names.head? = some "" then none else some []) names

/-- What stands at a path. -/
def locate (tree : FileTree) (path : String) : Located :=
  match tree.placeOf path with
  | .error fault => .file (.error fault)
  | .ok none => .directory []
  | .ok (some place) =>
    match tree.file? place with
    | some content => .file (.ok content)
    | none => .directory (tree.entriesOf place)

end FileTree

end ConceptScript
