import ConceptScript.Uri.Address
import ConceptScript.Uri.Percent

/-!
Contract: paths that are divided by slashes.

Owns the removal of dot segments and the letters of drives.

Does not own paths of addresses that have no slash behind the scheme.
-/

set_option autoImplicit false

namespace ConceptScript.Uri

/-- A letter with a colon or a bar. -/
def isDriveLetter : List Char → Bool
  | [letter, mark] => letter.isAlpha && (mark = ':' || mark = '|')
  | _ => false

/-- Stands for the place it is in. The point may be encoded. -/
def isDot (segment : List Char) : Bool :=
  let name := (String.ofList segment).toLower
  name = "." || name = "%2e"

/-- Stands for the place above. -/
def isDoubleDot (segment : List Char) : Bool :=
  let name := (String.ofList segment).toLower
  name = ".." || name = ".%2e" || name = "%2e." || name = "%2e%2e"

/-- A path from the root. -/
structure Path where
  /-- The segments with a slash behind them, last one first. -/
  above : List (List Char) := []
  /-- The segment at the end. -/
  last : List Char := []
  /-- The path has started with the letter of a drive. -/
  onDrive : Bool := false
  deriving DecidableEq, Repr

namespace Path

/-- Leaves the innermost place, but not a drive. -/
def up (path : Path) : Path :=
  match path.above with
  | segment :: above => if isDriveLetter segment then path else { path with above := above }
  | [] => path

/-- The spelling of a segment. The letter of a drive at the start of the path of a file is written
with a colon. -/
def enter (path : Path) (ofFile : Bool) (segment : List Char) : List Char × Path :=
  let segment := percentEncode isEncodedInPath segment
  if ofFile && path.above.isEmpty && isDriveLetter segment then
    (segment.take 1 ++ [':'], { path with onDrive := true })
  else
    (segment, path)

/-- Follows segments, of which only the last one has no slash behind it. -/
def follow (ofFile : Bool) (path : Path) : List (List Char) → Path
  | [] => path
  | [segment] =>
    if isDoubleDot segment then path.up
    else if isDot segment then path
    else
      let (segment, path) := path.enter ofFile segment
      { path with last := segment }
  | segment :: later =>
    if isDoubleDot segment then follow ofFile path.up later
    else if isDot segment then follow ofFile path later
    else
      let (segment, path) := path.enter ofFile segment
      follow ofFile { path with above := segment :: path.above } later

/-- The path that characters behind the first slash lead to. In special schemes a backslash is a
slash, too. -/
def ofChars (special ofFile : Bool) (chars : List Char) : Path :=
  follow ofFile {} (splitAt (fun c => c = '/' || (special && c = '\\')) chars)

def render (path : Path) : List Char :=
  '/' :: path.above.reverse.flatMap (· ++ ['/']) ++ path.last

/-- The path of a file has no empty segments in front. -/
def renderFile (path : Path) : List Char :=
  '/' :: path.render.dropWhile (· = '/')

end Path

end ConceptScript.Uri
