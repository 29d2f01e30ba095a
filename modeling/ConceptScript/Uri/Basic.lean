import ConceptScript.Uri.Host
import ConceptScript.Uri.Path

/-!
Contract: the addresses of documents.

Owns how the text of an address is divided into parts, and the one spelling that all spellings of
the same address lead to.

Does not own what stands at an address.
-/

set_option autoImplicit false

namespace ConceptScript

/-- The address of a document in its one spelling. -/
structure Uri where
  text : String
  deriving DecidableEq, Repr

namespace Uri

/-! ## Parts -/

/-- The parts of an address as they are spelled. -/
structure Parts where
  scheme : List Char
  /-- User, host and service, if there is a place for them. -/
  authority : Option (List Char) := none
  path : List Char := []
  query : Option (List Char) := none
  fragment : Option (List Char) := none
  deriving DecidableEq, Repr

/-- Where there is no authority a path that starts with two slashes gets a segment in front, because
it would be read as an authority. -/
def Parts.render (parts : Parts) : List Char :=
  let authority := match parts.authority with
    | some authority => '/' :: '/' :: authority
    | none => if ['/', '/'].isPrefixOf parts.path then ['/', '.'] else []
  parts.scheme ++ ':' :: authority ++ parts.path ++ parts.query.elim [] ('?' :: ·) ++
    parts.fragment.elim [] ('#' :: ·)

inductive Kind where
  | file
  /-- A scheme with a host, and the number of the service that it means if no other is given. -/
  | special (service : Nat)
  | other
  deriving DecidableEq, Repr

def Kind.ofScheme (scheme : List Char) : Kind :=
  match String.ofList scheme with
  | "file" => .file
  | "http" | "ws" => .special 80
  | "https" | "wss" => .special 443
  | "ftp" => .special 21
  | _ => .other

def Kind.isSpecial : Kind → Bool
  | .other => false
  | _ => true

/-! ## Division -/

/-- Characters that are ignored at both ends. -/
def isIgnoredAround (c : Char) : Bool :=
  c.toNat ≤ 0x20

/-- Characters that are ignored everywhere. -/
def isIgnored (c : Char) : Bool :=
  c = '\t' || c = '\n' || c = '\r'

def significant (text : String) : List Char :=
  let front := text.toList.dropWhile isIgnoredAround
  (front.reverse.dropWhile isIgnoredAround).reverse.filter fun c => !isIgnored c

/-- The scheme in lower case and what stands behind its colon. A scheme starts with a letter. -/
def scheme? (chars : List Char) : Option (List Char × List Char) :=
  let inScheme (c : Char) : Bool := c.isAlphanum || c = '+' || c = '-' || c = '.'
  match chars.takeWhile inScheme, chars.dropWhile inScheme with
  | c :: scheme, ':' :: rest =>
    if c.isAlpha then some ((c :: scheme).map Char.toLower, rest) else none
  | _, _ => none

/-- What stands in front of the query and the fragment, and these. -/
def divide (special : Bool) (chars : List Char) :
    List Char × Option (List Char) × Option (List Char) :=
  let front := chars.takeWhile (· ≠ '#')
  let fragment := (chars.dropWhile (· ≠ '#')).tail?.map (percentEncode isEncodedInFragment)
  let query := (front.dropWhile (· ≠ '?')).tail?.map (percentEncode (isEncodedInQuery special))
  (front.takeWhile (· ≠ '?'), query, fragment)

/-! ## Authority -/

/-- What stands in front of the last at sign, if there is one, and what stands behind it. -/
def splitAtLastSign (chars : List Char) : Option (List Char) × List Char :=
  let reversed := chars.reverse
  match reversed.dropWhile (· ≠ '@') with
  | [] => (none, chars)
  | _ :: user => (some user.reverse, (reversed.takeWhile (· ≠ '@')).reverse)

/-- A user and a password, of which an empty one is left out. -/
def userinfo (chars : List Char) : List Char :=
  let encode := percentEncode isEncodedInUserinfo
  let user := encode (chars.takeWhile (· ≠ ':'))
  let password := encode ((chars.dropWhile (· ≠ ':')).drop 1)
  let both := if password.isEmpty then user else user ++ ':' :: password
  if both.isEmpty then [] else both ++ ['@']

/-- The characters of a host: up to a colon that stands outside of brackets. -/
def takeHost : (inBrackets : Bool) → List Char → List Char × List Char
  | _, [] => ([], [])
  | inBrackets, c :: rest =>
    if c = ':' && !inBrackets then ([], c :: rest)
    else
      let (host, rest) := takeHost ((inBrackets || c = '[') && c ≠ ']') rest
      (c :: host, rest)

/-- The number of a service, of at most 16 bits, and what stands behind it. The number that the
scheme means anyway is left out. -/
def service? (kind : Kind) : List Char → Option (List Char × List Char)
  | ':' :: chars => do
    let digits := chars.takeWhile Char.isDigit
    let rest := chars.dropWhile Char.isDigit
    if !rest.head?.all ("/\\?#".toList.contains ·) then none
    let number ← digitsValue? 10 digits
    if 65535 < number then none
    else if digits.isEmpty || kind = .special number then some ([], rest)
    else some (':' :: decimal number, rest)
  | rest => some ([], rest)

/-- The authority behind two slashes, and what stands behind it. A special scheme needs a host; a
user or a service needs one in every scheme. -/
def authority? (kind : Kind) (chars : List Char) : Option (List Char × List Char) := do
  let special := kind.isSpecial
  let isInside (c : Char) : Bool :=
    !(c = '/' || c = '?' || c = '#' || (special && c = '\\'))
  let inside := chars.takeWhile isInside
  let behind := chars.dropWhile isInside
  let (user, place) := splitAtLastSign inside
  if user = some [] && place.isEmpty && !behind.isEmpty then none
  let user := userinfo (user.getD [])
  let (host, rest) := takeHost false place
  let host ← if special then Host.ofSpecial? host else Host.ofOther? host
  let host := host.render
  if host.isEmpty && (rest.head? = some ':' || !user.isEmpty) then none
  let (service, rest) ← service? kind rest
  some (user ++ host ++ service, rest ++ behind)

/-! ## Kinds of schemes -/

/-- The path behind an authority. A special scheme has at least the root. -/
def pathBehind (special : Bool) : List Char → List Char
  | [] => if special then ['/'] else []
  | c :: rest =>
    if c = '/' || (special && c = '\\') then (Path.ofChars special false rest).render
    else (Path.ofChars special false (c :: rest)).render

/-- A scheme with an authority. -/
def withAuthority? (kind : Kind) (scheme chars : List Char) : Option Parts := do
  let (authority, rest) ← authority? kind chars
  let (path, query, fragment) := divide kind.isSpecial rest
  some {
    scheme := scheme
    authority := some authority
    path := pathBehind kind.isSpecial path
    query := query
    fragment := fragment }

/-- Any other scheme. Without a slash behind it the path has no segments. -/
def other? (scheme chars : List Char) : Option Parts :=
  match chars with
  | '/' :: '/' :: rest => withAuthority? .other scheme rest
  | _ =>
    let (path, query, fragment) := divide false chars
    let path := match path with
      | '/' :: rest => (Path.ofChars false false rest).render
      | path => percentEncode isEncodedEverywhere path
    some { scheme := scheme, path := path, query := query, fragment := fragment }

def isSlash (c : Char) : Bool :=
  c = '/' || c = '\\'

/-- The host of a file and the path behind it. The letter of a drive is no host, and the own machine
is no host worth naming. -/
def fileHost? (chars : List Char) : Option (List Char × List Char) := do
  let host := chars.takeWhile fun c => !isSlash c
  if host.isEmpty || isDriveLetter host then some ([], chars)
  else
    let host := (← Host.ofSpecial? host).render
    let rest := chars.dropWhile fun c => !isSlash c
    some (if host = "localhost".toList then [] else host, rest)

/-- The path of a file has a root, whether it is written or not. A host is forgotten if the path
starts with the letter of a drive. -/
def file? (scheme chars : List Char) : Option Parts := do
  let (place, query, fragment) := divide true chars
  let slashes := (place.takeWhile isSlash).length
  let (host, rest) ← if 2 ≤ slashes then fileHost? (place.drop 2) else some ([], place)
  let path := Path.ofChars true true (if rest.head?.any isSlash then rest.drop 1 else rest)
  some {
    scheme := scheme
    authority := some (if path.onDrive then [] else host)
    path := path.renderFile
    query := query
    fragment := fragment }

/-! ## Reading -/

def parts? (text : String) : Option Parts := do
  let (scheme, rest) ← scheme? (significant text)
  match Kind.ofScheme scheme with
  | .file => file? scheme rest
  | .special service => withAuthority? (.special service) scheme (rest.dropWhile isSlash)
  | .other => other? scheme rest

/-- Reads an address; `none` if the text is none. -/
def parse? (text : String) : Option Uri :=
  (parts? text).map fun parts => ⟨String.ofList parts.render⟩

end Uri

end ConceptScript
