import ConceptScript.Uri.Address
import ConceptScript.Uri.Domain.Basic

/-!
Contract: hosts.

Owns which of the kinds of host a text names, and the one spelling of each host.

Does not own where in an address the host stands.
-/

set_option autoImplicit false

namespace ConceptScript.Uri

inductive Host where
  | name (chars : List Char)
  | address32 (address : Nat)
  | address128 (pieces : List Nat)
  deriving DecidableEq, Repr

namespace Host

def render : Host → List Char
  | .name chars => chars
  | .address32 address => renderAddress32 address
  | .address128 pieces => '[' :: renderAddress128 pieces ++ [']']

/-- An address with 128 bits between brackets. -/
def bracketed? (text : List Char) : Option Host :=
  if text.getLast? = some ']' then (address128? text.dropLast).map .address128 else none

/-- The host of a special scheme: an address in either form, or the name of a domain. -/
def ofSpecial? : List Char → Option Host
  | '[' :: text => bracketed? text
  | text => do
    let name ← domain? (percentDecode text)
    if name.isEmpty then none
    else if endsInNumber name then (address32? name).map .address32
    else some (.name name)

/-- The characters that no host of another scheme holds. -/
def isForbidden (c : Char) : Bool :=
  "\x00\t\n\r #/:<>?@[\\]^|".toList.contains c

/-- The host of a scheme that is not special keeps its spelling. It may be empty. -/
def ofOther? : List Char → Option Host
  | '[' :: text => bracketed? text
  | text =>
    if text.any isForbidden then none
    else some (.name (percentEncode isEncodedEverywhere text))

end Host

end ConceptScript.Uri
