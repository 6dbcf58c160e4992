/-
# Overlay.Name — addresses

A name is 64 octets.  It is the address of a record or of a node: it may be given,
it may be the digest of a content, or the digest of several keys one after another.
-/
import Overlay.Hash.Sha512
import Overlay.Octets.Hex
import Overlay.Octets.Size
import Overlay.Text.Blank

namespace Overlay

set_option autoImplicit false

/-- An address of 64 octets. -/
structure Name where
  id : Fixed 64
  deriving DecidableEq, Inhabited

namespace Name

/-- The number of octets in a name. -/
def size : Nat := 64

/-- The octets of a name. -/
def octets (name : Name) : Octets := name.id.octets

@[simp] theorem length_octets (name : Name) : name.octets.length = 64 := name.id.length_eq

@[ext] theorem ext {a b : Name} (h : a.octets = b.octets) : a = b := by
  cases a; cases b; simpa [octets, Fixed.ext_iff] using h

/-- The name of a content, its digest. -/
def ofContent (content : Octets) : Name := ⟨Hash.sha512 content⟩

/-- The name of several strings, the digest of them one after another. -/
def ofParts (parts : List Octets) : Name := ofContent parts.flatten

/-- Is any octet of the name not zero? -/
def isSet (name : Name) : Bool := name.octets.any (· != 0)

/-! ## Hexadecimal form -/

/-- A name in hexadecimal, 128 lower-case digits. -/
def toHex (name : Name) : String := Octets.toHex name.octets

/-- Why a text is not a name in hexadecimal. -/
inductive HexFault where
  /-- The text is not made of pairs of digits. -/
  | notHex
  /-- The pairs are not 64. -/
  | size (mismatch : SizeMismatch)
  deriving DecidableEq, Repr

/-- The name that a text writes in hexadecimal, white space at its ends and ASCII white space
between pairs not counted. -/
def ofHex (text : String) : Except HexFault Name :=
  match Octets.ofHex? (Text.strip text).toList with
  | none => .error .notHex
  | some octets =>
    match Fixed.ofField size "NameType" octets with
    | .ok id => .ok ⟨id⟩
    | .error mismatch => .error (.size mismatch)

/-- A name in short: its first eight octets in hexadecimal. -/
def brief (name : Name) : String := "NameType(" ++ Octets.toHex (name.octets.take 8) ++ "..)"

end Name

end Overlay
