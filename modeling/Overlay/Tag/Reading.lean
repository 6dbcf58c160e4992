/-
# Overlay.Tag.Reading — which values are read as a tag number

A tag is an integer from 0 up to, not including, `2 ^ 64`.  Where text is accepted,
a text or octets of ASCII digits alone are read as the number they write, leading
zeros included; nothing else is, no sign, no blank and no digit of another script.
A boolean is never a tag.

Every refusal is a `TagFault` with a text of bounded length.  One case stands apart:
a numeral of more than `maxDigits` digits is not converted at all, and is reported as
`oversized` rather than refused.
-/
import Overlay.MessagePack.Item
import Overlay.Tag
import Overlay.Text.Digit
import Overlay.Text.Quoted

namespace Overlay

set_option autoImplicit false

/-- Why a value is not a tag number. -/
inductive TagFault where
  | bool
  | outOfRange (value : Int)
  /-- A numeral beyond the range, by its first characters. -/
  | textOutOfRange (excerpt : String)
  | notAscii
  /-- A text that is no numeral, by its first characters. -/
  | notNumeric (excerpt : String)
  | notUtf8
  | wrongType (typeName : String)
  deriving DecidableEq, Repr

/-- The text of a refusal. -/
def TagFault.message : TagFault → String
  | .bool => "tag must be an integer, got bool"
  | .outOfRange value => "tag out of u64 range: " ++ toString value
  | .textOutOfRange excerpt => "tag out of u64 range: " ++ excerpt
  | .notAscii => "non-ascii tag text"
  | .notNumeric excerpt => "non-numeric tag text: " ++ Text.quoted excerpt
  | .notUtf8 => "tag text is not valid utf-8"
  | .wrongType typeName => "invalid tag type: " ++ typeName

/-- Why no tag number was read. -/
inductive TagProblem where
  | refused (fault : TagFault)
  /-- The numeral is too long to be converted. -/
  | oversized
  deriving DecidableEq, Repr

/-- A value that may be a tag, as far as reading it needs to know. -/
inductive RawTag where
  | bool
  | int (value : Int)
  | text (text : String)
  | octets (octets : Octets)
  | other (typeName : String)

/-- An item as a value that may be a tag. -/
def RawTag.ofItem : MessagePack.Item → RawTag
  | .bool _ => .bool
  | .int value => .int value
  | .str t => .text t
  | .bin data => .octets data
  | item => .other item.typeName

namespace Tag

/-- A numeral of more digits than this is not converted. -/
def maxDigits : Nat := 4300

/-- The first characters of a text, as many as a message shows. -/
def excerpt (text : List Char) : String := String.ofList (text.take 32)

/-- The tag number that a text writes. -/
def readText (text : List Char) : Except TagProblem Nat :=
  match text.mapM Text.asciiDigit? with
  | none => .error (.refused (.notNumeric (excerpt text)))
  | some digits =>
    if digits.isEmpty then .error (.refused (.notNumeric (excerpt text)))
    else if maxDigits < digits.length then .error .oversized
    else
      let value := Text.ofDigits digits
      if value < bound then .ok value else .error (.refused (.textOutOfRange (excerpt text)))

/-- The tag number that a value is read as. -/
def read (acceptText : Bool) : RawTag → Except TagProblem Nat
  | .bool => .error (.refused .bool)
  | .int value =>
    if 0 ≤ value && value < bound then .ok value.toNat
    else .error (.refused (.outOfRange value))
  | .text text =>
    if acceptText then readText text.toList else .error (.refused (.wrongType "str"))
  | .octets octets =>
    if acceptText then
      if octets.all (· < 0x80) then readText (octets.map fun octet => Char.ofNat octet.toNat)
      else .error (.refused .notAscii)
    else .error (.refused (.wrongType "bytes"))
  | .other typeName => .error (.refused (.wrongType typeName))

end Tag

end Overlay
