/-
# Overlay.Datum.Reading — a value read as an integer, as octets, as items

Three readings serve wherever a value of one sort may stand for another.  An integer
is read from any number, its fraction dropped, and from a numeral in text or octets.
Octets are read from octets, from a count of zeros and from items that are octet
values.  Items are those of a list, tuple or map, the characters of a text, and the
values of octets.
-/
import Overlay.Datum.Number
import Overlay.Datum.Text
import Overlay.Fault
import Overlay.Text.Numeral

namespace Overlay.Datum

set_option autoImplicit false

/-- White space around a numeral: that of Unicode, without the ASCII separators. -/
def integerOfText? (text : List Char) : Option Int :=
  Text.integer? Text.digit? (Text.trim Text.isSpace text)

/-- The integer that octets write in ASCII. -/
def integerOfOctets? (octets : Octets) : Option Int :=
  if octets.all (· < 0x80) then
    Text.integer? Text.asciiDigit?
      (Text.trim Text.isAsciiBlank (octets.map fun octet => Char.ofNat octet.toNat))
  else Option.none

/-- What was found, or else a fault. -/
def orFault {α : Type} (fault : Fault) : Option α → Except Fault α
  | some a => .ok a
  | Option.none => .error fault

/-- The integer that a value is read as. -/
def toInt : Datum → Except Fault Int
  | .bool value => .ok (if value then 1 else 0)
  | .int value => .ok value
  | .registered t => .ok t.number
  | .float bits _ =>
    match Decimal.Parts.ofBits bits with
    | .nan => .error .outside
    | .infinite _ => .error .overflow
    | .zero _ => .ok 0
    | .finite negative b => .ok (signedInt negative b.whole)
  | .text t => orFault .outside (integerOfText? t.toList)
  | .octets _ o => orFault .outside (integerOfOctets? o)
  | _ => .error .unfit

/-- The items of a value. -/
def items : Datum → Except Fault (List Datum)
  | .list items | .tuple items => .ok items
  | .mapping entries => .ok (entries.map Prod.fst)
  | .text t => .ok (t.toList.map fun c => .text (String.singleton c))
  | .octets _ o => .ok (o.map fun octet => .int octet.toNat)
  | .ext code data => .ok [.int code.toNat, ofOctets data]
  | _ => .error .unfit

/-- The octet that an item of octets is. -/
def toOctet : Datum → Except Fault UInt8
  | .bool value => .ok (if value then 1 else 0)
  | datum =>
    match datum.int? with
    | some value =>
      if 0 ≤ value && value < 256 then .ok (UInt8.ofNat value.toNat) else .error .outside
    | Option.none => .error .unfit

/-- So many zeros, if there can be so many and memory for them. -/
def zeros (count : Int) : Except Fault Octets :=
  if count < 0 then
    .error (if count < -2 ^ 63 then .overflow else .outside)
  else if 2 ^ 63 - 34 < count then .error .overflow
  else if 2 ^ 32 ≤ count then .error .exhausted
  else .ok (List.replicate count.toNat 0)

/-- The octets that a value is read as. -/
def toOctets : Datum → Except Fault Octets
  | .octets _ o => .ok o
  | .bool value => zeros (if value then 1 else 0)
  | .int value => zeros value
  | .registered t => zeros t.number
  | .text _ => .error .unfit
  | datum => do (← datum.items).mapM toOctet

/-- The octets of a value that is octets. -/
def octets? : Datum → Option Octets
  | .octets _ o => some o
  | _ => Option.none

/-- The two items of a value that has two. -/
def toPair (datum : Datum) : Except Fault (Datum × Datum) := do
  match ← datum.items with
  | [a, b] => return (a, b)
  | _ => .error .outside

/-- A value of fixed length as a field. -/
def toFixed (size : Nat) (field : String) (datum : Datum) : Except Fault (Fixed size) :=
  match datum.octets? with
  | Option.none => .error (.notOctets field datum.typeName)
  | some found =>
    match Fixed.ofField size field found with
    | .ok fixed => .ok fixed
    | .error mismatch => .error (.size mismatch)

/-- The octets of a value whose length must be what `length` says; a value that is no octets is
refused, or counts as empty where `lenient` says so. -/
def toSized (lenient : Bool) (datum length : Datum) (field : String) : Except Fault Octets := do
  match datum.octets?, lenient with
  | Option.none, false =>
    .error (.notOctets (if field = "" then "buffer" else field) datum.typeName)
  | found, _ =>
    let expected ← length.toInt
    let content := found.getD []
    if found.isSome && (content.length : Int) = expected then return content
    else .error (.size ⟨expected, length.shown, content.length, field⟩)

end Overlay.Datum
