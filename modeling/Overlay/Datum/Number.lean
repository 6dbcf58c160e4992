/-
# Overlay.Datum.Number — when values of different sorts are the same number

A boolean is the integer one or zero, a registered tag is the integer of its number,
and a floating-point number without a fraction is the integer of its value, so values
of four sorts can be the same number.  `number?` gives a value's number in a form in
which equal numbers are equal terms; a number that is not one has none.
-/
import Overlay.Datum.Basic
import Overlay.Decimal.Shortest

namespace Overlay

set_option autoImplicit false

/-- A number, in the one form that all values equal to it share. -/
inductive Number where
  | whole (value : Int)
  /-- A floating-point number with a fraction, or an infinite one, by its bits. -/
  | other (bits : UInt64)
  deriving DecidableEq, Repr

namespace Decimal.Binary

/-- The number without its fraction. -/
def whole (b : Binary) : Nat :=
  if 0 ≤ b.exponent then b.significand * 2 ^ b.exponent.toNat
  else b.significand / 2 ^ (-b.exponent).toNat

/-- Has the number no fraction? -/
def isWhole (b : Binary) : Bool :=
  0 ≤ b.exponent || b.significand % 2 ^ (-b.exponent).toNat == 0

end Decimal.Binary

/-- An integer with a sign of its own. -/
def signedInt (negative : Bool) (n : Nat) : Int := if negative then -(n : Int) else n

namespace Number

/-- The number that the bits of a floating-point number stand for. -/
def ofBits? (bits : UInt64) : Option Number :=
  match Decimal.Parts.ofBits bits with
  | .nan => none
  | .infinite _ => some (.other bits)
  | .zero _ => some (.whole 0)
  | .finite negative b =>
    some (if b.isWhole then .whole (signedInt negative b.whole) else .other bits)

end Number

namespace Datum

/-- The number that a value is. -/
def number? : Datum → Option Number
  | .bool value => some (.whole (if value then 1 else 0))
  | .int value => some (.whole value)
  | .registered t => some (.whole t.number)
  | .float bits _ => Number.ofBits? bits
  | _ => Option.none

/-- Is the value of a sort that holds numbers? -/
def isNumeric : Datum → Bool
  | .bool _ | .int _ | .float _ _ | .registered _ => true
  | _ => false

/-- The registered tag that a value equals. -/
def registeredTag? (datum : Datum) : Option Tag :=
  match datum.number? with
  | some (.whole (.ofNat n)) => Tag.ofNumber? n
  | _ => Option.none

end Datum

end Overlay
