/-
# Overlay.Hexadecimal — a floating-point number in hexadecimal

A binary number has a finite text in hexadecimal, which loses nothing: the digit
before the point, the 13 digits of the 52 bits after it, and the power of two that
they are multiplied by.  The digit before the point is one, but zero for the numbers
too small for that.
-/
import Overlay.Decimal.Shortest

namespace Overlay.Hexadecimal

set_option autoImplicit false

open Overlay.Decimal (Binary Parts)

/-- The 13 hexadecimal digits of 52 bits. -/
def fractionDigits (bits : Nat) : List Char :=
  let digits := Nat.toDigits 16 bits
  List.replicate (13 - digits.length) '0' ++ digits

/-- An integer with a sign in any case. -/
def signedText (value : Int) : String := (if value < 0 then "-" else "+") ++ toString value.natAbs

/-- The text of a finite positive number. -/
def finiteText (b : Binary) : String :=
  let lead := b.significand / 2 ^ 52
  "0x" ++ toString lead ++ "." ++ String.ofList (fractionDigits (b.significand % 2 ^ 52)) ++ "p" ++
    signedText (b.exponent + 52)

/-- The text of the floating-point number with the given bits. -/
def floatText (bits : UInt64) : String :=
  let signed (negative : Bool) (text : String) := if negative then "-" ++ text else text
  match Parts.ofBits bits with
  | .nan => "nan"
  | .infinite negative => signed negative "inf"
  | .zero negative => signed negative "0x0.0p+0"
  | .finite negative b => signed negative (finiteText b)

end Overlay.Hexadecimal
