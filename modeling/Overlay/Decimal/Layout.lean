/-
# Overlay.Decimal.Layout — a floating-point number as text

The digits of `Shortest` are laid out in one of two ways.  A number from `10 ^ -4`
up to, not including, `10 ^ 16` is written positionally and always has a fraction,
if only `.0`; any other has one digit before the point and an exponent with a sign
and at least two digits.  What is written for the numbers that are not finite is
the choice of the place that shows them, `Words`.
-/
import Overlay.Decimal.Shortest

namespace Overlay.Decimal

set_option autoImplicit false

/-- The words for the numbers without digits. -/
structure Words where
  nan : String
  infinity : String

/-- Digits without the zeros at their end. -/
def trimZeros (digits : List Char) : List Char :=
  (digits.reverse.dropWhile (· == '0')).reverse

/-- An exponent: its sign and at least two digits. -/
def exponentText (exponent : Int) : List Char :=
  let digits := Nat.toDigits 10 exponent.natAbs
  (if exponent < 0 then '-' else '+') :: (if digits.length < 2 then '0' :: digits else digits)

/-- A decimal in positional notation where its exponent allows that, else in scientific. -/
def Digits.layout (d : Digits) : List Char :=
  let written := Nat.toDigits 10 d.digits
  let digits := trimZeros written
  -- The point stands after this many digits.
  let point : Int := d.exponent + written.length
  if -4 < point && point ≤ 16 then
    if point ≤ 0 then '0' :: '.' :: List.replicate (-point).toNat '0' ++ digits
    else
      let whole := digits.take point.toNat
      let fraction := digits.drop point.toNat
      whole ++ List.replicate (point.toNat - whole.length) '0' ++ '.' ::
        (if fraction.isEmpty then ['0'] else fraction)
  else
    let tail := digits.drop 1
    digits.take 1 ++ (if tail.isEmpty then [] else '.' :: tail) ++ 'e' :: exponentText (point - 1)

/-- The text of the floating-point number with the given bits. -/
def floatText (words : Words) (bits : UInt64) : String :=
  let signed (negative : Bool) (text : String) := if negative then "-" ++ text else text
  match Parts.ofBits bits with
  | .nan => words.nan
  | .infinite negative => signed negative words.infinity
  | .zero negative => signed negative "0.0"
  | .finite negative value => signed negative (String.ofList value.shortest.layout)

end Overlay.Decimal
