/-
# Overlay.Decimal.Shortest — the fewest digits that read back as the same number

A binary floating-point number of 64 bits stands for a whole interval of real
numbers, those that round to it.  Among the decimals inside the interval the
shortest is chosen, and among the shortest the one nearest the number; an exact
tie goes to the even digit.

The number is `m * 2 ^ q` in exact integers (`Binary.significand`,
`Binary.exponent`), and the ends of its interval are multiplied out to one common
denominator, so every comparison is one of naturals.  Seventeen digits always
suffice, so the search over the number of digits is bounded.
-/
import Overlay.Power

namespace Overlay.Decimal

set_option autoImplicit false

/-- A finite positive floating-point number `significand * 2 ^ exponent`. -/
structure Binary where
  significand : Nat
  exponent : Int
  deriving DecidableEq, Repr

/-- A positive decimal `digits * 10 ^ exponent`. -/
structure Digits where
  digits : Nat
  exponent : Int
  deriving DecidableEq, Repr

/-- What the 64 bits of a floating-point number say. -/
inductive Parts where
  | nan
  | infinite (negative : Bool)
  | zero (negative : Bool)
  | finite (negative : Bool) (value : Binary)
  deriving DecidableEq, Repr

/-- The parts of a floating-point number given by its bits. -/
def Parts.ofBits (bits : UInt64) : Parts :=
  let n := bits.toNat
  let negative : Bool := n / 2 ^ 63 == 1
  let biased : Nat := n / 2 ^ 52 % 2 ^ 11
  let fraction : Nat := n % 2 ^ 52
  if biased = 0x7FF then
    if fraction = 0 then .infinite negative else .nan
  else if biased = 0 then
    if fraction = 0 then .zero negative else .finite negative ⟨fraction, -1074⟩
  else .finite negative ⟨2 ^ 52 + fraction, (biased : Int) - 1075⟩

/-- The interval of reals that round to a number, in quarters of its last place: the distances
down and up.  Below a power of two the neighbour underneath is only half as far away. -/
def Binary.reach (b : Binary) : Nat × Nat :=
  if b.significand = 2 ^ 52 && -1074 < b.exponent then (1, 2) else (2, 2)

/-- The number of decimal digits of a natural. -/
def width (n : Nat) : Nat := (Nat.toDigits 10 n).length

/-- The decimals with the given exponent that stand on either side of `num / den`, nearest first,
when at least one lies inside the interval between `low / den` and `high / den`. -/
def nearestInside (num low high den : Nat) (closed : Bool) (exponent : Int) : Option Nat :=
  let scaleUp := if exponent < 0 then 10 ^ (-exponent).toNat else 1
  let scaleDown := if exponent < 0 then 1 else 10 ^ exponent.toNat
  let unit := den * scaleDown
  let below := num * scaleUp / unit
  let inside (d : Nat) : Bool :=
    let point := d * unit
    if closed then low * scaleUp ≤ point && point ≤ high * scaleUp
    else low * scaleUp < point && point < high * scaleUp
  let above := below + 1
  let downward := num * scaleUp - below * unit
  let upward := above * unit - num * scaleUp
  let preferAbove := upward < downward || (upward = downward && below % 2 = 1)
  match inside below && 0 < below, inside above with
  | true, true => some (if preferAbove then above else below)
  | true, false => some below
  | false, true => some above
  | false, false => none

/-- The decimal exponent of the first digit of `num / den`, counted so that one has exponent 0. -/
def leadingExponent (num den : Nat) : Int :=
  let guess : Int := (width num : Int) - (width den : Int)
  let reaches :=
    if 0 ≤ guess then den * 10 ^ guess.toNat ≤ num else den ≤ num * 10 ^ (-guess).toNat
  if reaches then guess else guess - 1

/-- The shortest decimal that reads back as the number. -/
def Binary.shortest (b : Binary) : Digits :=
  let (down, up) := b.reach
  let up2 := if b.exponent < 2 then 1 else 2 ^ (b.exponent - 2).toNat
  let den := if b.exponent < 2 then 2 ^ (2 - b.exponent).toNat else 1
  let num := 4 * b.significand * up2
  let low := (4 * b.significand - down) * up2
  let high := (4 * b.significand + up) * up2
  let closed := b.significand % 2 = 0
  let top := leadingExponent num den
  let candidate (count : Nat) : Option Digits :=
    let exponent := top - (count : Int) + 1
    (nearestInside num low high den closed exponent).map (⟨·, exponent⟩)
  ((List.range 17).findSome? fun i => candidate (i + 1)).getD ⟨num * 10 ^ 17 / den, -17⟩

end Overlay.Decimal
