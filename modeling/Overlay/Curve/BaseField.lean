/-
# Overlay.Curve.BaseField — arithmetic modulo 2 ^ 255 - 19

The two curves below are defined over one prime field.  Its elements are naturals
below `prime`, and every operation returns one.  Powers are taken by squaring along
the bits of the exponent, the highest first (`bits`).
-/
import Overlay.Power

namespace Overlay.Curve

set_option autoImplicit false

/-- The prime `2 ^ 255 - 19`. -/
def prime : Nat := 2 ^ 255 - 19

namespace BaseField

def add (a b : Nat) : Nat := (a + b) % prime

def neg (a : Nat) : Nat := (prime - a % prime) % prime

def sub (a b : Nat) : Nat := (a + (prime - b % prime)) % prime

def mul (a b : Nat) : Nat := a * b % prime

def square (a : Nat) : Nat := mul a a

end BaseField

/-- The `width` low bits of a natural, the highest first. -/
def bits (width n : Nat) : List Bool := ((List.range width).map n.testBit).reverse

namespace BaseField

/-- A power, by squaring along the 256 low bits of the exponent. -/
def pow (a n : Nat) : Nat :=
  (bits 256 n).foldl (fun r bit => if bit then mul (square r) a else square r) 1

/-- The inverse of an element, and zero for zero. -/
def inverse (a : Nat) : Nat := pow a (prime - 2)

/-- A square root of `-1`. -/
def rootOfMinusOne : Nat := 19681161376707505956807079304988542015446066515923890162744021073123829784752

/-- A square root of `u / v`, if there is one. -/
def rootOfRatio? (u v : Nat) : Option Nat :=
  let v3 := mul (square v) v
  let v7 := mul (square v3) v
  let root := mul (mul u v3) (pow (mul u v7) ((prime - 5) / 8))
  let image := mul v (square root)
  if image = u % prime then some root
  else if image = neg u then some (mul root rootOfMinusOne)
  else none

end BaseField

end Overlay.Curve
