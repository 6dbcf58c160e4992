/-
# Overlay.Curve.Edwards — points of the twisted Edwards curve, and their 32 octets

The curve is `-x² + y² = 1 + d x² y²`.  Points are kept in extended coordinates
`(X : Y : Z : T)` with `x = X / Z`, `y = Y / Z` and `x y = T / Z`, for which one
addition formula covers all pairs of points.

A point is written as its `y` in 255 bits, low octet first, with the parity of its
`x` above them.  Reading is liberal in two respects: `y` is taken modulo the prime,
and the sign bit of a point with `x = 0` is ignored.
-/
import Overlay.Curve.BaseField
import Overlay.Octets.Fixed
import Overlay.Octets.Number

namespace Overlay.Curve

set_option autoImplicit false

open BaseField

/-- A point in extended coordinates. -/
structure Point where
  x : Nat
  y : Nat
  z : Nat
  t : Nat

namespace Point

/-- The constant of the curve. -/
def d : Nat := 37095705934669439343138083508754565189542113879843219016388785533085940283555

/-- The point by its two affine coordinates. -/
def affine (x y : Nat) : Point := ⟨x, y, 1, mul x y⟩

/-- The neutral point. -/
def neutral : Point := ⟨0, 1, 1, 0⟩

/-- The base point, of prime order. -/
def base : Point := affine
  15112221349535400772501151409588531511454012693041857206046113283949847762202
  46316835694926478169428394003475163141307993866256225615783033603165251855960

/-- The sum of two points. -/
def add (p q : Point) : Point :=
  let a := mul (sub p.y p.x) (sub q.y q.x)
  let b := mul (p.y + p.x) (q.y + q.x)
  let c := mul (mul p.t (2 * d)) q.t
  let e := mul (2 * p.z) q.z
  let f := sub b a
  let g := sub e c
  let h := BaseField.add e c
  let i := BaseField.add b a
  ⟨mul f g, mul h i, mul g h, mul f i⟩

/-- Twice a point. -/
def double (p : Point) : Point :=
  let a := square p.x
  let b := square p.y
  let c := 2 * square p.z
  let h := BaseField.add a b
  let e := sub h (square (p.x + p.y))
  let g := sub a b
  let f := BaseField.add c g
  ⟨mul e f, mul g h, mul f g, mul e h⟩

/-- The point with the opposite `x`. -/
def negate (p : Point) : Point := ⟨neg p.x, p.y, p.z, neg p.t⟩

/-- A multiple of a point, along the 256 low bits of the factor. -/
def multiple (n : Nat) (p : Point) : Point :=
  (bits 256 n).foldl (fun r bit => if bit then r.double.add p else r.double) neutral

/-- The 32 octets of a point. -/
def write (p : Point) : Fixed 32 :=
  let scale := inverse p.z
  let x := mul p.x scale
  let y := mul p.y scale
  ⟨Octets.littleEndian 32 (y + x % 2 * 2 ^ 255), by simp⟩

/-- The point that 32 octets write; some write none. -/
def read? (octets : Fixed 32) : Option Point :=
  let n := Octets.ofLittleEndian octets.octets
  let odd := n / 2 ^ 255
  let y := n % 2 ^ 255 % prime
  let yy := square y
  (rootOfRatio? (sub yy 1) (BaseField.add (mul d yy) 1)).map fun root =>
    affine (if root % 2 = odd then root else neg root) y

end Point

end Overlay.Curve
