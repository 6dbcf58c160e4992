/-
# Overlay.Curve.X25519 — public keys of the box

X25519 (RFC 7748) multiplies points of the Montgomery curve by their `u` coordinate
alone.  The ladder keeps two neighbouring multiples and moves both on at each bit of
the scalar; the public key of a box is the multiple of the base point `u = 9` by the
clamped secret.
-/
import Overlay.Curve.Ed25519

namespace Overlay.Curve.X25519

set_option autoImplicit false

open BaseField

/-- Two neighbouring multiples of a point, by projective `u` coordinates. -/
structure Rungs where
  x2 : Nat
  z2 : Nat
  x3 : Nat
  z3 : Nat

/-- The double of the first multiple and the sum of both, for a base point of coordinate `u`. -/
def climb (u : Nat) (r : Rungs) : Rungs :=
  let a := add r.x2 r.z2
  let b := sub r.x2 r.z2
  let aa := square a
  let bb := square b
  let e := sub aa bb
  let da := mul (sub r.x3 r.z3) a
  let cb := mul (add r.x3 r.z3) b
  ⟨mul aa bb, mul e (add aa (mul 121665 e)),
    square (add da cb), mul u (square (sub da cb))⟩

/-- The two multiples in the other order. -/
def swap (r : Rungs) : Rungs := ⟨r.x3, r.z3, r.x2, r.z2⟩

/-- The `u` coordinate of a multiple of the point with coordinate `u`. -/
def multiple (n u : Nat) : Nat :=
  let step (r : Rungs) (bit : Bool) : Rungs :=
    if bit then swap (climb u (swap r)) else climb u r
  let last := (bits 255 n).foldl step ⟨1, 0, u, 1⟩
  mul last.x2 (inverse last.z2)

/-- The public key of a secret box key. -/
def publicKey (secret : Key) : Key :=
  let scalar := Ed25519.clamp (Octets.ofLittleEndian secret.octets)
  ⟨Octets.littleEndian 32 (multiple scalar 9), by simp⟩

end Overlay.Curve.X25519
