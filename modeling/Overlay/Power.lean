/-
# Overlay.Power — powers of integers

Powers are only ever taken of natural numbers and integers.  A library of algebra has
a power of its own for these, the same function under another name.  The built-in one
is preferred to it, so that a bound such as `2 ^ 64` is the same term wherever it is
written.
-/

namespace Overlay

set_option autoImplicit false

@[default_instance 20000]
instance (priority := 1100) builtInPower {α : Type} [NatPow α] : Pow α Nat := instPowNat

end Overlay
