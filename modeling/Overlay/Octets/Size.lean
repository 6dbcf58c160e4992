/-
# Overlay.Octets.Size — octet strings of the wrong length

Where a field has a fixed length, any other length is a `SizeMismatch`.  It carries
the length that was asked for both as a number and in the words of whoever asked,
the length that was found, and the name of the field.
-/
import Overlay.Octets.Fixed

namespace Overlay

set_option autoImplicit false

/-- A field that does not have the length it needs. -/
structure SizeMismatch where
  expected : Int
  /-- The expected length as it was stated. -/
  stated : String
  actual : Nat
  field : String
  deriving DecidableEq, Repr

namespace SizeMismatch

/-- A mismatch with a length stated in digits. -/
def of (expected actual : Nat) (field : String) : SizeMismatch :=
  ⟨expected, toString expected, actual, field⟩

/-- The text of a mismatch; a field without a name is not mentioned. -/
def message (m : SizeMismatch) : String :=
  let place := if m.field = "" then "" else " for '" ++ m.field ++ "'"
  "expected " ++ m.stated ++ " bytes" ++ place ++ ", got " ++ toString m.actual

end SizeMismatch

/-- The octets as a field of fixed length. -/
def Fixed.ofField (size : Nat) (field : String) (octets : Octets) :
    Except SizeMismatch (Fixed size) :=
  match Fixed.of? octets with
  | some fixed => .ok fixed
  | none => .error (.of size octets.length field)

theorem Fixed.ofField_eq_ok_iff {size : Nat} {field : String} {octets : Octets}
    {fixed : Fixed size} : Fixed.ofField size field octets = .ok fixed ↔ octets = fixed.octets := by
  rw [← Fixed.of?_eq_some_iff, Fixed.ofField]
  cases (Fixed.of? octets : Option (Fixed size)) <;> simp

theorem Fixed.ofField_eq_error_iff {size : Nat} {field : String} {octets : Octets}
    {mismatch : SizeMismatch} : Fixed.ofField size field octets = .error mismatch ↔
      octets.length ≠ size ∧ mismatch = .of size octets.length field := by
  rw [← Fixed.of?_eq_none_iff, Fixed.ofField]
  cases (Fixed.of? octets : Option (Fixed size)) <;> simp [eq_comm]

end Overlay
