/-
# Overlay.Octets.Number — naturals as octets of a fixed width

`bigEndian w n` writes the `w` low octets of `n`, the most significant first, and
`ofBigEndian` reads a whole string back; `littleEndian` and `ofLittleEndian` are
the same pair with the least significant octet first.  Reading after writing is
the remainder modulo `256 ^ w` (`ofBigEndian_bigEndian`), and a string is written again
as it was (`bigEndian_ofBigEndian`).
-/
import Overlay.Octets
import Overlay.Power

namespace Overlay.Octets

set_option autoImplicit false

/-- The `width` low octets of `n`, most significant first. -/
def bigEndian : (width : Nat) → (n : Nat) → Octets
  | 0, _ => []
  | width + 1, n => UInt8.ofNat (n / 256 ^ width) :: bigEndian width n

/-- The number that a string of octets writes, most significant first. -/
def ofBigEndian (octets : Octets) : Nat :=
  octets.foldl (fun n octet => n * 256 + octet.toNat) 0

/-- The `width` low octets of `n`, least significant first. -/
def littleEndian : (width : Nat) → (n : Nat) → Octets
  | 0, _ => []
  | width + 1, n => UInt8.ofNat n :: littleEndian width (n / 256)

/-- The number that a string of octets writes, least significant first. -/
def ofLittleEndian (octets : Octets) : Nat :=
  octets.foldr (fun octet n => octet.toNat + 256 * n) 0

@[simp] theorem length_bigEndian (width n : Nat) : (bigEndian width n).length = width := by
  induction width with
  | zero => rfl
  | succ width ih => simp [bigEndian, ih]

@[simp] theorem length_littleEndian (width n : Nat) : (littleEndian width n).length = width := by
  induction width generalizing n with
  | zero => rfl
  | succ width ih => simp [littleEndian, ih]

private theorem foldl_bigEndian (octets : Octets) (n : Nat) :
    octets.foldl (fun n octet => n * 256 + octet.toNat) n =
      n * 256 ^ octets.length + ofBigEndian octets := by
  induction octets generalizing n with
  | nil => simp [ofBigEndian]
  | cons octet rest ih =>
    have whole : ofBigEndian (octet :: rest) =
        (0 * 256 + octet.toNat) * 256 ^ rest.length + ofBigEndian rest := ih _
    rw [List.foldl_cons, ih, whole, List.length_cons, Nat.pow_succ, Nat.add_mul, Nat.zero_mul,
      Nat.zero_add, Nat.mul_assoc, Nat.mul_comm 256, Nat.add_assoc]

@[simp] theorem ofBigEndian_nil : ofBigEndian [] = 0 := rfl

theorem ofBigEndian_cons (octet : UInt8) (rest : Octets) :
    ofBigEndian (octet :: rest) = octet.toNat * 256 ^ rest.length + ofBigEndian rest := by
  have h := foldl_bigEndian rest (0 * 256 + octet.toNat)
  simpa [ofBigEndian] using h

theorem ofBigEndian_lt (octets : Octets) : ofBigEndian octets < 256 ^ octets.length := by
  induction octets with
  | nil => simp
  | cons octet rest ih =>
    rw [ofBigEndian_cons, List.length_cons, Nat.pow_succ]
    have top : octet.toNat ≤ 255 := by have := octet.toNat_lt; omega
    have scaled := Nat.mul_le_mul_right (256 ^ rest.length) top
    omega

/-- What is read back is the number, as far as the width holds it. -/
theorem ofBigEndian_bigEndian (width n : Nat) :
    ofBigEndian (bigEndian width n) = n % 256 ^ width := by
  induction width with
  | zero => simp [bigEndian, Nat.mod_one]
  | succ width ih =>
    rw [bigEndian, ofBigEndian_cons, length_bigEndian, ih, UInt8.toNat_ofNat']
    have split : n / 256 ^ width % 2 ^ 8 = n / 256 ^ width % 256 := rfl
    rw [split, Nat.pow_succ, Nat.mod_mul, Nat.mul_comm]
    omega

theorem ofBigEndian_bigEndian_of_lt {width n : Nat} (h : n < 256 ^ width) :
    ofBigEndian (bigEndian width n) = n := by
  rw [ofBigEndian_bigEndian, Nat.mod_eq_of_lt h]

/-- Writing only looks at what the width holds. -/
theorem bigEndian_add_mul (width a b : Nat) :
    bigEndian width (a + 256 ^ width * b) = bigEndian width a := by
  induction width generalizing b with
  | zero => rfl
  | succ width ih =>
    have top : (a + 256 ^ (width + 1) * b) / 256 ^ width = a / 256 ^ width + 256 * b := by
      rw [Nat.pow_succ, Nat.mul_assoc, Nat.add_mul_div_left _ _ (Nat.pow_pos (by decide))]
    have same : UInt8.ofNat (a / 256 ^ width + 256 * b) = UInt8.ofNat (a / 256 ^ width) := by
      apply UInt8.toNat_inj.1
      simp
    rw [bigEndian, bigEndian, top, same, Nat.pow_succ, Nat.mul_assoc, ih]

/-- Every string is what its number is written as. -/
theorem bigEndian_ofBigEndian (octets : Octets) :
    bigEndian octets.length (ofBigEndian octets) = octets := by
  induction octets with
  | nil => rfl
  | cons octet rest ih =>
    have below := ofBigEndian_lt rest
    have top : ofBigEndian (octet :: rest) / 256 ^ rest.length = octet.toNat := by
      rw [ofBigEndian_cons, Nat.mul_comm, Nat.mul_add_div (Nat.pow_pos (by decide)),
        Nat.div_eq_of_lt below, Nat.add_zero]
    rw [List.length_cons, bigEndian, top, ofBigEndian_cons, Nat.add_comm, Nat.mul_comm,
      bigEndian_add_mul, ih]
    simp

end Overlay.Octets
