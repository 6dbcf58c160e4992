/-
# Overlay.Proofs.Octets.Distance -- strings compared by their numbers, and combined by exclusive or

Strings of one length compare as the numbers that they write (`ofBigEndian_lt_iff`): the first
octet at which they differ outweighs all that follow, as these are less than one of it.  So a
string is settled by its length and its number (`eq_of_ofBigEndian_eq`).

Exclusive or with a string undoes itself (`xor_xor_cancel_right`), and a way round through a third
string combines the two ways (`xor_eq_xor_xor_xor`).  Its number is at most the sum of the two
numbers (`ofBigEndian_xor_le`): exclusive or is addition without the carries, in every octet and
therefore in the whole.
-/
import Overlay.Octets.Number

namespace Overlay.Octets

set_option autoImplicit false

/-! ## The order of strings -/

/-- A digit with what follows it, in any base that what follows stays below. -/
theorem mul_add_lt_mul_add_iff {base x y low low' : Nat} (below : low < base)
    (below' : low' < base) :
    x * base + low < y * base + low' ↔ x < y ∨ x = y ∧ low < low' := by
  rcases Nat.lt_trichotomy x y with less | rfl | more
  · have scaled : (x + 1) * base ≤ y * base := Nat.mul_le_mul_right base less
    rw [Nat.succ_mul] at scaled
    omega
  · omega
  · have scaled : (y + 1) * base ≤ x * base := Nat.mul_le_mul_right base more
    rw [Nat.succ_mul] at scaled
    omega

/-- Strings of one length are in the order of their numbers. -/
theorem ofBigEndian_lt_iff {a b : Octets} (same : a.length = b.length) :
    ofBigEndian a < ofBigEndian b ↔ a < b := by
  induction a generalizing b with
  | nil =>
      obtain rfl := List.eq_nil_of_length_eq_zero same.symm
      simp
  | cons x a ih =>
      cases b with
      | nil => simp at same
      | cons y b =>
          have same' : a.length = b.length := Nat.succ.inj same
          have below := ofBigEndian_lt a
          have below' := ofBigEndian_lt b
          rw [← same'] at below'
          rw [ofBigEndian_cons, ofBigEndian_cons, ← same',
            mul_add_lt_mul_add_iff below below', ih same', List.cons_lt_cons_iff,
            UInt8.lt_iff_toNat_lt, UInt8.toNat_inj]

theorem ofBigEndian_le_iff {a b : Octets} (same : a.length = b.length) :
    ofBigEndian a ≤ ofBigEndian b ↔ a ≤ b := by
  rw [← Nat.not_lt, ofBigEndian_lt_iff same.symm, List.not_lt]

/-- Its length and its number settle a string. -/
theorem eq_of_ofBigEndian_eq {a b : Octets} (same : a.length = b.length)
    (numbers : ofBigEndian a = ofBigEndian b) : a = b :=
  calc a
    _ = bigEndian a.length (ofBigEndian a) := (bigEndian_ofBigEndian a).symm
    _ = bigEndian b.length (ofBigEndian b) := by rw [same, numbers]
    _ = b := bigEndian_ofBigEndian b

/-! ## Exclusive or -/

theorem xor_comm (a b : Octets) : xor a b = xor b a :=
  List.zipWith_comm_of_comm UInt8.xor_comm

/-- Combined with a string twice, another string is itself again. -/
theorem xor_xor_cancel_right {a b : Octets} (fits : a.length ≤ b.length) :
    xor (xor a b) b = a := by
  induction a generalizing b with
  | nil => rfl
  | cons x a ih =>
      cases b with
      | nil => simp at fits
      | cons y b =>
          have rest : xor (xor a b) b = a := ih (Nat.le_of_succ_le_succ fits)
          have octet : x ^^^ y ^^^ y = x := by rw [UInt8.xor_assoc, UInt8.xor_self, UInt8.xor_zero]
          exact List.cons_eq_cons.2 ⟨octet, rest⟩

theorem xor_eq_xor_xor_xor {a b c : Octets} (ab : a.length = b.length) (bc : b.length = c.length) :
    xor a c = xor (xor a b) (xor b c) := by
  induction a generalizing b c with
  | nil => rfl
  | cons x a ih =>
      cases b with
      | nil => simp at ab
      | cons y b =>
          cases c with
          | nil => simp at bc
          | cons z c =>
              have rest : xor a c = xor (xor a b) (xor b c) :=
                ih (Nat.succ.inj ab) (Nat.succ.inj bc)
              have octet : x ^^^ z = (x ^^^ y) ^^^ (y ^^^ z) := by
                rw [UInt8.xor_assoc, ← UInt8.xor_assoc y, UInt8.xor_self, UInt8.zero_xor]
              exact List.cons_eq_cons.2 ⟨octet, rest⟩

theorem ofBigEndian_xor_self (a : Octets) : ofBigEndian (xor a a) = 0 := by
  induction a with
  | nil => rfl
  | cons x a ih =>
      have split : xor (x :: a) (x :: a) = (x ^^^ x) :: xor a a := rfl
      rw [split, ofBigEndian_cons, UInt8.xor_self, ih]
      simp

/-- Bit by bit exclusive or is the sum less its carry, which goes to a higher bit. -/
theorem natXor_le_add (m n : Nat) : m ^^^ n ≤ m + n := by
  induction m using Nat.strongRecOn generalizing n with
  | ind m ih =>
      rcases Nat.eq_zero_or_pos m with rfl | positive
      · simp
      · have high : m / 2 ^^^ n / 2 ≤ m / 2 + n / 2 := ih (m / 2) (by omega) (n / 2)
        have half : (m ^^^ n) / 2 = m / 2 ^^^ n / 2 := Nat.xor_div_two
        have bit : (m ^^^ n) % 2 = 1 ↔ ¬(m % 2 = 1 ↔ n % 2 = 1) := Nat.xor_mod_two_eq_one
        omega

theorem ofBigEndian_xor_le {a b : Octets} (same : a.length = b.length) :
    ofBigEndian (xor a b) ≤ ofBigEndian a + ofBigEndian b := by
  induction a generalizing b with
  | nil => simp [xor]
  | cons x a ih =>
      cases b with
      | nil => simp at same
      | cons y b =>
          have same' : a.length = b.length := Nat.succ.inj same
          have rest : ofBigEndian (xor a b) ≤ ofBigEndian a + ofBigEndian b := ih same'
          have octet : (x ^^^ y).toNat ≤ x.toNat + y.toNat := by
            rw [UInt8.toNat_xor]
            exact natXor_le_add x.toNat y.toNat
          have scaled := Nat.mul_le_mul_right (256 ^ a.length) octet
          have split : xor (x :: a) (y :: b) = (x ^^^ y) :: xor a b := rfl
          rw [split, ofBigEndian_cons, ofBigEndian_cons, ofBigEndian_cons, length_xor, ← same',
            Nat.min_self]
          rw [Nat.add_mul] at scaled
          omega

end Overlay.Octets
