/-
# Overlay.Octets.Hex — octets as pairs of hexadecimal digits

`toHex` writes two lower-case digits an octet.  `ofHex?` reads pairs of either
case and lets ASCII white space stand between pairs, never inside one; every other
character, and a digit without its partner, is refused.  Reading what was written
gives the octets back (`ofHex?_hexDigits`).
-/
import Overlay.Octets
import Overlay.Text.Blank

namespace Overlay.Octets

set_option autoImplicit false

open Overlay.Text (isAsciiBlank)

/-- The lower-case hexadecimal digit of a number below sixteen. -/
def hexDigit (n : Nat) : Char :=
  if n < 10 then Char.ofNat (0x30 + n) else Char.ofNat (0x57 + n)

/-- The value of a hexadecimal digit of either case. -/
def hexDigit? (c : Char) : Option Nat :=
  let n := c.toNat
  if 0x30 ≤ n && n ≤ 0x39 then some (n - 0x30)
  else if 0x61 ≤ n && n ≤ 0x66 then some (n - 0x57)
  else if 0x41 ≤ n && n ≤ 0x46 then some (n - 0x37)
  else none

/-- The two hexadecimal digits of every octet. -/
def hexDigits (octets : Octets) : List Char :=
  octets.flatMap fun octet => [hexDigit (octet.toNat / 16), hexDigit (octet.toNat % 16)]

/-- The octets as text in hexadecimal. -/
def toHex (octets : Octets) : String := String.ofList (hexDigits octets)

/-- The octets that pairs of hexadecimal digits write. -/
def ofHex? : List Char → Option Octets
  | [] => some []
  | [c] => if isAsciiBlank c then some [] else none
  | c :: d :: rest =>
    if isAsciiBlank c then ofHex? (d :: rest)
    else
      match hexDigit? c, hexDigit? d with
      | some high, some low => (ofHex? rest).map (UInt8.ofNat (16 * high + low) :: ·)
      | _, _ => none

theorem hexDigit?_hexDigit {n : Nat} (h : n < 16) : hexDigit? (hexDigit n) = some n := by
  revert n; decide

theorem isAsciiBlank_hexDigit {n : Nat} (h : n < 16) : isAsciiBlank (hexDigit n) = false := by
  revert n; decide

theorem exists_of_mem_hexDigits {octets : Octets} {c : Char} (h : c ∈ hexDigits octets) :
    ∃ n, n < 16 ∧ c = hexDigit n := by
  simp only [hexDigits, List.mem_flatMap, List.mem_cons, List.not_mem_nil, or_false] at h
  obtain ⟨octet, -, rfl | rfl⟩ := h
  · have bound := octet.toNat_lt
    exact ⟨octet.toNat / 16, by omega, rfl⟩
  · exact ⟨octet.toNat % 16, by omega, rfl⟩

/-- What is written in hexadecimal reads back. -/
theorem ofHex?_hexDigits (octets : Octets) : ofHex? (hexDigits octets) = some octets := by
  induction octets with
  | nil => rfl
  | cons octet rest ih =>
    have bound := octet.toNat_lt
    have high : octet.toNat / 16 < 16 := by omega
    have low : octet.toNat % 16 < 16 := by omega
    have digits : hexDigits (octet :: rest) =
        hexDigit (octet.toNat / 16) :: hexDigit (octet.toNat % 16) :: hexDigits rest := rfl
    have whole : 16 * (octet.toNat / 16) + octet.toNat % 16 = octet.toNat := by omega
    simp [digits, ofHex?, isAsciiBlank_hexDigit high, hexDigit?_hexDigit high,
      hexDigit?_hexDigit low, ih, whole]

end Overlay.Octets
