/-
# Overlay.Proofs.Text.Numeral -- digits and the numbers that they write

Digits that do not start with a zero are the decimal form of the number that they write
(`toDigits_ofDigits`), and any digits are that form behind zeros (`exists_isDigits_iff`).  So
the texts that write a number in digits are `padded zeros number`, one for each count of
zeros, and no others.

A text of ASCII has one octet for each character (`ascii`), and those octets give the
characters back.
-/
import Overlay.Proofs.Tag.Spelling

namespace Overlay.Text

set_option autoImplicit false

variable {d : Nat} {digits : List Nat} {text : List Char}

/-- A number in decimal behind so many zeros. -/
def padded (zeros number : Nat) : List Char := List.replicate zeros '0' ++ Nat.toDigits 10 number

/-! ## The decimal form -/

/-- Digits behind a number that is not zero lengthen its decimal form. -/
theorem toDigits_append_map (small : ∀ d ∈ digits, d < 10) {start : Nat} (positive : 0 < start) :
    Nat.toDigits 10 start ++ digits.map Nat.digitChar =
      Nat.toDigits 10 (digits.foldl (fun n d => 10 * n + d) start) := by
  induction digits generalizing start with
  | nil => simp
  | cons d digits ih =>
      obtain ⟨digit, others⟩ := List.forall_mem_cons.1 small
      have longer : Nat.toDigits 10 start ++ [d.digitChar] = Nat.toDigits 10 (10 * start + d) := by
        rw [← Nat.toDigits_append_toDigits (by decide) positive digit,
          Nat.toDigits_of_lt_base digit]
      calc Nat.toDigits 10 start ++ (d :: digits).map Nat.digitChar
        _ = (Nat.toDigits 10 start ++ [d.digitChar]) ++ digits.map Nat.digitChar := by simp
        _ = Nat.toDigits 10 (10 * start + d) ++ digits.map Nat.digitChar := by rw [longer]
        _ = Nat.toDigits 10 (digits.foldl (fun n d => 10 * n + d) (10 * start + d)) :=
            ih others (by omega)

/-- Digits that start with no zero are the decimal form of their number. -/
theorem toDigits_ofDigits (small : ∀ e ∈ d :: digits, e < 10) (positive : 0 < d) :
    Nat.toDigits 10 (ofDigits (d :: digits)) = (d :: digits).map Nat.digitChar := by
  obtain ⟨digit, others⟩ := List.forall_mem_cons.1 small
  have whole := toDigits_append_map others positive
  rw [Nat.toDigits_of_lt_base digit] at whole
  simpa [ofDigits] using whole.symm

theorem ofDigits_pos (positive : 0 < d) : 0 < ofDigits (d :: digits) := by
  -- the number before the digits only grows
  have grows : ∀ start, start ≤ digits.foldl (fun n d => 10 * n + d) start := by
    clear positive
    induction digits with
    | nil => simp
    | cons e digits ih => exact fun start => Nat.le_trans (by omega) (ih (10 * start + e))
  simpa [ofDigits] using Nat.lt_of_lt_of_le positive (grows d)

/-- The decimal form of a number that is not zero does not start with a zero. -/
theorem head?_toDigits_ne {n : Nat} (positive : 0 < n) : (Nat.toDigits 10 n).head? ≠ some '0' := by
  induction n using Nat.strongRecOn with
  | ind n ih =>
      by_cases small : n < 10
      · have digits : ∀ m, m < 10 → 0 < m → [Nat.digitChar m].head? ≠ some '0' := by decide
        rw [Nat.toDigits_of_lt_base small]
        exact digits n small positive
      · rw [Nat.toDigits_of_base_le (by decide) (by omega),
          List.head?_append_of_ne_nil _ Nat.toDigits_ne_nil]
        exact ih (n / 10) (by omega) (by omega)

theorem IsDigits.ofDigits_eq (written : IsDigits digits text) :
    ofDigits digits = Nat.ofDigitChars 10 text 0 := by
  obtain ⟨small, rfl⟩ := written
  unfold ofDigits
  generalize 0 = start
  induction digits generalizing start with
  | nil => rfl
  | cons d digits ih =>
      obtain ⟨digit, others⟩ := List.forall_mem_cons.1 small
      rw [List.foldl_cons, List.map_cons, Nat.ofDigitChars_cons_digitChar_of_lt_ten digit]
      exact ih others _

/-! ## Digits behind zeros -/

theorem ofDigitChars_padded (zeros number : Nat) :
    Nat.ofDigitChars 10 (padded zeros number) 0 = number := by
  rw [padded, Nat.ofDigitChars_append, Nat.ofDigitChars_replicate_zero, Nat.mul_zero,
    Nat.ofDigitChars_ten_toDigits]

theorem padded_ne_nil (zeros number : Nat) : padded zeros number ≠ [] :=
  List.append_ne_nil_of_right_ne_nil _ Nat.toDigits_ne_nil

theorem isDigit_of_mem_padded {zeros number : Nat} {c : Char} (h : c ∈ padded zeros number) :
    c.isDigit = true := by
  rcases List.mem_append.1 h with zero | digit
  · rw [List.eq_of_mem_replicate zero]
    rfl
  · exact Nat.isDigit_of_mem_toDigits (by decide) (by decide) digit

theorem exists_digitChar {c : Char} (h : c.isDigit = true) : ∃ d < 10, c = Nat.digitChar d := by
  simp only [Char.isDigit, Bool.and_eq_true, decide_eq_true_eq, UInt32.le_iff_toNat_le] at h
  have read : asciiDigit? c = some (c.toNat - 0x30) :=
    if_pos (Bool.and_eq_true_iff.2 ⟨decide_eq_true h.1, decide_eq_true h.2⟩)
  exact ⟨_, asciiDigit?_eq_some_iff.1 read⟩

/-- A text of digits is written in digits. -/
theorem exists_isDigits (all : ∀ c ∈ text, c.isDigit = true) : ∃ digits, IsDigits digits text := by
  induction text with
  | nil => exact ⟨[], by simp [IsDigits]⟩
  | cons c text ih =>
      obtain ⟨first, others⟩ := List.forall_mem_cons.1 all
      obtain ⟨d, digit, rfl⟩ := exists_digitChar first
      obtain ⟨digits, small, rfl⟩ := ih others
      exact ⟨d :: digits, List.forall_mem_cons.2 ⟨digit, small⟩, rfl⟩

/-- Digits are the decimal form of their number behind the zeros that they start with. -/
theorem exists_padded (small : ∀ d ∈ digits, d < 10) (some : digits ≠ []) :
    ∃ zeros, digits.map Nat.digitChar = padded zeros (ofDigits digits) := by
  induction digits with
  | nil => exact absurd rfl some
  | cons d digits ih =>
      rcases Nat.eq_zero_or_pos d with rfl | positive
      · by_cases last : digits = []
        · exact ⟨0, by rw [last]; rfl⟩
        · obtain ⟨zeros, form⟩ := ih (List.forall_mem_cons.1 small).2 last
          -- a zero in front changes the text and not the number
          have same : ofDigits (0 :: digits) = ofDigits digits := rfl
          refine ⟨zeros + 1, ?_⟩
          rw [same, List.map_cons, form]
          rfl
      · exact ⟨0, by simp [padded, toDigits_ofDigits small positive]⟩

/-- The texts that write a number in digits are its decimal forms behind zeros. -/
theorem exists_isDigits_iff {number : Nat} :
    (∃ digits, IsDigits digits text ∧ digits ≠ [] ∧ ofDigits digits = number) ↔
      ∃ zeros, text = padded zeros number := by
  constructor
  · rintro ⟨digits, ⟨small, rfl⟩, some, rfl⟩
    exact exists_padded small some
  · rintro ⟨zeros, rfl⟩
    obtain ⟨digits, written⟩ := exists_isDigits fun c => isDigit_of_mem_padded
    refine ⟨digits, written, ?_, ?_⟩
    · rintro rfl
      exact padded_ne_nil zeros number written.2
    · rw [written.ofDigits_eq, ofDigitChars_padded]

/-! ## Octets of ASCII -/

/-- The octets of a text of ASCII. -/
def ascii (text : List Char) : Octets := text.map fun c => UInt8.ofNat c.toNat

theorem toNat_ofNat_of_plain {c : Char} (plain : c.toNat < 0x80) :
    (UInt8.ofNat c.toNat).toNat = c.toNat := by
  rw [UInt8.toNat_ofNat', Nat.mod_eq_of_lt (Nat.lt_trans plain (by decide))]

theorem map_ofNat_ascii (plain : ∀ c ∈ text, c.toNat < 0x80) :
    (ascii text).map (fun octet => Char.ofNat octet.toNat) = text := by
  rw [ascii, List.map_map]
  refine (List.map_congr_left fun c member => ?_).trans (List.map_id _)
  simp [toNat_ofNat_of_plain (plain c member)]

theorem all_ascii (plain : ∀ c ∈ text, c.toNat < 0x80) : (ascii text).all (· < 0x80) = true := by
  rw [ascii, List.all_map, List.all_eq_true]
  intro c member
  have octet := toNat_ofNat_of_plain (plain c member)
  exact decide_eq_true (UInt8.lt_iff_toNat_lt.2 (by rw [octet]; exact plain c member))

/-- Octets of ASCII are the octets of the text that they are. -/
theorem ascii_map_ofNat {octets : Octets} (plain : octets.all (· < 0x80) = true) :
    ascii (octets.map fun octet => Char.ofNat octet.toNat) = octets := by
  have back : ∀ n, n < 0x80 → (Char.ofNat n).toNat = n := by decide
  rw [ascii, List.map_map]
  refine (List.map_congr_left fun octet member => ?_).trans (List.map_id _)
  have small := of_decide_eq_true (List.all_eq_true.1 plain octet member)
  simp [back octet.toNat (UInt8.lt_iff_toNat_lt.1 small)]

theorem toNat_lt_of_isDigit {c : Char} (h : c.isDigit = true) : c.toNat < 0x80 := by
  obtain ⟨d, digit, rfl⟩ := exists_digitChar h
  rw [Nat.toNat_digitChar_of_lt_ten digit]
  omega

end Overlay.Text
