/-
# Overlay.Proofs.Text.Safety -- text that is safe to show

A text is safe within a bound if it is no longer than that and each of its characters may be
shown as it is.  Texts put together are safe within the sum of their bounds (`Safe.append`),
so what a message is made of can be looked at piece by piece:

* the digits of a number of 64 bits are safe (`safe_nat`, `safe_int`), and lists of such are
  (`safe_intercalate`);
* a text in quotation marks is safe whatever its characters are, each of them taking ten at
  most (`safe_quoted`).
-/
import Mathlib.Algebra.Order.BigOperators.Group.List
import Mathlib.Data.Nat.Digits.Lemmas
import Overlay.Text.Quoted

namespace Overlay.Text

set_option autoImplicit false

open Octets (hexDigit hexDigits bigEndian)

/-- The text is no longer than the bound, and each of its characters may be shown as it is. -/
structure Safe (bound : Nat) (text : String) : Prop where
  length_le : text.length ≤ bound
  printable : ∀ c ∈ text.toList, isPrintable c = true

theorem safe_iff {bound : Nat} {text : String} :
    Safe bound text ↔ text.length ≤ bound ∧ text.toList.all isPrintable = true := by
  rw [List.all_eq_true]
  exact ⟨fun ⟨short, plain⟩ => ⟨short, plain⟩, fun ⟨short, plain⟩ => ⟨short, plain⟩⟩

instance (bound : Nat) (text : String) : Decidable (Safe bound text) :=
  decidable_of_iff _ safe_iff.symm

namespace Safe

variable {bound other : Nat} {text text' : String}

theorem mono (within : bound ≤ other) (h : Safe bound text) : Safe other text :=
  ⟨Nat.le_trans h.length_le within, h.printable⟩

theorem append (first : Safe bound text) (second : Safe other text') :
    Safe (bound + other) (text ++ text') := by
  constructor
  · rw [String.length_append]
    exact Nat.add_le_add first.length_le second.length_le
  · rw [String.toList_append]
    exact List.forall_mem_append.2 ⟨first.printable, second.printable⟩

theorem ofList {characters : List Char} (short : characters.length ≤ bound)
    (plain : ∀ c ∈ characters, isPrintable c = true) : Safe bound (String.ofList characters) := by
  refine ⟨?_, ?_⟩
  · rwa [String.length_ofList]
  · rwa [String.toList_ofList]

end Safe

/-! ## Numbers -/

theorem isPrintable_of_isDigit {c : Char} (h : c.isDigit = true) : isPrintable c = true := by
  simp only [Char.isDigit, Bool.and_eq_true, decide_eq_true_eq, UInt32.le_iff_toNat_le] at h
  exact isPrintable_of_ascii (Nat.le_trans (by decide) h.1) (Nat.lt_of_le_of_lt h.2 (by decide))

theorem safe_nat {n : Nat} (small : n < 2 ^ 64) : Safe 20 (toString n) := by
  refine ⟨Nat.repr_length n 20 (by decide) (Nat.lt_trans small (by decide)), fun c member => ?_⟩
  have digit : c ∈ Nat.toDigits 10 n := by rwa [← Nat.toList_repr]
  exact isPrintable_of_isDigit (Nat.isDigit_of_mem_toDigits (by decide) (by decide) digit)

theorem safe_int {n : Int} (low : -(2 ^ 64) < n) (high : n < 2 ^ 64) : Safe 21 (toString n) := by
  cases n with
  | ofNat n => exact (safe_nat (Int.ofNat_lt.1 high)).mono (by decide)
  | negSucc n => exact (by decide : Safe 1 "-").append (safe_nat (by omega))

/-- Texts with a separator between them. -/
theorem safe_intercalate {bound : Nat} {separator : String} {texts : List String}
    (between : Safe bound separator) (each : ∀ text ∈ texts, Safe bound text) :
    Safe (2 * bound * texts.length) (String.intercalate separator texts) := by
  induction texts with
  | nil => exact (by decide : Safe 0 "").mono (Nat.zero_le _)
  | cons text texts ih =>
      obtain ⟨first, others⟩ := List.forall_mem_cons.1 each
      cases texts with
      | nil => exact first.mono (by simp; omega)
      | cons next texts =>
          rw [String.intercalate_cons_cons]
          refine ((first.append between).append (ih others)).mono ?_
          simp only [List.length_cons, Nat.mul_add]
          omega

/-! ## Quotation marks -/

theorem isPrintable_hexDigit {n : Nat} (h : n < 16) : isPrintable (hexDigit n) = true := by
  revert n
  decide

theorem length_hexDigits (octets : Octets) : (hexDigits octets).length = 2 * octets.length := by
  simp only [hexDigits, List.length_flatMap, List.length_cons, List.length_nil]
  simp [Nat.mul_comm]

theorem isPrintable_of_mem_hexDigits {octets : Octets} {c : Char} (h : c ∈ hexDigits octets) :
    isPrintable c = true := by
  obtain ⟨n, small, rfl⟩ := Octets.exists_of_mem_hexDigits h
  exact isPrintable_hexDigit small

/-- A code point after a backslash takes ten characters at most. -/
theorem length_escapeCode_le (code : Nat) : (escapeCode code).length ≤ 10 := by
  unfold escapeCode
  split_ifs <;> simp [length_hexDigits]

theorem isPrintable_of_mem_escapeCode {code : Nat} {c : Char} (h : c ∈ escapeCode code) :
    isPrintable c = true := by
  unfold escapeCode at h
  split_ifs at h <;> obtain rfl | rfl | digit := by simpa only [List.mem_cons] using h
  all_goals first | decide | exact isPrintable_of_mem_hexDigits digit

theorem isPrintable_of_mem_pair {c letter : Char} (h : c ∈ ['\\', letter])
    (plain : isPrintable letter = true) : isPrintable c = true := by
  simp only [List.mem_cons, List.not_mem_nil, or_false] at h
  obtain rfl | rfl := h
  · decide
  · exact plain

/-- A character between quotation marks takes ten at most. -/
theorem length_escape_le (quote c : Char) : (escape quote c).length ≤ 10 := by
  unfold escape
  split_ifs
  case neg => exact length_escapeCode_le _
  all_goals simp

/-- Between quotation marks that are printable, only printable characters are written. -/
theorem isPrintable_of_mem_escape {quote c d : Char} (mark : isPrintable quote = true)
    (h : d ∈ escape quote c) : isPrintable d = true := by
  unfold escape at h
  split_ifs at h with marked feed return' tab plain
  · simp only [Bool.or_eq_true, decide_eq_true_eq] at marked
    refine isPrintable_of_mem_pair h ?_
    obtain rfl | rfl := marked
    · exact mark
    · decide
  · exact isPrintable_of_mem_pair h (by decide)
  · exact isPrintable_of_mem_pair h (by decide)
  · exact isPrintable_of_mem_pair h (by decide)
  · rwa [List.mem_singleton.1 h]
  · exact isPrintable_of_mem_escapeCode h

theorem isPrintable_quoteFor (text : List Char) : isPrintable (quoteFor text) = true := by
  unfold quoteFor
  split_ifs <;> decide

/-- A text in quotation marks is safe whatever it is. -/
theorem safe_quoted (text : String) : Safe (10 * text.length + 2) (quoted text) := by
  have mark := isPrintable_quoteFor text.toList
  simp only [quoted, quotedChars]
  generalize quoteFor text.toList = quote at mark ⊢
  refine .ofList ?_ fun c member => ?_
  · have shown : (text.toList.flatMap (escape quote)).length ≤ text.toList.length * 10 := by
      rw [List.length_flatMap, ← List.length_map (fun c => (escape quote c).length)]
      refine List.sum_le_card_nsmul _ 10 fun length member => ?_
      obtain ⟨c, -, rfl⟩ := List.mem_map.1 member
      exact length_escape_le quote c
    rw [String.length_toList] at shown
    simp only [List.cons_append, List.length_cons, List.length_append, List.length_nil]
    omega
  · simp only [List.cons_append, List.mem_cons, List.mem_append, List.mem_flatMap,
      List.not_mem_nil, or_false] at member
    obtain rfl | ⟨shown, -, member⟩ | rfl := member
    · exact mark
    · exact isPrintable_of_mem_escape mark member
    · exact mark

end Overlay.Text
