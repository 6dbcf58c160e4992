/-
# Overlay.Proofs.MessagePack.Shortest -- the writer writes the shortest form

What `Item.write` writes is a form of the item (`Item.form_write`).  Heads are written in
the least width that holds them, and a width that a form uses holds its head, so no form
is shorter (`Head.Form.length_write_le`); floating-point numbers are the exception, they
are always written in eight octets.

`Item.Abridges` compares what was read with what is written for it: whatever form was
read, the item can be written, and in no more octets.  It passes from the items of an array
to the array (`Item.abridges_array`).

The writer and the reader disagree in one place.  The writer counts a container as open
only when it holds something, so it writes an empty container where the reader does not
open another; `Item.readable` counts as the reader does.
-/
import Mathlib.Data.List.Forall2
import Mathlib.Tactic.SplitIfs
import Overlay.MessagePack.Writer
import Overlay.Proofs.MessagePack.Form

namespace Overlay.MessagePack

set_option autoImplicit false

open Overlay.Octets (bigEndian length_bigEndian)

/-! ## Heads -/

namespace Head

theorem form_writeNat {n : Nat} (h : n < 2 ^ 64) : Form (.int n) (writeNat n) := by
  unfold writeNat
  split_ifs with one two three four
  · exact .small one
  · exact .unsigned (by decide) two
  · exact .unsigned (by decide) three
  · exact .unsigned (by decide) four
  · exact .unsigned (by decide) h

/-- A negative integer as the two's complement of a width that holds it. -/
theorem form_signed {first : UInt8} {width n : Nat} (known : (first, width) ∈ signedForms)
    (h : 2 * n + 2 ≤ 256 ^ width) :
    Form (.int (Int.negSucc n)) (first :: bigEndian width (256 ^ width - 1 - n)) := by
  have form := Form.signed (n := 256 ^ width - 1 - n) known (by omega)
  have value : Int.bmod (256 ^ width - 1 - n : Nat) (256 ^ width) = Int.negSucc n := by
    generalize 256 ^ width = modulus at h
    rw [Int.bmod_eq_iff (by omega)]
    exact ⟨by omega, by omega, ⟨-1, by omega⟩⟩
  rwa [value] at form

theorem form_writeNeg {n : Nat} (h : n < 2 ^ 63) : Form (.int (Int.negSucc n)) (writeNeg n) := by
  unfold writeNeg
  split_ifs with one two three four
  · exact .smallNegative one
  · exact form_signed (by decide) (by omega)
  · exact form_signed (by decide) (by omega)
  · exact form_signed (by decide) (by omega)
  · exact form_signed (by decide) (by omega)

theorem writeSize_cases {one two four : UInt8} {size : Nat} (h : size < 2 ^ 32) :
    ∃ first width, (first, width) ∈ [(one, 1), (two, 2), (four, 4)] ∧ size < 256 ^ width ∧
      writeSize one two four size = first :: bigEndian width size := by
  unfold writeSize
  split_ifs with small medium
  · exact ⟨one, 1, by simp, small, rfl⟩
  · exact ⟨two, 2, by simp, medium, rfl⟩
  · exact ⟨four, 4, by simp, h, rfl⟩

theorem writeCount_cases {short count : Nat} {two four : UInt8} (h : count < 2 ^ 32) :
    (count < 16 ∧ writeCount short two four count = [octet (short + count)]) ∨
      ∃ first width, (first, width) ∈ [(two, 2), (four, 4)] ∧ count < 256 ^ width ∧
        writeCount short two four count = first :: bigEndian width count := by
  unfold writeCount
  split_ifs with small medium
  · exact .inl ⟨small, rfl⟩
  · exact .inr ⟨two, 2, by simp, medium, rfl⟩
  · exact .inr ⟨four, 4, by simp, h, rfl⟩

theorem write_ext_cases (size : Nat) :
    (∃ first, (first, size) ∈ fixedExtForms ∧ write (.ext size) = [first]) ∨
      write (.ext size) = writeSize 0xC7 0xC8 0xC9 size := by
  by_cases fixed : size ∈ [1, 2, 4, 8, 16]
  · simp only [List.mem_cons, List.not_mem_nil, or_false] at fixed
    obtain rfl | rfl | rfl | rfl | rfl := fixed
    · exact .inl ⟨0xD4, by decide, rfl⟩
    · exact .inl ⟨0xD5, by decide, rfl⟩
    · exact .inl ⟨0xD6, by decide, rfl⟩
    · exact .inl ⟨0xD7, by decide, rfl⟩
    · exact .inl ⟨0xD8, by decide, rfl⟩
  · simp only [List.mem_cons, List.not_mem_nil, or_false, not_or] at fixed
    obtain ⟨one, two, four, eight, sixteen⟩ := fixed
    exact .inr (write.eq_16 size one two four eight sixteen)

theorem form_write {head : Head} (fits : head.fits) : Form head head.write := by
  cases head with
  | nil => exact .nil
  | bool value =>
      cases value with
      | false => exact .no
      | true => exact .yes
  | int value =>
      simp only [Head.fits, Bool.and_eq_true, decide_eq_true_eq] at fits
      cases value with
      | ofNat n => exact form_writeNat (Int.ofNat_lt.1 fits.2)
      | negSucc n => exact form_writeNeg (by omega)
  | float bits => exact .double bits
  | str size =>
      simp only [Head.fits, decide_eq_true_eq] at fits
      rw [write]
      split_ifs with short
      · exact .shortStr short
      · obtain ⟨first, width, known, bound, eq⟩ := writeSize_cases fits
        rw [eq]
        exact .str known bound
  | bin size =>
      simp only [Head.fits, decide_eq_true_eq] at fits
      obtain ⟨first, width, known, bound, eq⟩ := writeSize_cases fits
      rw [write, eq]
      exact .bin known bound
  | array count =>
      simp only [Head.fits, decide_eq_true_eq] at fits
      obtain ⟨short, eq⟩ | ⟨first, width, known, bound, eq⟩ := writeCount_cases fits
      · rw [write, eq]
        exact .shortArray short
      · rw [write, eq]
        exact .array known bound
  | map count =>
      simp only [Head.fits, decide_eq_true_eq] at fits
      obtain ⟨short, eq⟩ | ⟨first, width, known, bound, eq⟩ := writeCount_cases fits
      · rw [write, eq]
        exact .shortMap short
      · rw [write, eq]
        exact .map known bound
  | ext size =>
      simp only [Head.fits, decide_eq_true_eq] at fits
      obtain ⟨first, known, eq⟩ | eq := write_ext_cases size
      · rw [eq]
        exact .fixedExt known
      · obtain ⟨first, width, known, bound, eq'⟩ := writeSize_cases fits
        rw [eq, eq']
        exact .ext known bound

theorem length_writeNat_le {width n : Nat} (known : width ∈ [1, 2, 4, 8]) (h : n < 256 ^ width) :
    (writeNat n).length ≤ width + 1 := by
  simp only [List.mem_cons, List.not_mem_nil, or_false] at known
  unfold writeNat
  obtain rfl | rfl | rfl | rfl := known <;> split_ifs <;>
    simp only [List.length_cons, List.length_nil, length_bigEndian] <;> omega

theorem length_writeNeg_le {width n : Nat} (known : width ∈ [1, 2, 4, 8])
    (h : 2 * n + 2 ≤ 256 ^ width) : (writeNeg n).length ≤ width + 1 := by
  simp only [List.mem_cons, List.not_mem_nil, or_false] at known
  unfold writeNeg
  obtain rfl | rfl | rfl | rfl := known <;> split_ifs <;>
    simp only [List.length_cons, List.length_nil, length_bigEndian] <;> omega

theorem length_writeSize_le {one two four : UInt8} {width size : Nat} (known : width ∈ [1, 2, 4])
    (h : size < 256 ^ width) : (writeSize one two four size).length ≤ width + 1 := by
  simp only [List.mem_cons, List.not_mem_nil, or_false] at known
  unfold writeSize
  obtain rfl | rfl | rfl := known <;> split_ifs <;>
    simp only [List.length_cons, length_bigEndian] <;> omega

theorem length_writeCount_le {short width count : Nat} {two four : UInt8} (known : width ∈ [2, 4])
    (h : count < 256 ^ width) : (writeCount short two four count).length ≤ width + 1 := by
  simp only [List.mem_cons, List.not_mem_nil, or_false] at known
  unfold writeCount
  obtain rfl | rfl := known <;> split_ifs <;>
    simp only [List.length_cons, List.length_nil, length_bigEndian] <;> omega

/-- Two's complement: a number of a width is that number or a negative one that the width holds. -/
theorem bmod_cases {modulus n : Nat} (even : 2 ∣ modulus) (h : n < modulus) :
    (∃ m : Nat, Int.bmod n modulus = m ∧ m < modulus) ∨
      ∃ m : Nat, Int.bmod n modulus = Int.negSucc m ∧ 2 * m + 2 ≤ modulus := by
  have low := Int.le_bmod (x := n) (show 0 < modulus by omega)
  have high := Int.bmod_lt (x := n) (show 0 < modulus by omega)
  generalize Int.bmod n modulus = value at *
  cases value with
  | ofNat m =>
      have high : (m : Int) < ((modulus : Int) + 1) / 2 := high
      exact .inl ⟨m, rfl, by omega⟩
  | negSucc m => exact .inr ⟨m, rfl, by omega⟩

/-- The widths in a table. -/
theorem width_mem {table : List (UInt8 × Nat)} {first : UInt8} {width : Nat}
    (known : (first, width) ∈ table) : width ∈ table.map Prod.snd :=
  List.mem_map_of_mem (f := Prod.snd) known

theorem pow_le {width : Nat} (known : width ∈ [1, 2, 4, 8]) : 256 ^ width ≤ 2 ^ 64 := by
  simp only [List.mem_cons, List.not_mem_nil, or_false] at known
  obtain rfl | rfl | rfl | rfl := known <;> decide

theorem two_dvd_pow {width : Nat} (known : width ∈ [1, 2, 4, 8]) : 2 ∣ 256 ^ width := by
  simp only [List.mem_cons, List.not_mem_nil, or_false] at known
  obtain rfl | rfl | rfl | rfl := known <;> decide

/-- Sizes and counts have four octets at most. -/
theorem lt_of_narrow {width n : Nat} (narrow : width ≤ 4) (h : n < 256 ^ width) : n < 2 ^ 32 :=
  Nat.lt_of_lt_of_le h (Nat.pow_le_pow_right (by decide) narrow)

theorem fits_nat {n : Nat} (h : n < 2 ^ 64) : (Head.int n).fits := by
  simp only [fits, Bool.and_eq_true, decide_eq_true_eq]
  omega

theorem fits_neg {n : Nat} (h : n < 2 ^ 63) : (Head.int (Int.negSucc n)).fits := by
  simp only [fits, Bool.and_eq_true, decide_eq_true_eq]
  omega

/-- Every head that has a form can be written. -/
theorem Form.fits {head : Head} {form : Octets} (h : Form head form) : head.fits := by
  cases h with
  | nil | no | yes | double | single => rfl
  | small bound => exact fits_nat (by omega)
  | smallNegative bound => exact fits_neg (by omega)
  | unsigned known bound => exact fits_nat (Nat.lt_of_lt_of_le bound (pow_le (width_mem known)))
  | signed known bound =>
      have four := width_mem known
      have most := pow_le four
      obtain ⟨m, eq, small⟩ | ⟨m, eq, small⟩ := bmod_cases (two_dvd_pow four) bound
      · rw [eq]
        exact fits_nat (by omega)
      · rw [eq]
        exact fits_neg (by omega)
  | shortStr bound | shortArray bound | shortMap bound =>
      simp only [Head.fits, decide_eq_true_eq]
      omega
  | fixedExt known =>
      have small := (by decide : ∀ row ∈ fixedExtForms, row.2 ≤ 16) _ known
      simp only [Head.fits, decide_eq_true_eq] at small ⊢
      omega
  | str known bound =>
      have narrow := (by decide : ∀ row ∈ strForms, row.2 ≤ 4) _ known
      simpa only [Head.fits, decide_eq_true_eq] using lt_of_narrow narrow bound
  | bin known bound =>
      have narrow := (by decide : ∀ row ∈ binForms, row.2 ≤ 4) _ known
      simpa only [Head.fits, decide_eq_true_eq] using lt_of_narrow narrow bound
  | array known bound =>
      have narrow := (by decide : ∀ row ∈ arrayForms, row.2 ≤ 4) _ known
      simpa only [Head.fits, decide_eq_true_eq] using lt_of_narrow narrow bound
  | map known bound =>
      have narrow := (by decide : ∀ row ∈ mapForms, row.2 ≤ 4) _ known
      simpa only [Head.fits, decide_eq_true_eq] using lt_of_narrow narrow bound
  | ext known bound =>
      have narrow := (by decide : ∀ row ∈ extForms, row.2 ≤ 4) _ known
      simpa only [Head.fits, decide_eq_true_eq] using lt_of_narrow narrow bound

/-- No form of a head is shorter than what is written, floating-point numbers apart: those are
always written in 64 bits. -/
theorem Form.length_write_le {head : Head} {form : Octets} (h : Form head form)
    (notFloat : ∀ bits, head ≠ .float bits) : head.write.length ≤ form.length := by
  cases h with
  | nil | no | yes => exact Nat.le_refl _
  | double bits => exact absurd rfl (notFloat bits)
  | @single bits => exact absurd rfl (notFloat (widen bits))
  | @small n bound =>
      show (writeNat n).length ≤ 1
      simp [writeNat, bound]
  | @smallNegative n bound =>
      show (writeNeg n).length ≤ 1
      simp [writeNeg, bound]
  | @unsigned first width n known bound =>
      show (writeNat n).length ≤ _
      simpa using length_writeNat_le (width_mem known) bound
  | @signed first width n known bound =>
      have four := width_mem known
      obtain ⟨m, eq, small⟩ | ⟨m, eq, small⟩ := bmod_cases (two_dvd_pow four) bound
      · rw [eq]
        show (writeNat m).length ≤ _
        simpa using length_writeNat_le four small
      · rw [eq]
        show (writeNeg m).length ≤ _
        simpa using length_writeNeg_le four small
  | shortStr bound => simp [write, bound]
  | shortArray bound => simp [write, writeCount, bound]
  | shortMap bound => simp [write, writeCount, bound]
  | @fixedExt first size known =>
      simp only [fixedExtForms, List.mem_cons, Prod.mk.injEq, List.not_mem_nil, or_false] at known
      obtain ⟨rfl, rfl⟩ | ⟨rfl, rfl⟩ | ⟨rfl, rfl⟩ | ⟨rfl, rfl⟩ | ⟨rfl, rfl⟩ := known <;>
        exact Nat.le_refl _
  | @str first width size known bound =>
      rw [write]
      split_ifs
      · simp
      · simpa using length_writeSize_le (width_mem known) bound
  | bin known bound => simpa [write] using length_writeSize_le (width_mem known) bound
  | array known bound => simpa [write] using length_writeCount_le (width_mem known) bound
  | map known bound => simpa [write] using length_writeCount_le (width_mem known) bound
  | @ext first width size known bound =>
      obtain ⟨other, -, eq⟩ | eq := write_ext_cases size
      · simp [eq]
      · simpa [eq] using length_writeSize_le (width_mem known) bound

end Head

/-! ## Items -/

/-- What is written of each of several things, one after another, is forms of them. -/
theorem Sequence.flatMap {α : Type} {form : α → Octets → Prop} {write : α → Octets}
    {things : List α} (forms : ∀ thing ∈ things, form thing (write thing)) :
    Sequence form things (things.flatMap write) := by
  induction things with
  | nil => exact .nil
  | cons thing others ih =>
      rw [List.flatMap_cons]
      exact .cons (forms thing (by simp)) (ih fun other member => forms other (by simp [member]))

namespace Item

/-- Can what is written of the item be read, with at most `depth` containers open at once?  A
container is no key, and an empty one counts as open. -/
def readable (depth : Nat) : Item → Bool
  | .array items =>
    match depth with
    | 0 => false
    | depth + 1 => items.all (readable depth)
  | .map entries =>
    match depth with
    | 0 => false
    | depth + 1 =>
      entries.all fun entry =>
        !entry.1.isContainer && readable depth entry.1 && readable depth entry.2
  | _ => true
termination_by structural depth

variable {opens depth : Nat}

theorem fits_array {items : List Item} (h : (Item.array items).fits opens) :
    (Head.array items.length).fits ∧ ∀ item ∈ items, ∃ fewer, item.fits fewer := by
  cases items with
  | nil => exact ⟨rfl, by simp⟩
  | cons item items =>
      cases opens with
      | zero => simp [fits] at h
      | succ opens =>
          simp only [fits, Bool.and_eq_true, List.all_eq_true] at h
          exact ⟨h.1, fun item member => ⟨opens, h.2 item member⟩⟩

/-- An array can be written where each of its items can, one container further in. -/
theorem fits_array_of_forall {items : List Item} (head : (Head.array items.length).fits)
    (each : ∀ item ∈ items, item.fits depth) : (Item.array items).fits (depth + 1) := by
  cases items with
  | nil => rfl
  | cons item items =>
      simp only [fits, Bool.and_eq_true, List.all_eq_true]
      exact ⟨head, each⟩

theorem fits_map {entries : List (Item × Item)} (h : (Item.map entries).fits opens) :
    (Head.map entries.length).fits ∧
      ∀ entry ∈ entries, ∃ fewer, entry.1.fits fewer ∧ entry.2.fits fewer := by
  cases entries with
  | nil => exact ⟨rfl, by simp⟩
  | cons entry entries =>
      cases opens with
      | zero => simp [fits] at h
      | succ opens =>
          simp only [fits, Bool.and_eq_true, List.all_eq_true] at h
          exact ⟨h.1, fun entry member => ⟨opens, h.2 entry member⟩⟩

theorem formOver_write {contents : Option (Item → Octets → Prop)} {item : Item}
    (flat : item.isContainer = false) (fits : item.fits opens) :
    FormOver contents item item.write := by
  cases item with
  | nil =>
      rw [write]
      exact .nil (Head.form_write rfl)
  | bool value =>
      rw [write]
      exact .bool (Head.form_write rfl)
  | int value =>
      rw [Item.fits] at fits
      rw [write]
      exact .int (Head.form_write fits)
  | float bits =>
      rw [write]
      exact .float (Head.form_write rfl)
  | str text =>
      rw [Item.fits] at fits
      rw [write]
      exact .str (Head.form_write fits)
  | bin octets =>
      rw [Item.fits] at fits
      rw [write]
      exact .bin (Head.form_write fits)
  | ext code data =>
      simp only [Item.fits, Bool.and_eq_true, decide_eq_true_eq] at fits
      rw [write]
      exact .ext fits.1 (Head.form_write fits.2)
  | time seconds nanoseconds => simp [Item.fits] at fits
  | array items => cases flat
  | map entries => cases flat

/-- What is written is a form of the item, as far as it can be read. -/
theorem form_write {item : Item} (fits : item.fits opens) (readable : item.readable depth) :
    Form depth item item.write := by
  induction depth generalizing opens item with
  | zero =>
      refine formOver_write ?_ fits
      cases item with
      | array items => simp [Item.readable] at readable
      | map entries => simp [Item.readable] at readable
      | _ => rfl
  | succ depth ih =>
      cases item with
      | array items =>
          obtain ⟨head, fits⟩ := fits_array fits
          simp only [Item.readable, List.all_eq_true] at readable
          rw [write]
          refine .array rfl (Head.form_write head) (Sequence.flatMap fun item member => ?_)
          obtain ⟨fewer, fits⟩ := fits item member
          exact ih fits (readable item member)
      | map entries =>
          obtain ⟨head, fits⟩ := fits_map fits
          simp only [Item.readable, List.all_eq_true, Bool.and_eq_true,
            Bool.not_eq_true'] at readable
          rw [write]
          refine .map rfl (Head.form_write head) (Sequence.flatMap fun entry member => ?_)
          obtain ⟨fewer, key, value⟩ := fits entry member
          obtain ⟨⟨plain, keyReadable⟩, valueReadable⟩ := readable entry member
          exact .mk plain (ih key keyReadable) (ih value valueReadable)
      | _ => exact formOver_write rfl fits

/-! ### Writing what was read -/

/-- Whatever form of `read` was read, `item` can be written, and in no more octets. -/
def Abridges (depth : Nat) (item read : Item) : Prop :=
  ∀ form, Form depth read form → item.fits depth ∧ item.write.length ≤ form.length

theorem abridges_int {depth : Nat} (value : Int) : Abridges depth (.int value) (.int value) := by
  intro form h
  cases depth <;> cases h with
  | int h =>
    rw [fits, write]
    exact ⟨h.fits, h.length_write_le (by simp)⟩

theorem abridges_bin {depth : Nat} (octets : Octets) :
    Abridges depth (.bin octets) (.bin octets) := by
  intro form h
  cases depth <;> cases h with
  | bin h =>
    rw [fits, write]
    have short := h.length_write_le (by simp)
    exact ⟨h.fits, by simp only [List.length_append]; omega⟩

theorem abridges_sequence {depth : Nat} {items reads : List Item} {body : Octets}
    (each : List.Forall₂ (Abridges depth) items reads) (held : Sequence (Form depth) reads body) :
    (∀ item ∈ items, item.fits depth) ∧ (items.flatMap write).length ≤ body.length := by
  induction each generalizing body with
  | nil => simp
  | cons first others ih =>
      cases held with
      | cons front back =>
          obtain ⟨fits, short⟩ := first _ front
          obtain ⟨othersFit, othersShort⟩ := ih back
          refine ⟨by simpa using ⟨fits, othersFit⟩, ?_⟩
          simp only [List.flatMap_cons, List.length_append]
          omega

theorem abridges_array {depth : Nat} {items reads : List Item}
    (each : List.Forall₂ (Abridges depth) items reads) :
    Abridges (depth + 1) (.array items) (.array reads) := by
  intro form h
  cases h with
  | @array _ _ head body opens h held =>
    cases opens
    obtain ⟨fit, small⟩ := abridges_sequence each held
    rw [← each.length_eq] at h
    have short := h.length_write_le (by simp)
    constructor
    · exact fits_array_of_forall h.fits fit
    · rw [write]
      simp only [List.length_append]
      omega

theorem abridges_array_self {depth : Nat} {items : List Item}
    (each : ∀ item ∈ items, Abridges depth item item) :
    Abridges (depth + 1) (.array items) (.array items) := by
  apply abridges_array
  rw [List.forall₂_same]
  exact each

end Item

end Overlay.MessagePack
