/-
# Overlay.Proofs.Tag.Spelling -- the spellings of a tag number

`Tag.read` reads a number from an item exactly when the item spells it
(`Tag.read_eq_ok_iff`): as the integer itself, or, where text is accepted, in ASCII
digits with any leading zeros.  `Tag.Numeral` says which items are digits, as text or as
octets.

Of all items there is one sort that is neither read nor refused, a numeral of more than
`Tag.maxDigits` digits (`Tag.read_eq_oversized_iff`).

The integer is the shortest spelling (`Tag.Spelling.abridges`): each digit adds an octet to
a numeral, and less than half an octet to the number.
-/
import Mathlib.Tactic.SplitIfs
import Mathlib.Tactic.Tauto
import Overlay.Proofs.MessagePack.Shortest
import Overlay.Tag.Reading

namespace Overlay

set_option autoImplicit false

open MessagePack (Item octet)

namespace Text

theorem asciiDigit?_eq_some_iff {c : Char} {d : Nat} :
    asciiDigit? c = some d ↔ d < 10 ∧ c = Nat.digitChar d := by
  constructor
  · intro h
    refine ⟨asciiDigit?_lt h, ?_⟩
    simp only [asciiDigit?, Option.ite_none_right_eq_some, Bool.and_eq_true, decide_eq_true_eq,
      Option.some.injEq] at h
    obtain ⟨⟨low, high⟩, rfl⟩ := h
    have digit : ∀ n, n ≤ 0x39 → 0x30 ≤ n → Char.ofNat n = Nat.digitChar (n - 0x30) := by decide
    rw [← digit c.toNat high low, Char.ofNat_toNat]
  · rintro ⟨small, rfl⟩
    revert d
    decide

/-- The text is the digits in ASCII. -/
def IsDigits (digits : List Nat) (text : List Char) : Prop :=
  (∀ d ∈ digits, d < 10) ∧ text = digits.map Nat.digitChar

/-- A text is read as digits exactly where it is written in them. -/
theorem mapM_asciiDigit?_eq_some_iff {text : List Char} {digits : List Nat} :
    text.mapM asciiDigit? = some digits ↔ IsDigits digits text := by
  unfold IsDigits
  induction text generalizing digits with
  | nil => cases digits <;> simp
  | cons c rest ih =>
      rw [List.mapM_cons]
      simp only [Option.bind_eq_bind, Option.bind_eq_some_iff, asciiDigit?_eq_some_iff, ih,
        Option.pure_def, Option.some.injEq]
      constructor
      · rintro ⟨d, ⟨small, rfl⟩, digits, ⟨others, rfl⟩, rfl⟩
        exact ⟨by simpa using ⟨small, others⟩, by simp⟩
      · rintro ⟨small, eq⟩
        cases digits with
        | nil => cases eq
        | cons d digits =>
            simp only [List.map_cons, List.cons.injEq] at eq
            simp only [List.mem_cons, forall_eq_or_imp] at small
            exact ⟨d, ⟨small.1, eq.1⟩, digits, ⟨small.2, eq.2⟩, rfl⟩

/-- A number of `n` digits is below `10 ^ n`. -/
theorem ofDigits_lt {digits : List Nat} (small : ∀ d ∈ digits, d < 10) :
    ofDigits digits < 10 ^ digits.length := by
  -- the number before the digits, `start`, moves up by one power of ten for each of them
  have generally : ∀ start, digits.foldl (fun n d => 10 * n + d) start <
      (start + 1) * 10 ^ digits.length := by
    induction digits with
    | nil => simp
    | cons d digits ih =>
        simp only [List.mem_cons, forall_eq_or_imp] at small
        intro start
        have shifted := ih small.2 (10 * start + d)
        have next : 10 * start + d + 1 ≤ (start + 1) * 10 := by omega
        calc _ < (10 * start + d + 1) * 10 ^ digits.length := shifted
          _ ≤ (start + 1) * 10 * 10 ^ digits.length := Nat.mul_le_mul_right _ next
          _ = (start + 1) * 10 ^ (digits.length + 1) := by rw [Nat.pow_succ', Nat.mul_assoc]
  simpa [ofDigits] using generally 0

/-- A text has at least as many octets as characters. -/
theorem length_le_utf8ByteSize (text : List Char) :
    text.length ≤ (String.ofList text).utf8ByteSize := by
  have encoded : (String.ofList text).utf8ByteSize =
      (text.flatMap String.utf8EncodeChar).length := by
    simp [String.utf8ByteSize, List.utf8Encode]
  rw [encoded]
  clear encoded
  induction text with
  | nil => simp
  | cons c text ih =>
      have := c.utf8Size_pos
      simp only [List.length_cons, List.flatMap_cons, List.length_append,
        String.length_utf8EncodeChar]
      omega

end Text

namespace Tag

/-- The item is the digits in ASCII, as text or as octets. -/
inductive Numeral (digits : List Nat) : Item → Prop where
  | str (small : ∀ d ∈ digits, d < 10) :
      Numeral digits (.str (String.ofList (digits.map Nat.digitChar)))
  | bin (small : ∀ d ∈ digits, d < 10) :
      Numeral digits (.bin (digits.map fun d => octet (0x30 + d)))

/-- The item spells the number: as an integer, or, where text is accepted, as a numeral of at most
`maxDigits` digits. -/
inductive Spelling (acceptText : Bool) (number : Nat) : Item → Prop where
  | int : Spelling acceptText number (.int number)
  | numeral {digits : List Nat} {item : Item} (accepted : acceptText = true)
      (written : Numeral digits item) (some : digits ≠ []) (short : digits.length ≤ maxDigits)
      (value : Text.ofDigits digits = number) : Spelling acceptText number item

/-- The item is a numeral of more digits than are converted. -/
def LongNumeral (item : Item) : Prop := ∃ digits, Numeral digits item ∧ 4300 < digits.length

/-! ## Octets as text -/

theorem ofNat_eq_digit_iff {first : UInt8} {d : Nat} (small : d < 10) :
    (first < 0x80 ∧ Char.ofNat first.toNat = Nat.digitChar d) ↔ first = octet (0x30 + d) := by
  constructor
  · rintro ⟨ascii, eq⟩
    have low : first.toNat < 0x80 := by simpa using UInt8.lt_iff_toNat_lt.1 ascii
    have digit : ∀ n, n < 0x80 → ∀ d, d < 10 → Char.ofNat n = Nat.digitChar d → n = 0x30 + d := by
      decide
    rw [← digit _ low d small eq]
    simp [octet]
  · rintro rfl
    revert d
    decide

/-- Octets of ASCII are digits exactly where they are the octets of those digits. -/
theorem map_ofNat_eq_digits_iff {octets : Octets} {digits : List Nat}
    (small : ∀ d ∈ digits, d < 10) :
    (octets.all (· < 0x80) = true ∧
      octets.map (fun octet => Char.ofNat octet.toNat) = digits.map Nat.digitChar) ↔
      octets = digits.map fun d => octet (0x30 + d) := by
  induction octets generalizing digits with
  | nil => cases digits <;> simp
  | cons first rest ih =>
      cases digits with
      | nil => simp
      | cons d digits =>
          simp only [List.mem_cons, forall_eq_or_imp] at small
          have front : (first < 0x80 ∧ _) ↔ _ := ofNat_eq_digit_iff small.1
          have back := ih small.2
          simp only [List.all_cons, List.map_cons, List.cons.injEq, Bool.and_eq_true,
            decide_eq_true_eq] at back ⊢
          rw [← front, ← back]
          tauto

/-! ## Reading a number -/

theorem readText_eq_ok_iff {text : List Char} {number : Nat} :
    readText text = .ok number ↔ ∃ digits, Text.IsDigits digits text ∧ digits ≠ [] ∧
      digits.length ≤ maxDigits ∧ Text.ofDigits digits = number ∧ number < bound := by
  simp only [← Text.mapM_asciiDigit?_eq_some_iff]
  unfold readText
  split
  · next none => simp [none]
  · next digits found =>
    simp only [found, Option.some.injEq, exists_eq_left', List.isEmpty_iff]
    split_ifs with empty long fits
    · simp [empty]
    · simp only [false_iff]
      omega
    · constructor
      · rintro ⟨⟩
        exact ⟨empty, by omega, rfl, fits⟩
      · rintro ⟨-, -, rfl, -⟩
        rfl
    · simp only [false_iff]
      rintro ⟨-, -, rfl, below⟩
      exact fits below

theorem readText_eq_oversized_iff {text : List Char} :
    readText text = .error .oversized ↔
      ∃ digits, Text.IsDigits digits text ∧ 4300 < digits.length := by
  have bound : maxDigits = 4300 := rfl
  simp only [← Text.mapM_asciiDigit?_eq_some_iff, ← bound]
  unfold readText
  split
  · next none => simp [none]
  · next digits found =>
    simp only [found, Option.some.injEq, exists_eq_left', List.isEmpty_iff]
    split_ifs with empty long fits
    · simp [empty]
    · simp [long]
    · simp [long]
    · simp [long]

theorem numeral_str_iff {digits : List Nat} {text : String} :
    Numeral digits (.str text) ↔ Text.IsDigits digits text.toList := by
  constructor
  · rintro ⟨small⟩
    exact ⟨small, String.toList_ofList⟩
  · rintro ⟨small, eq⟩
    rw [← String.ofList_toList (s := text), eq]
    exact .str small

theorem numeral_bin_iff {digits : List Nat} {octets : Octets} :
    Numeral digits (.bin octets) ↔ octets.all (· < 0x80) = true ∧
      Text.IsDigits digits (octets.map fun octet => Char.ofNat octet.toNat) := by
  constructor
  · intro h
    cases h with
    | bin small =>
      obtain ⟨ascii, eq⟩ := (map_ofNat_eq_digits_iff small).2 rfl
      exact ⟨ascii, small, eq⟩
  · rintro ⟨ascii, small, eq⟩
    rw [(map_ofNat_eq_digits_iff small).1 ⟨ascii, eq⟩]
    exact .bin small

/-- Text and octets are read by their digits, if they are a numeral. -/
theorem read_of_accepted {item : Item} {number : Nat} (notInt : ∀ value, item ≠ .int value) :
    read true (.ofItem item) = .ok number ↔ ∃ digits, Numeral digits item ∧ digits ≠ [] ∧
      digits.length ≤ maxDigits ∧ Text.ofDigits digits = number ∧ number < bound := by
  cases item with
  | int value => exact absurd rfl (notInt value)
  | str text => simp only [RawTag.ofItem, read, if_true, readText_eq_ok_iff, numeral_str_iff]
  | bin octets =>
      simp only [RawTag.ofItem, read, if_true, numeral_bin_iff]
      split_ifs with ascii
      · simp only [readText_eq_ok_iff, ascii, true_and]
      · simp [ascii]
  | _ =>
      constructor
      · rintro ⟨⟩
      · rintro ⟨digits, ⟨⟩, -⟩

/-- Nothing but integers is read where text is not accepted. -/
theorem read_of_refused {item : Item} (notInt : ∀ value, item ≠ .int value) :
    ∃ fault, read false (.ofItem item) = .error (.refused fault) := by
  cases item with
  | int value => exact absurd rfl (notInt value)
  | _ => exact ⟨_, rfl⟩

/-- A number is read from an item exactly where the item spells it. -/
theorem read_eq_ok_iff {acceptText : Bool} {item : Item} {number : Nat} :
    read acceptText (.ofItem item) = .ok number ↔
      number < bound ∧ Spelling acceptText number item := by
  by_cases integer : ∃ value, item = .int value
  · obtain ⟨value, rfl⟩ := integer
    simp only [RawTag.ofItem, read, Bool.and_eq_true, decide_eq_true_eq]
    constructor
    · intro h
      split_ifs at h with range
      cases h
      refine ⟨by omega, ?_⟩
      rw [← Int.toNat_of_nonneg range.1]
      exact .int
    · rintro ⟨below, h⟩
      cases h with
      | int => simp [below]
      | numeral _ written => cases written
  · have notInt : ∀ value, item ≠ .int value := by simpa using integer
    cases acceptText with
    | false =>
        obtain ⟨fault, refused⟩ := read_of_refused notInt
        rw [refused]
        constructor
        · rintro ⟨⟩
        · rintro ⟨-, h⟩
          cases h with
          | int => exact absurd rfl (notInt number)
          | numeral accepted => cases accepted
    | true =>
        rw [read_of_accepted notInt]
        constructor
        · rintro ⟨digits, written, some, short, value, below⟩
          exact ⟨below, .numeral rfl written some short value⟩
        · rintro ⟨below, h⟩
          cases h with
          | int => exact absurd rfl (notInt number)
          | numeral _ written some short value => exact ⟨_, written, some, short, value, below⟩

/-- An item spells one number. -/
theorem Spelling.unique {acceptText : Bool} {item : Item} {number other : Nat}
    (first : Spelling acceptText number item) (second : Spelling acceptText other item)
    (below : number < bound) (below' : other < bound) : number = other := by
  have read := read_eq_ok_iff.2 ⟨below, first⟩
  rw [read_eq_ok_iff.2 ⟨below', second⟩, Except.ok.injEq] at read
  exact read.symm

/-- An integer is read or refused. -/
theorem read_int_ne_oversized {acceptText : Bool} {value : Int} :
    read acceptText (.ofItem (.int value)) ≠ .error .oversized := by
  simp only [RawTag.ofItem, read]
  split_ifs
  · rintro ⟨⟩
  · rintro ⟨⟩

/-- A numeral that is too long is the one thing that is neither read nor refused. -/
theorem read_eq_oversized_iff {acceptText : Bool} {item : Item} :
    read acceptText (.ofItem item) = .error .oversized ↔
      acceptText = true ∧ LongNumeral item := by
  by_cases integer : ∃ value, item = .int value
  · obtain ⟨value, rfl⟩ := integer
    constructor
    · intro h
      exact absurd h read_int_ne_oversized
    · rintro ⟨-, digits, ⟨⟩, -⟩
  · have notInt : ∀ value, item ≠ .int value := by simpa using integer
    cases acceptText with
    | false =>
        obtain ⟨fault, refused⟩ := read_of_refused notInt
        simp [refused]
    | true =>
        simp only [LongNumeral, true_and]
        cases item with
        | int value => exact absurd rfl (notInt value)
        | str text =>
            simp only [RawTag.ofItem, read, if_true, readText_eq_oversized_iff, numeral_str_iff]
        | bin octets =>
            simp only [RawTag.ofItem, read, if_true, numeral_bin_iff]
            split_ifs with ascii
            · simp only [readText_eq_oversized_iff, ascii, true_and]
            · simp [ascii]
        | _ =>
            constructor
            · rintro ⟨⟩
            · rintro ⟨digits, ⟨⟩, -⟩

/-! ## The shortest spelling -/

open MessagePack (writeNat)

/-- A number is written in no more octets than it has digits, and one. -/
theorem length_writeNat_le {digits : List Nat} (small : ∀ d ∈ digits, d < 10)
    (some : digits ≠ []) : (writeNat (Text.ofDigits digits)).length ≤ digits.length + 1 := by
  have few : ∀ {n}, digits.length ≤ n → Text.ofDigits digits < 10 ^ n := fun h =>
    Nat.lt_of_lt_of_le (Text.ofDigits_lt small) (Nat.pow_le_pow_right (by decide) h)
  have pos : 0 < digits.length := List.length_pos_iff.2 some
  unfold writeNat
  split_ifs with one two three four
  · simp
  · simp only [List.length_cons, Octets.length_bigEndian]
    omega
  · have : 2 < digits.length := by
      by_contra short
      have := few (n := 2) (by omega)
      omega
    simp only [List.length_cons, Octets.length_bigEndian]
    omega
  · have : 4 < digits.length := by
      by_contra short
      have := few (n := 4) (by omega)
      omega
    simp only [List.length_cons, Octets.length_bigEndian]
    omega
  · have : 9 < digits.length := by
      by_contra short
      have := few (n := 9) (by omega)
      omega
    simp only [List.length_cons, Octets.length_bigEndian]
    omega

/-- A form of a numeral has an octet for each digit after its head. -/
theorem Numeral.length_form {digits : List Nat} {item : Item} (written : Numeral digits item)
    {depth : Nat} {form : Octets} (h : Item.Form depth item form) :
    digits.length + 1 ≤ form.length := by
  cases written with
  | str small =>
      have many := Text.length_le_utf8ByteSize (digits.map Nat.digitChar)
      simp only [List.length_map] at many
      cases depth <;> cases h with
      | str head =>
        have := head.length_pos
        have whole : (String.ofList (digits.map Nat.digitChar)).toUTF8.data.toList.length =
            (String.ofList (digits.map Nat.digitChar)).utf8ByteSize := rfl
        rw [List.length_append, whole]
        omega
  | bin small =>
      cases depth <;> cases h with
      | bin head =>
        have := head.length_pos
        simp only [List.length_append, List.length_map]
        omega

/-- The integer can be written, and in no more octets than any spelling of it. -/
theorem Spelling.abridges {acceptText : Bool} {number : Nat} {item : Item}
    (h : Spelling acceptText number item) (below : number < bound) (depth : Nat) :
    Item.Abridges depth (.int number) item := by
  cases h with
  | int => exact MessagePack.Item.abridges_int _
  | @numeral digits item _ written some _ value =>
      subst value
      intro form h
      have small : ∀ d ∈ digits, d < 10 := by cases written <;> assumption
      have long := written.length_form h
      have short := length_writeNat_le small some
      have written : (Item.int (Text.ofDigits digits)).write = writeNat (Text.ofDigits digits) := by
        rw [Item.write]
        rfl
      rw [written]
      refine ⟨?_, by omega⟩
      simp only [Item.fits, MessagePack.Head.fits, Bool.and_eq_true, decide_eq_true_eq]
      unfold bound at below
      omega

end Tag

end Overlay
