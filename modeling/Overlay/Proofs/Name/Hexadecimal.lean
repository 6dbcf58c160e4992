/-
# Overlay.Proofs.Name.Hexadecimal -- the texts that write a name in hexadecimal

`Octets.HexPairs count` are the texts of so many pairs of hexadecimal digits, of either case,
with nothing but ASCII white space between the pairs.  A text without white space at its ends
is read as octets exactly if it is such pairs, and as so many octets as there are pairs
(`Octets.exists_ofHex?_iff`); the digits of what was read are those of the text in lower case
(`Octets.hexDigits_of_ofHex?`).

White space at the ends is that of Unicode and goes first.  A name is then 64 pairs: any other
number of pairs is a wrong size, and what is no pairs is no size at all
(`Datum.hexadecimal_exactly`).
-/
import Mathlib.Tactic.SplitIfs
import Overlay.Datum.Naming
import Overlay.Proofs.Text.Trimming

namespace Overlay

set_option autoImplicit false

namespace Octets

open Text (isAsciiBlank isBlank Bare)

/-! ## Digits -/

/-- The character is a hexadecimal digit of either case. -/
def isHexDigit (c : Char) : Bool := "0123456789abcdefABCDEF".toList.contains c

/-- What is read from a character of ASCII is a digit, and this is the digit in lower case. -/
theorem hexDigit?_ofNat : ∀ m, m < 0x67 → ∀ n ∈ hexDigit? (Char.ofNat m),
    hexDigit n = (Char.ofNat m).toLower ∧ isHexDigit (Char.ofNat m) = true ∧
      isBlank (Char.ofNat m) = false := by
  decide

theorem exists_hexDigit? {c : Char} (h : isHexDigit c = true) : ∃ n, hexDigit? c = some n := by
  have read : "0123456789abcdefABCDEF".toList.all (fun d => (hexDigit? d).isSome) = true := by
    decide
  exact Option.isSome_iff_exists.1 (List.all_eq_true.1 read c (List.contains_iff_mem.1 h))

variable {c high low : Char} {n : Nat}

theorem lt_of_hexDigit? (h : hexDigit? c = some n) : c.toNat < 0x67 ∧ n < 16 := by
  simp only [hexDigit?] at h
  split_ifs at h <;>
    simp only [Option.some.injEq, Bool.and_eq_true, decide_eq_true_eq] at * <;> omega

theorem of_hexDigit? (h : hexDigit? c = some n) :
    hexDigit n = c.toLower ∧ isHexDigit c = true ∧ isBlank c = false := by
  have digit := hexDigit?_ofNat c.toNat (lt_of_hexDigit? h).1
  rw [Char.ofNat_toNat] at digit
  exact digit n h

theorem isBlank_of_isAsciiBlank (h : isAsciiBlank c = true) : isBlank c = true :=
  Text.isBlank_of_isSpace (Text.isSpace_of_isAsciiBlank h)

theorem isAsciiBlank_of_hexDigit? (h : hexDigit? c = some n) : isAsciiBlank c = false := by
  by_contra blank
  have free := (of_hexDigit? h).2.2
  rw [isBlank_of_isAsciiBlank (by simpa using blank)] at free
  cases free

/-! ## Pairs -/

/-- So many pairs of hexadecimal digits, with nothing but ASCII white space between them. -/
inductive HexPairs : (count : Nat) → List Char → Prop where
  | none : HexPairs 0 []
  | one {high low : Char} (first : isHexDigit high = true) (second : isHexDigit low = true) :
      HexPairs 1 [high, low]
  | more {count : Nat} {high low : Char} {gap text : List Char}
      (first : isHexDigit high = true) (second : isHexDigit low = true)
      (blank : ∀ c ∈ gap, isAsciiBlank c = true) (others : HexPairs (count + 1) text) :
      HexPairs (count + 2) (high :: low :: (gap ++ text))

variable {gap text : List Char} {octets : Octets} {count : Nat}

theorem ofHex?_cons_blank (blank : isAsciiBlank c = true) (text : List Char) :
    ofHex? (c :: text) = ofHex? text := by
  cases text with
  | nil => simp [ofHex?, blank]
  | cons d rest => rw [ofHex?, if_pos blank]

theorem ofHex?_blanks_append (blank : ∀ c ∈ gap, isAsciiBlank c = true) (text : List Char) :
    ofHex? (gap ++ text) = ofHex? text := by
  induction gap with
  | nil => rfl
  | cons c gap ih =>
      obtain ⟨first, others⟩ := List.forall_mem_cons.1 blank
      rw [List.cons_append, ofHex?_cons_blank first, ih others]

/-- A pair is read as an octet. -/
theorem ofHex?_pair (first : isHexDigit high = true) (second : isHexDigit low = true)
    (text : List Char) :
    ∃ octet, ofHex? (high :: low :: text) = (ofHex? text).map (octet :: ·) := by
  obtain ⟨m, readHigh⟩ := exists_hexDigit? first
  obtain ⟨n, readLow⟩ := exists_hexDigit? second
  refine ⟨UInt8.ofNat (16 * m + n), ?_⟩
  rw [ofHex?, if_neg (by simp [isAsciiBlank_of_hexDigit? readHigh]), readHigh, readLow]

/-- Pairs are read, each as an octet. -/
theorem HexPairs.exists_ofHex? (pairs : HexPairs count text) :
    ∃ octets, ofHex? text = some octets ∧ octets.length = count := by
  induction pairs with
  | none => exact ⟨[], rfl, rfl⟩
  | one first second =>
      obtain ⟨octet, read⟩ := ofHex?_pair first second []
      exact ⟨[octet], read, rfl⟩
  | @more count high low gap text first second blank others ih =>
      obtain ⟨octet, read⟩ := ofHex?_pair first second (gap ++ text)
      obtain ⟨octets, rest, length⟩ := ih
      rw [ofHex?_blanks_append blank, rest] at read
      exact ⟨octet :: octets, read, by rw [List.length_cons, length]⟩

/-- What is read, with no blank at its end, is pairs behind blanks. -/
theorem exists_pairs_of_ofHex? (read : ofHex? text = some octets)
    (ends : ∀ c, text.getLast? = some c → isAsciiBlank c = false) :
    ∃ gap rest, text = gap ++ rest ∧ (∀ c ∈ gap, isAsciiBlank c = true) ∧
      HexPairs octets.length rest := by
  fun_induction ofHex? text generalizing octets with
  | case1 =>
      cases read
      exact ⟨[], [], rfl, by simp, .none⟩
  | case2 c blank =>
      rw [ends c rfl] at blank
      cases blank
  | case3 => cases read
  | case4 c d rest blank ih =>
      obtain ⟨gap, others, same, blanks, pairs⟩ := ih read ends
      exact ⟨c :: gap, others, by rw [same]; rfl, List.forall_mem_cons.2 ⟨blank, blanks⟩, pairs⟩
  | case5 c d rest solid high low readLow readHigh ih =>
      obtain ⟨octets, readRest, rfl⟩ := Option.map_eq_some_iff.1 read
      have first := (of_hexDigit? readHigh).2.1
      have second := (of_hexDigit? readLow).2.1
      have endsRest : ∀ c, rest.getLast? = some c → isAsciiBlank c = false := fun c last =>
        ends c (by simp [List.getLast?_cons, last])
      obtain ⟨gap, others, rfl, blanks, pairs⟩ := ih readRest endsRest
      refine ⟨[], _, rfl, by simp, ?_⟩
      rw [List.length_cons]
      generalize octets.length = count at pairs
      cases count with
      | succ count => exact .more first second blanks pairs
      | zero =>
          -- without a further pair there is nothing but blanks, so there are none
          cases pairs
          have none : gap = [] := by
            rw [← List.getLast?_eq_none_iff, Option.eq_none_iff_forall_ne_some]
            intro c last
            have solid := endsRest c (by simpa using last)
            rw [blanks c (List.mem_of_getLast? last)] at solid
            cases solid
          rw [none]
          exact .one first second
  | case6 => cases read

/-- Without blanks at its ends, a text is read as so many octets if it is so many pairs. -/
theorem exists_ofHex?_iff (bare : Bare isAsciiBlank text) :
    (∃ octets, ofHex? text = some octets ∧ octets.length = count) ↔ HexPairs count text := by
  refine ⟨?_, HexPairs.exists_ofHex?⟩
  rintro ⟨octets, read, rfl⟩
  obtain ⟨gap, rest, rfl, blanks, pairs⟩ := exists_pairs_of_ofHex? read bare.last
  cases gap with
  | nil => exact pairs
  | cons c gap =>
      have solid := bare.head c rfl
      rw [blanks c List.mem_cons_self] at solid
      cases solid

/-- The digits of what is read are those of the text, in lower case. -/
theorem hexDigits_of_ofHex? (read : ofHex? text = some octets) :
    hexDigits octets = (text.filter fun c => !isBlank c).map Char.toLower := by
  fun_induction ofHex? text generalizing octets with
  | case1 =>
      cases read
      rfl
  | case2 c blank =>
      cases read
      simp [isBlank_of_isAsciiBlank blank, hexDigits]
  | case3 => cases read
  | case4 c d rest blank ih =>
      rw [List.filter_cons_of_neg (by simp [isBlank_of_isAsciiBlank blank])]
      exact ih read
  | case5 c d rest solid high low readLow readHigh ih =>
      obtain ⟨octets, readRest, rfl⟩ := Option.map_eq_some_iff.1 read
      obtain ⟨upper, -, free⟩ := of_hexDigit? readHigh
      obtain ⟨lower, -, free'⟩ := of_hexDigit? readLow
      have small := (lt_of_hexDigit? readHigh).2
      have small' := (lt_of_hexDigit? readLow).2
      have value : (UInt8.ofNat (16 * high + low)).toNat = 16 * high + low := by
        rw [UInt8.toNat_ofNat']
        omega
      have split : hexDigits (UInt8.ofNat (16 * high + low) :: octets) =
          hexDigit high :: hexDigit low :: hexDigits octets := by
        have front : (16 * high + low) / 16 = high := by omega
        have back : (16 * high + low) % 16 = low := by omega
        rw [hexDigits, List.flatMap_cons, value, front, back]
        rfl
      rw [List.filter_cons_of_pos (by simp [free]), List.filter_cons_of_pos (by simp [free']),
        split, upper, lower, ih readRest]
      rfl
  | case6 => cases read

theorem bare_hexDigits (octets : Octets) : Bare isBlank (hexDigits octets) := by
  refine .of_forall fun c member => ?_
  obtain ⟨n, small, rfl⟩ := exists_of_mem_hexDigits member
  exact (of_hexDigit? (hexDigit?_hexDigit small)).2.2

end Octets

/-! ## Names -/

namespace Name

open Octets (HexPairs)
open Text (isBlank strip)

variable {text : String} {name : Name} {count : Nat}

/-- A text less the white space of Unicode at its ends has none of ASCII there. -/
theorem bare_strip (text : String) : Text.Bare Text.isAsciiBlank (strip text).toList := by
  rw [strip, String.toList_ofList]
  exact (Text.bare_trim _ _).mono fun _ => Octets.isBlank_of_isAsciiBlank

theorem ofHex_eq_ok_iff :
    ofHex text = .ok name ↔ Octets.ofHex? (strip text).toList = some name.octets := by
  unfold ofHex
  cases Octets.ofHex? (strip text).toList with
  | none => simp
  | some octets =>
      dsimp only
      rw [Option.some.injEq]
      cases sized : Fixed.ofField size "NameType" octets with
      | ok id =>
          rw [Fixed.ofField_eq_ok_iff.1 sized, Except.ok.injEq]
          exact ⟨fun same => by rw [← same]; rfl, Name.ext⟩
      | error mismatch =>
          obtain ⟨other, -⟩ := Fixed.ofField_eq_error_iff.1 sized
          refine ⟨nofun, fun same => absurd ?_ other⟩
          rw [same, length_octets]
          rfl

theorem ofHex_eq_size_iff {mismatch : SizeMismatch} :
    ofHex text = .error (.size mismatch) ↔
      ∃ octets, Octets.ofHex? (strip text).toList = some octets ∧ octets.length ≠ size ∧
        mismatch = .of size octets.length "NameType" := by
  unfold ofHex
  cases Octets.ofHex? (strip text).toList with
  | none => simp
  | some octets =>
      simp only [Option.some.injEq, exists_eq_left', ← Fixed.ofField_eq_error_iff]
      cases Fixed.ofField size "NameType" octets <;> simp

theorem ofHex_eq_notHex_iff :
    ofHex text = .error .notHex ↔ Octets.ofHex? (strip text).toList = none := by
  unfold ofHex
  cases Octets.ofHex? (strip text).toList with
  | none => simp
  | some octets =>
      dsimp only
      cases Fixed.ofField size "NameType" octets <;> simp

/-- A name is read from 64 pairs. -/
theorem exists_ofHex_iff : (∃ name, ofHex text = .ok name) ↔ HexPairs 64 (strip text).toList := by
  rw [← Octets.exists_ofHex?_iff (bare_strip text)]
  constructor
  · rintro ⟨name, read⟩
    exact ⟨name.octets, ofHex_eq_ok_iff.1 read, name.length_octets⟩
  · rintro ⟨octets, read, whole⟩
    exact ⟨⟨octets, whole⟩, ofHex_eq_ok_iff.2 read⟩

/-- Any other number of pairs is a wrong size. -/
theorem ofHex_of_pairs (other : count ≠ 64) (pairs : HexPairs count (strip text).toList) :
    ofHex text = .error (.size (.of 64 count "NameType")) := by
  obtain ⟨octets, read, rfl⟩ := pairs.exists_ofHex?
  exact ofHex_eq_size_iff.2 ⟨octets, read, other, rfl⟩

/-- What is no pairs is not read at all. -/
theorem ofHex_of_not_pairs (none : ∀ count, ¬ HexPairs count (strip text).toList) :
    ofHex text = .error .notHex := by
  rw [ofHex_eq_notHex_iff, Option.eq_none_iff_forall_ne_some]
  intro octets read
  exact none _ ((Octets.exists_ofHex?_iff (bare_strip text)).1 ⟨octets, read, rfl⟩)

theorem ofHex_toHex (name : Name) : ofHex name.toHex = .ok name := by
  rw [ofHex_eq_ok_iff, strip, toHex, Octets.toHex, String.toList_ofList, String.toList_ofList,
    Text.trim_of_bare (Octets.bare_hexDigits _), Octets.ofHex?_hexDigits]

/-- The name that was read is written as the text in lower case, without its white space. -/
theorem toHex_of_ofHex (read : ofHex text = .ok name) :
    name.toHex = String.ofList ((text.toList.filter fun c => !isBlank c).map Char.toLower) := by
  rw [toHex, Octets.toHex, Octets.hexDigits_of_ofHex? (ofHex_eq_ok_iff.1 read), strip,
    String.toList_ofList, Text.filter_trim]

end Name

namespace Datum

open Octets (HexPairs)
open Text (isBlank strip)

theorem nameOfHex_text (text : String) :
    nameOfHex (.text text) =
      match Name.ofHex text with
      | .ok name => .ok (ofName name)
      | .error .notHex => .error .outside
      | .error (.size mismatch) => .error (.size mismatch) := by
  cases read : Name.ofHex text with
  | ok name => simp only [nameOfHex, read]
  | error fault => cases fault <;> simp only [nameOfHex, read]

theorem nameOfHex_text_eq_ok_iff {text : String} {name : Name} :
    nameOfHex (.text text) = .ok (ofName name) ↔ Name.ofHex text = .ok name := by
  rw [nameOfHex_text]
  constructor
  · intro h
    split at h <;> cases h
    assumption
  · intro read
    rw [read]

/-- A name is read from what it is written as.  Of all texts, those that give a name are 64 pairs of
hexadecimal digits, of either case and with nothing but ASCII white space between pairs, once the
white space at their ends is gone; the name is then written as the text in lower case, without its
white space.  Any other number of pairs is refused for its size, and all else for another reason. -/
theorem hexadecimal_exactly :
    (∀ name : Name, ∃ text, (ofName name).toHex = .ok text ∧
      nameOfHex (.text text) = .ok (ofName name)) ∧
    ∀ text : String,
      ((∃ name, nameOfHex (.text text) = .ok (ofName name)) ↔
        HexPairs 64 (strip text).toList) ∧
      (∀ name, nameOfHex (.text text) = .ok (ofName name) → (ofName name).toHex =
        .ok (String.ofList ((text.toList.filter fun c => !isBlank c).map Char.toLower))) ∧
      (∀ count, count ≠ 64 → HexPairs count (strip text).toList →
        nameOfHex (.text text) = .error (.size (.of 64 count "NameType"))) ∧
      ((∀ count, ¬ HexPairs count (strip text).toList) →
        nameOfHex (.text text) = .error .outside) := by
  refine ⟨fun name => ⟨name.toHex, rfl, nameOfHex_text_eq_ok_iff.2 (Name.ofHex_toHex name)⟩,
    fun text => ⟨?_, fun name read => ?_, fun count other pairs => ?_, fun none => ?_⟩⟩
  · simp only [nameOfHex_text_eq_ok_iff, Name.exists_ofHex_iff]
  · rw [← Name.toHex_of_ofHex (nameOfHex_text_eq_ok_iff.1 read)]
    rfl
  · rw [nameOfHex_text, Name.ofHex_of_pairs other pairs]
  · rw [nameOfHex_text, Name.ofHex_of_not_pairs none]

/-- The name whose octets are all as large as can be. -/
def largest : Name := ⟨⟨List.replicate 64 0xFF, List.length_replicate ..⟩⟩

/-- The digits of the largest name in both cases, with a tab after every pair, behind a space that is
not one of ASCII. -/
def largestSpelled : List Char := '\u00a0' :: (List.replicate 64 ['f', 'F', '\t']).flatten

/-- The largest name is read from that and written in lower case; two pairs are too few, and a pair
with a space inside is none. -/
theorem hexadecimal_exactly_largest :
    (ofName largest).toHex = .ok (String.ofList (List.replicate 128 'f')) ∧
      nameOfHex (.text "0A\t0b") = .error (.size (.of 64 2 "NameType")) ∧
      nameOfHex (.text "0 a") = .error .outside := by
  obtain ⟨-, spelled⟩ := hexadecimal_exactly
  obtain ⟨-, written, -, -⟩ := spelled (String.ofList largestSpelled)
  obtain ⟨-, -, size, -⟩ := spelled "0A\t0b"
  obtain ⟨-, -, -, none⟩ := spelled "0 a"
  refine ⟨?_, size 2 (by decide) ?_, none fun count pairs => ?_⟩
  · have read : Octets.ofHex? (Text.trim isBlank largestSpelled) = some largest.octets := by
      decide +kernel
    have lower : (largestSpelled.filter fun c => !isBlank c).map Char.toLower =
        List.replicate 128 'f' := by
      decide +kernel
    rw [written, String.toList_ofList, lower]
    rw [nameOfHex_text_eq_ok_iff, Name.ofHex_eq_ok_iff, strip, String.toList_ofList,
      String.toList_ofList, read]
  · have text : (strip "0A\t0b").toList = '0' :: 'A' :: (['\t'] ++ ['0', 'b']) := by decide
    have tab : ∀ c ∈ ['\t'], Text.isAsciiBlank c = true := fun c member => by
      rw [List.mem_singleton.1 member]
      rfl
    rw [text]
    exact .more rfl rfl tab (.one rfl rfl)
  · obtain ⟨octets, read, -⟩ := pairs.exists_ofHex?
    have none : (Octets.ofHex? (strip "0 a").toList).isNone = true := by decide
    rw [Option.isNone_iff_eq_none.1 none] at read
    cases read

end Datum

end Overlay
