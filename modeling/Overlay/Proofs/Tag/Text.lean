/-
# Overlay.Proofs.Tag.Text -- tags that are written as text

A text of so many characters as are converted writes a tag number exactly if it is the
number in decimal, behind any zeros (`Tag.readText_eq_ok_iff_padded`); every other such
text is refused (`Tag.exists_readText_refused`).  There is nothing in between: no sign, no
blank, no mark between digits and no digit of another script.

Octets are read as the text that they are in ASCII, so it makes no difference in which of
the two forms a text is given (`Datum.readTag_ascii`), and octets outside ASCII are refused
(`Datum.tag_text_exactly`).
-/
import Overlay.Datum.Registry
import Overlay.Proofs.Text.Numeral

namespace Overlay

set_option autoImplicit false

open Text (padded ascii)

/-! ## Text -/

namespace Tag

variable {text : List Char} {number : Nat}

theorem readText_eq_ok_iff_padded (short : text.length ≤ maxDigits) :
    readText text = .ok number ↔ number < bound ∧ ∃ zeros, text = padded zeros number := by
  rw [readText_eq_ok_iff, ← Text.exists_isDigits_iff]
  constructor
  · rintro ⟨digits, written, some, -, value, below⟩
    exact ⟨below, digits, written, some, value⟩
  · rintro ⟨below, digits, written, some, value⟩
    have length : text.length = digits.length := by rw [written.2, List.length_map]
    exact ⟨digits, written, some, length ▸ short, value, below⟩

/-- What is short enough to be converted and writes no tag number is refused. -/
theorem exists_readText_refused (short : text.length ≤ maxDigits)
    (other : ∀ zeros number, number < bound → text ≠ padded zeros number) :
    ∃ fault, readText text = .error (.refused fault) := by
  cases read : readText text with
  | ok number =>
      obtain ⟨below, zeros, same⟩ := (readText_eq_ok_iff_padded short).1 read
      exact absurd same (other zeros number below)
  | error problem =>
      cases problem with
      | refused fault => exact ⟨fault, rfl⟩
      | oversized =>
          obtain ⟨digits, written, long⟩ := readText_eq_oversized_iff.1 read
          rw [written.2, List.length_map] at short
          exact absurd long (Nat.not_lt.2 short)

end Tag

/-! ## Values -/

namespace Datum

/-- What reading a tag gives for a value, as a value again. -/
def ofReading : Except TagProblem Nat → Except Fault Datum
  | .ok number => .ok (.int number)
  | .error problem => .error (Failure.ofTag .leadingTag problem).fault

/-- Only a registered tag is given back as it is. -/
theorem readTag_of_not_registered {acceptText : Bool} {datum : Datum}
    (other : ∀ t, datum ≠ .registered t) :
    readTag acceptText datum = ofReading (Tag.read acceptText datum.rawTag) := by
  unfold readTag
  generalize Tag.read acceptText datum.rawTag = result
  split
  · next t _ => exact absurd rfl (other t)
  · rfl
  · rfl

theorem readTag_text (text : String) :
    readTag true (.text text) = ofReading (Tag.readText text.toList) :=
  readTag_of_not_registered nofun

theorem readTag_octets (octets : Octets) :
    readTag true (.octets .fixed octets) = ofReading (Tag.read true (.octets octets)) :=
  readTag_of_not_registered nofun

/-- Octets of ASCII are read as the text that they are. -/
theorem readTag_octets_of_plain {octets : Octets} (plain : octets.all (· < 0x80) = true) :
    readTag true (.octets .fixed octets) =
      readTag true (.text (String.ofList (octets.map fun octet => Char.ofNat octet.toNat))) := by
  have read : Tag.read true (.octets octets) =
      Tag.readText (octets.map fun octet => Char.ofNat octet.toNat) := if_pos plain
  rw [readTag_octets, readTag_text, String.toList_ofList, read]

theorem readTag_ascii {text : String} (plain : ∀ c ∈ text.toList, c.toNat < 0x80) :
    readTag true (.octets .fixed (ascii text.toList)) = readTag true (.text text) := by
  rw [readTag_octets_of_plain (Text.all_ascii plain), Text.map_ofNat_ascii plain,
    String.ofList_toList]

/-- What is short enough to be converted and writes no tag number is refused as a bad tag. -/
theorem exists_readTag_text_refused {text : String} (short : text.length ≤ Tag.maxDigits)
    (other : ∀ zeros number, number < Tag.bound → text.toList ≠ padded zeros number) :
    ∃ refusal, readTag true (.text text) = .error (.refused refusal) ∧ refusal.kind = .badTag := by
  obtain ⟨fault, refused⟩ := Tag.exists_readText_refused (by rwa [String.length_toList]) other
  exact ⟨.leadingTag fault, by rw [readTag_text, refused]; rfl, rfl⟩

theorem exists_readTag_octets_refused {octets : Octets} (short : octets.length ≤ Tag.maxDigits)
    (other : ∀ zeros number, number < Tag.bound → octets ≠ ascii (padded zeros number)) :
    ∃ refusal, readTag true (.octets .fixed octets) = .error (.refused refusal) ∧
      refusal.kind = .badTag := by
  by_cases plain : octets.all (· < 0x80) = true
  · rw [readTag_octets_of_plain plain]
    refine exists_readTag_text_refused (by simpa using short) fun zeros number below same => ?_
    rw [String.toList_ofList] at same
    exact other zeros number below (by rw [← same, Text.ascii_map_ofNat plain])
  · have refused : Tag.read true (.octets octets) = .error (.refused .notAscii) := if_neg plain
    exact ⟨.leadingTag .notAscii, by rw [readTag_octets, refused]; rfl, rfl⟩

/-- Where text is accepted, a number below `2 ^ 64` is read from its decimal form behind any zeros,
as text and as octets, up to 4300 characters; all other text and octets of that length are refused
as a bad tag.  A text of ASCII, of any length, and its octets are read alike. -/
theorem tag_text_exactly :
    (∀ zeros number : Nat, number < 2 ^ 64 → (padded zeros number).length ≤ 4300 →
      readTag true (.text (String.ofList (padded zeros number))) = .ok (.int number) ∧
        readTag true (.octets .fixed (ascii (padded zeros number))) = .ok (.int number)) ∧
    (∀ text : String, text.length ≤ 4300 →
      (∀ zeros number : Nat, number < 2 ^ 64 → text.toList ≠ padded zeros number) →
      ∃ refusal, readTag true (.text text) = .error (.refused refusal) ∧
        refusal.kind = .badTag) ∧
    (∀ octets : Octets, octets.length ≤ 4300 →
      (∀ zeros number : Nat, number < 2 ^ 64 → octets ≠ ascii (padded zeros number)) →
      ∃ refusal, readTag true (.octets .fixed octets) = .error (.refused refusal) ∧
        refusal.kind = .badTag) ∧
    ∀ text : String, (∀ c ∈ text.toList, c.toNat < 0x80) →
      readTag true (.octets .fixed (ascii text.toList)) = readTag true (.text text) := by
  refine ⟨fun zeros number below short => ?_, fun text => exists_readTag_text_refused,
    fun octets => exists_readTag_octets_refused, fun text => readTag_ascii⟩
  have read : Tag.readText (padded zeros number) = .ok number :=
    (Tag.readText_eq_ok_iff_padded short).2 ⟨below, zeros, rfl⟩
  have fromText : readTag true (.text (String.ofList (padded zeros number))) =
      .ok (.int number) := by
    rw [readTag_text, String.toList_ofList, read]
    rfl
  refine ⟨fromText, ?_⟩
  have plain : ∀ c ∈ (String.ofList (padded zeros number)).toList, c.toNat < 0x80 := by
    rw [String.toList_ofList]
    exact fun c member => Text.toNat_lt_of_isDigit (Text.isDigit_of_mem_padded member)
  have alike := readTag_ascii plain
  rwa [fromText, String.toList_ofList] at alike

/-- Seven behind two zeros is read as text and as octets; with a sign it is refused in both forms,
and so is the first number that is too large. -/
theorem tag_text_exactly_seven :
    (readTag true (.text "007") = .ok (.int 7) ∧
      readTag true (.octets .fixed [0x30, 0x30, 0x37]) = .ok (.int 7)) ∧
    (∃ refusal, readTag true (.text "+7") = .error (.refused refusal) ∧ refusal.kind = .badTag) ∧
    (∃ refusal, readTag true (.octets .fixed [0x2B, 0x37]) = .error (.refused refusal) ∧
      refusal.kind = .badTag) ∧
    (∃ refusal, readTag true (.text "18446744073709551616") = .error (.refused refusal) ∧
      refusal.kind = .badTag) ∧
    readTag true (.octets .fixed [0x2B, 0x37]) = readTag true (.text "+7") := by
  obtain ⟨read, refused, refused', alike⟩ := tag_text_exactly
  have signed : ∀ zeros number, ['+', '7'] ≠ padded zeros number := fun zeros number same => by
    have digit : '+'.isDigit = true := Text.isDigit_of_mem_padded (by rw [← same]; decide)
    cases digit
  have plain : "+7".toList.all (fun c => c.toNat < 0x80) = true := by decide
  refine ⟨read 2 7 (by decide) (by decide), refused _ (by decide) fun zeros number _ => ?_,
    refused' _ (by decide) fun zeros number _ same => ?_, refused _ (by decide) ?_,
    alike "+7" (by simpa only [List.all_eq_true, decide_eq_true_eq] using plain)⟩
  · exact signed zeros number
  · refine signed zeros number ?_
    have digits : ∀ c ∈ padded zeros number, c.toNat < 0x80 := fun c member =>
      Text.toNat_lt_of_isDigit (Text.isDigit_of_mem_padded member)
    rw [← Text.map_ofNat_ascii digits, ← same]
    decide
  · intro zeros number below same
    have value := Text.ofDigitChars_padded zeros number
    rw [← same] at value
    have large : Nat.ofDigitChars 10 "18446744073709551616".toList 0 = 2 ^ 64 := by decide
    omega

end Datum

end Overlay
