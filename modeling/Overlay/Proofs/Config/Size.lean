/-
# Overlay.Proofs.Config.Size -- the texts that give a size

A size is a positive number in decimal.  A plus sign may stand in front of it, then zeros,
among which any underscores may stand; single underscores may stand between its digits, and a
point and zeros behind it.  `SizeForm` says this of a text, and `Config.numeral?` reads the
texts of this form and no others (`numeral?_eq_some_iff`), whatever white space is around
them.

The reader takes a text apart from the front, so each part has two lemmas: what was taken was
a part of its sort, and a part of its sort is taken whole.
-/
import Overlay.Config.Settings
import Overlay.Proofs.Text.Numeral
import Overlay.Proofs.Text.Trimming

namespace Overlay

set_option autoImplicit false

/-! ## Digits with underscores between them -/

namespace Text

/-- The text is the characters, with a single underscore between some of them. -/
inductive Grouped : (characters text : List Char) → Prop where
  | one (c : Char) : Grouped [c] [c]
  | next {c : Char} {characters text : List Char} (others : Grouped characters text) :
      Grouped (c :: characters) (c :: text)
  | apart {c : Char} {characters text : List Char} (others : Grouped characters text) :
      Grouped (c :: characters) (c :: '_' :: text)

variable {characters text : List Char} {digits : List Nat}

theorem Grouped.mem {c : Char} (grouped : Grouped characters text) (member : c ∈ text) :
    c ∈ characters ∨ c = '_' := by
  induction grouped with
  | one d => exact .inl member
  | next others ih =>
      rcases List.mem_cons.1 member with rfl | member
      · exact .inl List.mem_cons_self
      · exact (ih member).imp_left (List.mem_cons_of_mem _)
  | apart others ih =>
      rcases List.mem_cons.1 member with rfl | member
      · exact .inl List.mem_cons_self
      · rcases List.mem_cons.1 member with rfl | member
        · exact .inr rfl
        · exact (ih member).imp_left (List.mem_cons_of_mem _)

theorem Grouped.head? (grouped : Grouped characters text) : text.head? = characters.head? := by
  cases grouped <;> rfl

theorem Grouped.ne_nil (grouped : Grouped characters text) : text ≠ [] := by
  cases grouped <;> simp

theorem Grouped.refl (some : characters ≠ []) : Grouped characters characters := by
  induction characters with
  | nil => exact absurd rfl some
  | cons c characters ih =>
      cases characters with
      | nil => exact .one c
      | cons d characters => exact .next (ih (List.cons_ne_nil d characters))

theorem digitChar_ne {d : Nat} (small : d < 10) {c : Char} (other : c.isDigit = false) :
    Nat.digitChar d ≠ c := by
  rintro rfl
  have digit : ∀ n, n < 10 → (Nat.digitChar n).isDigit = true := by decide
  rw [digit d small] at other
  cases other

theorem cons_eq_some_iff {first : Option Nat} {others : Option (List Nat)} :
    (do return (← first) :: (← others)) = some digits ↔
      ∃ d ds, first = some d ∧ others = some ds ∧ d :: ds = digits := by
  cases first <;> cases others <;> simp

theorem grouped_of_groupedDigits? (read : groupedDigits? asciiDigit? text = some digits) :
    (∀ d ∈ digits, d < 10) ∧ Grouped (digits.map Nat.digitChar) text := by
  fun_induction groupedDigits? asciiDigit? text generalizing digits with
  | case1 => cases read
  | case2 c =>
      obtain ⟨d, digit, rfl⟩ := Option.map_eq_some_iff.1 read
      obtain ⟨small, rfl⟩ := asciiDigit?_eq_some_iff.1 digit
      exact ⟨by simpa using small, .one _⟩
  | case3 c rest ih =>
      obtain ⟨d, others, digit, readRest, rfl⟩ := cons_eq_some_iff.1 read
      obtain ⟨small, rfl⟩ := asciiDigit?_eq_some_iff.1 digit
      obtain ⟨smallRest, grouped⟩ := ih readRest
      exact ⟨List.forall_mem_cons.2 ⟨small, smallRest⟩, .apart grouped⟩
  | case4 c rest _ _ ih =>
      obtain ⟨d, others, digit, readRest, rfl⟩ := cons_eq_some_iff.1 read
      obtain ⟨small, rfl⟩ := asciiDigit?_eq_some_iff.1 digit
      obtain ⟨smallRest, grouped⟩ := ih readRest
      exact ⟨List.forall_mem_cons.2 ⟨small, smallRest⟩, .next grouped⟩

theorem groupedDigits?_of_grouped (small : ∀ d ∈ digits, d < 10)
    (grouped : Grouped (digits.map Nat.digitChar) text) :
    groupedDigits? asciiDigit? text = some digits := by
  induction digits generalizing text with
  | nil => cases grouped
  | cons d digits ih =>
      obtain ⟨first, others⟩ := List.forall_mem_cons.1 small
      have digit : asciiDigit? d.digitChar = some d := asciiDigit?_eq_some_iff.2 ⟨first, rfl⟩
      rw [List.map_cons] at grouped
      generalize same : digits.map Nat.digitChar = characters at grouped
      cases grouped with
      | one =>
          rw [List.map_eq_nil_iff.1 same, groupedDigits?, digit]
          rfl
      | apart grouped =>
          rw [groupedDigits?, digit, ih others (same ▸ grouped)]
          rfl
      | @next _ _ text grouped =>
          -- no underscore follows, as what follows starts with a digit
          have free : ∀ rest, text = '_' :: rest → False := by
            rintro rest rfl
            have starts : (digits.map Nat.digitChar).head? = some '_' := by
              rw [same, ← grouped.head?]
              rfl
            obtain ⟨e, member, underscore⟩ := List.mem_map.1 (List.mem_of_head? starts)
            exact digitChar_ne (others e member) rfl underscore
          rw [groupedDigits?, digit, ih others (same ▸ grouped)]
          · rfl
          · rintro rfl
            cases grouped
          · exact free

end Text

namespace Config

open Text (Grouped asciiDigit? groupedDigits?)

/-! ## The parts of a numeral -/

/-- Zeros in front of a numeral, among which any underscores may stand. -/
def LeadingZeros (text : List Char) : Prop :=
  text = [] ∨ ∃ more, text = '0' :: more ∧ ∀ c ∈ more, c = '0' ∨ c = '_'

/-- Nothing, or a point and zeros. -/
def ZeroFraction (text : List Char) : Prop :=
  text = [] ∨ ∃ zeros, text = '.' :: List.replicate (zeros + 1) '0'

variable {zeros rest body fraction text : List Char}

theorem exists_leadingZeros (text : List Char) :
    ∃ zeros, LeadingZeros zeros ∧ text = zeros ++ withoutZeros text ∧
      (withoutZeros text).head? ≠ some '0' := by
  unfold withoutZeros
  split
  · next rest =>
    refine ⟨'0' :: rest.takeWhile fun c => c == '0' || c == '_', .inr ⟨_, rfl, fun c member => ?_⟩,
      ?_, fun starts => ?_⟩
    · simpa using List.mem_takeWhile_imp member
    · rw [List.cons_append, List.takeWhile_append_dropWhile]
    · cases Text.free_of_head?_dropWhile starts
  · next other =>
    refine ⟨[], .inl rfl, rfl, fun starts => ?_⟩
    obtain ⟨rest, rfl⟩ := List.head?_eq_some_iff.1 starts
    exact other rest rfl

theorem withoutZeros_append (leading : LeadingZeros zeros)
    (starts : ∀ c, rest.head? = some c → c ≠ '0' ∧ c ≠ '_') :
    withoutZeros (zeros ++ rest) = rest := by
  rcases leading with rfl | ⟨more, rfl, all⟩
  · rw [List.nil_append]
    unfold withoutZeros
    split
    · exact absurd rfl (starts '0' rfl).1
    · rfl
  · rw [List.cons_append, withoutZeros, List.dropWhile_append_of_pos (by simpa using all)]
    cases rest with
    | nil => rfl
    | cons c rest => exact List.dropWhile_cons_of_neg (by simpa using starts c rfl)

theorem exists_zeroFraction (text : List Char) :
    ∃ fraction, ZeroFraction fraction ∧ text = withoutZeroFraction text ++ fraction := by
  have cut := List.prefix_iff_eq_append.1 (List.takeWhile_prefix (l := text) (· != '.'))
  unfold withoutZeroFraction
  dsimp only
  split
  · next zero zeros found =>
    rw [found] at cut
    split_ifs with all
    · refine ⟨_, .inr ⟨zeros.length, ?_⟩, cut.symm⟩
      rw [List.cons.injEq]
      refine ⟨rfl, List.eq_replicate_of_mem fun c member => ?_⟩
      simpa using List.all_eq_true.1 all c member
    · exact ⟨[], .inl rfl, (List.append_nil _).symm⟩
  · exact ⟨[], .inl rfl, (List.append_nil _).symm⟩

theorem withoutZeroFraction_append (whole : '.' ∉ body) (zero : ZeroFraction fraction) :
    withoutZeroFraction (body ++ fraction) = body := by
  have all : ∀ c ∈ body, (c != '.') = true := fun c member => by
    simpa using fun same : c = '.' => whole (same ▸ member)
  have ends : fraction.takeWhile (· != '.') = [] := by
    rcases zero with rfl | ⟨zeros, rfl⟩ <;> rfl
  have front : (body ++ fraction).takeWhile (· != '.') = body := by
    rw [List.takeWhile_append_of_pos all, ends, List.append_nil]
  unfold withoutZeroFraction
  dsimp only
  rw [front, List.drop_left]
  rcases zero with rfl | ⟨zeros, rfl⟩
  · exact List.append_nil _
  · simp [List.replicate_succ]

/-! ## Sizes -/

/-- A positive number in decimal, of so many digits as are converted. -/
inductive UnsignedSize (size : Nat) : List Char → Prop where
  | written {zeros body fraction : List Char} (leading : LeadingZeros zeros)
      (grouped : Grouped (Nat.toDigits 10 size) body) (zero : ZeroFraction fraction)
      (positive : 0 < size) (short : (Nat.toDigits 10 size).length ≤ 4300) :
      UnsignedSize size (zeros ++ body ++ fraction)

/-- The text gives the size: as it is, or behind a plus sign. -/
inductive SizeForm (size : Nat) : List Char → Prop where
  | plain {text : List Char} (written : UnsignedSize size text) : SizeForm size text
  | signed {text : List Char} (written : UnsignedSize size text) : SizeForm size ('+' :: text)

variable {digits : List Nat} {size : Nat}

/-- Digits are read from between leading zeros and a fraction of zero. -/
theorem exists_parts (read : groupedDigits? asciiDigit?
    (withoutZeroFraction (withoutZeros text)) = some digits) :
    ∃ zeros body fraction, text = zeros ++ body ++ fraction ∧ LeadingZeros zeros ∧
      ZeroFraction fraction ∧ (∀ d ∈ digits, d < 10) ∧ digits.head? ≠ some 0 ∧
      Grouped (digits.map Nat.digitChar) body := by
  obtain ⟨zeros, leading, whole, starts⟩ := exists_leadingZeros text
  obtain ⟨fraction, zero, rest⟩ := exists_zeroFraction (withoutZeros text)
  obtain ⟨small, grouped⟩ := Text.grouped_of_groupedDigits? read
  refine ⟨zeros, _, fraction, ?_, leading, zero, small, fun first => starts ?_, grouped⟩
  · rw [List.append_assoc, ← rest, ← whole]
  · have front : (withoutZeroFraction (withoutZeros text)).head? = some '0' := by
      rw [grouped.head?, List.head?_map, first]
      rfl
    rw [rest, List.head?_append, front]
    rfl

/-- A number starts as its decimal form does. -/
theorem head?_append_grouped (grouped : Grouped (Nat.toDigits 10 size) body)
    (fraction : List Char) :
    (body ++ fraction).head? = (Nat.toDigits 10 size).head? := by
  rw [List.head?_append_of_ne_nil _ grouped.ne_nil, grouped.head?]

theorem isDigit_of_head?_toDigits {c : Char} (starts : (Nat.toDigits 10 size).head? = some c) :
    c.isDigit = true :=
  Nat.isDigit_of_mem_toDigits (by decide) (by decide) (List.mem_of_head? starts)

/-- A number without a sign starts with a digit. -/
theorem UnsignedSize.isDigit_of_head? {c : Char} (written : UnsignedSize size text)
    (starts : text.head? = some c) : c.isDigit = true := by
  obtain ⟨leading, grouped, -, -, -⟩ := written
  rw [List.append_assoc] at starts
  rcases leading with rfl | ⟨more, rfl, -⟩
  · rw [List.nil_append, head?_append_grouped grouped] at starts
    exact isDigit_of_head?_toDigits starts
  · cases starts
    rfl

theorem unsignedSize_iff :
    (∃ digits, groupedDigits? asciiDigit? (withoutZeroFraction (withoutZeros text)) = some digits ∧
      digits.length ≤ 4300 ∧ Text.ofDigits digits = size) ↔ UnsignedSize size text := by
  constructor
  · rintro ⟨digits, read, short, rfl⟩
    obtain ⟨zeros, body, fraction, rfl, leading, zero, small, starts, grouped⟩ := exists_parts read
    cases digits with
    | nil => cases grouped
    | cons d digits =>
        have positive : 0 < d := Nat.pos_of_ne_zero fun none => starts (by rw [none]; rfl)
        have form := Text.toDigits_ofDigits small positive
        rw [← form] at grouped
        refine .written leading grouped zero (Text.ofDigits_pos positive) ?_
        rwa [form, List.length_map]
  · rintro ⟨leading, grouped, zero, positive, short⟩
    obtain ⟨digits, written⟩ := Text.exists_isDigits fun c =>
      Nat.isDigit_of_mem_toDigits (b := 10) (n := size) (by decide) (by decide)
    refine ⟨digits, ?_, ?_, ?_⟩
    · rw [List.append_assoc, withoutZeros_append leading, withoutZeroFraction_append _ zero]
      · exact Text.groupedDigits?_of_grouped written.1 (written.2 ▸ grouped)
      · intro point
        have other : ∀ c ∈ Nat.toDigits 10 size, c ≠ '.' := by
          rintro c member rfl
          cases Nat.isDigit_of_mem_toDigits (by decide) (by decide) member
        rcases grouped.mem point with member | same
        · exact other '.' member rfl
        · cases same
      · intro c starts
        rw [head?_append_grouped grouped] at starts
        refine ⟨?_, ?_⟩
        · rintro rfl
          exact Text.head?_toDigits_ne positive starts
        · rintro rfl
          cases isDigit_of_head?_toDigits starts
    · rwa [written.2, List.length_map] at short
    · rw [written.ofDigits_eq, Nat.ofDigitChars_ten_toDigits]

theorem SizeForm.bounds (form : SizeForm size text) :
    0 < size ∧ (Nat.toDigits 10 size).length ≤ 4300 := by
  rcases form with (⟨-, -, -, positive, short⟩ | ⟨-, -, -, positive, short⟩) <;>
    exact ⟨positive, short⟩

/-- The decimal form of a size gives it. -/
theorem sizeForm_toDigits (positive : 0 < size) (short : (Nat.toDigits 10 size).length ≤ 4300) :
    SizeForm size (Nat.toDigits 10 size) := by
  have whole :=
    UnsignedSize.written (.inl rfl) (.refl Nat.toDigits_ne_nil) (.inl rfl) positive short
  rw [List.nil_append, List.append_nil] at whole
  exact .plain whole

/-- A text without a plus sign in front. -/
def withoutPlus : List Char → List Char
  | '+' :: rest => rest
  | text => text

theorem sizeForm_iff : SizeForm size text ↔ UnsignedSize size (withoutPlus text) := by
  constructor
  · rintro (written | written)
    · unfold withoutPlus
      split
      · cases written.isDigit_of_head? rfl
      · exact written
    · exact written
  · unfold withoutPlus
    split
    · exact .signed
    · exact .plain

/-- A numeral is read from its digits, once all that may stand around them is gone. -/
theorem numeral?_eq_bind (text : String) :
    numeral? text =
      (groupedDigits? asciiDigit? (withoutZeroFraction (withoutZeros
        (withoutPlus (Text.trim Text.isSpace text.toList))))).bind fun digits =>
          if Text.maxDigits < digits.length then none else some (Text.ofDigits digits) := by
  unfold numeral? withoutPlus
  generalize Text.trim Text.isSpace text.toList = trimmed
  dsimp only
  generalize groupedDigits? asciiDigit? _ = digits
  cases digits <;> rfl

/-- A numeral is read exactly from the texts that give a size, and as that size. -/
theorem numeral?_eq_some_iff {text : String} :
    numeral? text = some size ↔ SizeForm size (Text.trim Text.isSpace text.toList) := by
  rw [sizeForm_iff, ← unsignedSize_iff, numeral?_eq_bind, Option.bind_eq_some_iff]
  refine exists_congr fun digits => and_congr_right fun _ => ?_
  by_cases long : Text.maxDigits < digits.length
  · rw [if_pos long]
    have refused : ¬ digits.length ≤ 4300 := Nat.not_le.2 long
    simp only [reduceCtorEq, refused, false_and]
  · rw [if_neg long, Option.some.injEq]
    exact (and_iff_right (Nat.not_lt.1 long)).symm

end Config

end Overlay
