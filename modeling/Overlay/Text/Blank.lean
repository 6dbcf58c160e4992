/-
# Overlay.Text.Blank — white space, and text without it at its ends

Three nested sets of white space matter.  `isAsciiBlank` is the space and the five
controls from tab to carriage return.  `isSpace` is what Unicode calls white space,
25 characters.  `isBlank` adds the four ASCII separators U+001C to U+001F, and is
what `strip` takes off both ends of a text.
-/

namespace Overlay.Text

set_option autoImplicit false

/-- The space and the controls from tab to carriage return. -/
def isAsciiBlank (c : Char) : Bool :=
  c.toNat == 0x20 || (0x09 ≤ c.toNat && c.toNat ≤ 0x0D)

/-- White space in the sense of Unicode. -/
def isSpace (c : Char) : Bool :=
  isAsciiBlank c || c.toNat == 0x85 || c.toNat == 0xA0 || c.toNat == 0x1680 ||
    (0x2000 ≤ c.toNat && c.toNat ≤ 0x200A) || c.toNat == 0x2028 || c.toNat == 0x2029 ||
    c.toNat == 0x202F || c.toNat == 0x205F || c.toNat == 0x3000

/-- White space in the sense of Unicode, and the separators U+001C to U+001F. -/
def isBlank (c : Char) : Bool := isSpace c || (0x1C ≤ c.toNat && c.toNat ≤ 0x1F)

theorem isSpace_of_isAsciiBlank {c : Char} (h : isAsciiBlank c = true) : isSpace c = true := by
  simp [isSpace, h]

theorem isBlank_of_isSpace {c : Char} (h : isSpace c = true) : isBlank c = true := by
  simp [isBlank, h]

/-- The characters without those at either end that `blank` holds of. -/
def trim (blank : Char → Bool) (text : List Char) : List Char :=
  (text.dropWhile blank).reverse.dropWhile blank |>.reverse

/-- The text without the white space at its ends. -/
def strip (text : String) : String := String.ofList (trim isBlank text.toList)

end Overlay.Text
