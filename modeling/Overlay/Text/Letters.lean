/-
# Overlay.Text.Letters — upper and lower case, as far as ASCII words need it

A word of ASCII letters may be written in either case.  Outside ASCII only two
characters have a single ASCII letter as their upper-case form, the dotless i and
the long s, so `upper` sends these two and the small ASCII letters up and leaves
every other character alone.  `lower` moves the capital ASCII letters only: the
one other character that goes down to an ASCII letter, the Kelvin sign, gives a
letter that no word compared here has.  `fold` forgets case altogether: it is `lower`
for all but the long s, which is an s.
-/

namespace Overlay.Text

set_option autoImplicit false

/-- The upper-case form of a character, where that is one ASCII letter. -/
def upperLetter (c : Char) : Char :=
  if 'a' ≤ c && c ≤ 'z' then Char.ofNat (c.toNat - 0x20)
  else if c.toNat = 0x131 then 'I'
  else if c.toNat = 0x17F then 'S'
  else c

/-- The lower-case form of an ASCII letter; every other character is its own. -/
def lowerLetter (c : Char) : Char :=
  if 'A' ≤ c && c ≤ 'Z' then Char.ofNat (c.toNat + 0x20) else c

/-- The text in upper case, as far as it can spell an ASCII word. -/
def upper (text : String) : String := String.ofList (text.toList.map upperLetter)

/-- The text with its ASCII letters in lower case. -/
def lower (text : String) : String := String.ofList (text.toList.map lowerLetter)

/-- A character without its case, as far as it can be part of an ASCII word. -/
def foldLetter (c : Char) : Char := if c.toNat = 0x17F then 's' else lowerLetter c

/-- The text without its case, as far as it can spell an ASCII word. -/
def fold (text : String) : String := String.ofList (text.toList.map foldLetter)

end Overlay.Text
