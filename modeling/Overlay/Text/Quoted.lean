/-
# Overlay.Text.Quoted — text and octets in quotation marks

A quoted text stands between single quotes, or between double quotes when it holds
a single quote and no double one.  Inside, the backslash and the quote in use are
preceded by a backslash; line feed, carriage return and tab are `\n`, `\r`, `\t`;
any other character that is not printable is written by its code point in two,
four or eight hexadecimal digits.  Quoted octets carry the letter `b` and follow
the same rule, every octet outside printable ASCII being written in two digits.

Everything either function writes is printable.
-/
import Overlay.Octets.Hex
import Overlay.Octets.Number
import Overlay.Text.Printable

namespace Overlay.Text

set_option autoImplicit false

open Overlay.Octets (hexDigits bigEndian)

/-- The quotation mark for a text: double only where that saves an escape. -/
def quoteFor (text : List Char) : Char :=
  if text.contains '\'' && !text.contains '"' then '"' else '\''

/-- A code point after a backslash, in the fewest of two, four and eight digits. -/
def escapeCode (code : Nat) : List Char :=
  if code < 0x100 then '\\' :: 'x' :: hexDigits (bigEndian 1 code)
  else if code < 0x10000 then '\\' :: 'u' :: hexDigits (bigEndian 2 code)
  else '\\' :: 'U' :: hexDigits (bigEndian 4 code)

/-- One character as it stands between the given quotation marks. -/
def escape (quote : Char) (c : Char) : List Char :=
  if c = quote || c = '\\' then ['\\', c]
  else if c = '\n' then ['\\', 'n']
  else if c = '\r' then ['\\', 'r']
  else if c = '\t' then ['\\', 't']
  else if isPrintable c then [c]
  else escapeCode c.toNat

/-- The characters of a text in quotation marks. -/
def quotedChars (text : List Char) : List Char :=
  let quote := quoteFor text
  quote :: text.flatMap (escape quote) ++ [quote]

/-- The text in quotation marks. -/
def quoted (text : String) : String := String.ofList (quotedChars text.toList)

/-- One octet as it stands between quotation marks, where `marked` characters take a backslash. -/
def escapeOctet (marked : Char → Bool) (octet : UInt8) : List Char :=
  let c := Char.ofNat octet.toNat
  if marked c then ['\\', c]
  else if c = '\n' then ['\\', 'n']
  else if c = '\r' then ['\\', 'r']
  else if c = '\t' then ['\\', 't']
  else if 0x20 ≤ octet && octet < 0x7F then [c]
  else escapeCode octet.toNat

/-- The quotation mark for octets. -/
def quoteForOctets (octets : Octets) : Char :=
  quoteFor (octets.map fun octet => Char.ofNat octet.toNat)

/-- The octets between quotation marks. -/
def betweenMarks (quote : Char) (marked : Char → Bool) (octets : Octets) : String :=
  String.ofList ('b' :: quote :: octets.flatMap (escapeOctet marked) ++ [quote])

/-- The octets in quotation marks. -/
def quotedOctets (octets : Octets) : String :=
  let quote := quoteForOctets octets
  betweenMarks quote (fun c => c = quote || c = '\\') octets

/-- The octets in quotation marks, where a single quote takes a backslash between marks of either
kind. -/
def quotedOctetsStrictly (octets : Octets) : String :=
  betweenMarks (quoteForOctets octets) (fun c => c = '\'' || c = '\\') octets

end Overlay.Text
