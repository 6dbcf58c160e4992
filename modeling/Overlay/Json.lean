/-
# Overlay.Json — JSON values and their compact text

The text of a value has no white space outside strings.  In a string the quotation
mark, the backslash and the controls below U+0020 are escaped, five of these by a
letter and the others by four hexadecimal digits; every other character stands as it
is.  Members of an object are written in the order in which they are held.  A number
that is not finite is written as a word, which JSON itself does not know.
-/
import Overlay.Decimal.Layout
import Overlay.Octets.Hex

namespace Overlay

set_option autoImplicit false

/-- A JSON value. -/
inductive Json where
  | null
  | bool (value : Bool)
  | int (value : Int)
  /-- A floating-point number by its 64 bits. -/
  | float (bits : UInt64)
  | text (text : String)
  | array (items : List Json)
  | object (members : List (String × Json))
  deriving Inhabited

namespace Json

/-- The words for the numbers that are not finite. -/
def floatWords : Decimal.Words := ⟨"NaN", "Infinity"⟩

/-- One character as it stands in a string. -/
def escape (c : Char) : List Char :=
  if c = '"' then ['\\', '"']
  else if c = '\\' then ['\\', '\\']
  else if c = '\n' then ['\\', 'n']
  else if c = '\r' then ['\\', 'r']
  else if c = '\t' then ['\\', 't']
  else if c.toNat = 0x08 then ['\\', 'b']
  else if c.toNat = 0x0C then ['\\', 'f']
  else if c.toNat < 0x20 then
    '\\' :: 'u' :: '0' :: '0' :: Octets.hexDigits [UInt8.ofNat c.toNat]
  else [c]

/-- A text as a JSON string. -/
def quoted (text : String) : String := String.ofList ('"' :: text.toList.flatMap escape ++ ['"'])

/-- Texts separated by commas. -/
def commaSeparated (texts : List String) : String := String.intercalate "," texts

mutual

/-- The compact text of a value. -/
def compact : Json → String
  | .null => "null"
  | .bool true => "true"
  | .bool false => "false"
  | .int value => toString value
  | .float bits => Decimal.floatText floatWords bits
  | .text t => quoted t
  | .array items => "[" ++ commaSeparated (compactItems items) ++ "]"
  | .object members => "\x7b" ++ commaSeparated (compactMembers members) ++ "\x7d"

/-- The compact text of every item. -/
def compactItems : List Json → List String
  | [] => []
  | item :: rest => item.compact :: compactItems rest

/-- The compact text of every member. -/
def compactMembers : List (String × Json) → List String
  | [] => []
  | (key, value) :: rest => (quoted key ++ ":" ++ value.compact) :: compactMembers rest

end

end Json

end Overlay
