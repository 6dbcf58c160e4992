/-
# Overlay.MessagePack.Fault — why octets are no object

Reading an object fails for one of these reasons.  Most have a text that says what
was found; a first octet without a meaning and containers nested too deep have none.
Two texts name the bound that the message set on its counts.
-/
import Overlay.Text.Utf8

namespace Overlay.MessagePack

set_option autoImplicit false

/-- Why octets are no object. -/
inductive Fault where
  | truncated
  /-- The first octet has no meaning. -/
  | reserved
  /-- Application data and its code together cannot be counted, nor can the message hold them. -/
  | oversizedExt
  | tooManyItems (count : Nat)
  | tooManyPairs (count : Nat)
  | tooDeep
  | notUtf8 (data : Octets)
  /-- A container, of the given sort, is a key. -/
  | containerKey (typeName : String)
  | timeSize
  | nanoseconds
  /-- Application data is under a code that no application has. -/
  | reservedCode
  deriving DecidableEq, Repr

/-- The text of a fault in a message that allows `limit` items, and half as many pairs. -/
def Fault.text (limit : Nat) : Fault → String
  | .truncated | .reserved | .tooDeep => ""
  | .oversizedExt => "0 exceeds max_ext_len(" ++ toString limit ++ ")"
  | .tooManyItems count => toString count ++ " exceeds max_array_len(" ++ toString limit ++ ")"
  | .tooManyPairs count => toString count ++ " exceeds max_map_len(" ++ toString (limit / 2) ++ ")"
  | .notUtf8 data => ((Text.Utf8.fault? data).map Text.Utf8Fault.text).getD ""
  | .containerKey typeName => "unhashable type: '" ++ typeName ++ "'"
  | .timeSize => "Unpack failed: error = -1"
  | .nanoseconds => "nanoseconds must be a non-negative integer less than 999999999."
  | .reservedCode => "code must be 0~127"

end Overlay.MessagePack
