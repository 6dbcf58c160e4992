/-
# Overlay.MessagePack.Item — what one MessagePack object says

An item is the meaning of a MessagePack object, whatever form it was written in.
Integers carry no width, text is text and not octets, floating-point numbers are
their 64 bits, and the pairs of a map keep their order.
-/
import Overlay.Octets

namespace Overlay.MessagePack

set_option autoImplicit false

/-- The meaning of a MessagePack object. -/
inductive Item where
  | nil
  | bool (value : Bool)
  | int (value : Int)
  /-- A floating-point number by its 64 bits. -/
  | float (bits : UInt64)
  | str (text : String)
  | bin (octets : Octets)
  | array (items : List Item)
  | map (entries : List (Item × Item))
  /-- Application data under an application's own code. -/
  | ext (code : UInt8) (data : Octets)
  /-- A point in time, in seconds and nanoseconds from the epoch. -/
  | time (seconds : Int) (nanoseconds : Nat)

namespace Item

/-- The name under which messages report the sort of an item. -/
def typeName : Item → String
  | .nil => "NoneType"
  | .bool _ => "bool"
  | .int _ => "int"
  | .float _ => "float"
  | .str _ => "str"
  | .bin _ => "bytes"
  | .array _ => "list"
  | .map _ => "dict"
  | .ext _ _ => "ExtType"
  | .time _ _ => "Timestamp"

/-- Arrays and maps hold other items. -/
def isContainer : Item → Bool
  | .array _ => true
  | .map _ => true
  | _ => false

end Item

/-- The number of containers that may stand open, one inside another. -/
def maxDepth : Nat := 1024

end Overlay.MessagePack
