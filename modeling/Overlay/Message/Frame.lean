/-
# Overlay.Message.Frame — a tag and an array of fields

A message is two MessagePack objects: a tag, alone so that a reader can sort the
message without understanding it, and an array of fields.  `frame?` writes both in
their shortest forms.  `readTag` reads the tag in any form and leaves the rest;
`readFields` reads the array from that rest and leaves nothing.  Both read under
the bound that the length of the whole message sets.
-/
import Overlay.MessagePack.Reader
import Overlay.MessagePack.Writer
import Overlay.Message.Refusal
import Overlay.Record

namespace Overlay.Message

set_option autoImplicit false

open MessagePack (Item)

/-- The octets of a tag number and fields, if they can be written. -/
def frame? (number : Nat) (fields : List Item) : Option Octets := do
  let tag ← (Item.int number).write? MessagePack.maxDepth
  let body ← (Item.array fields).write? MessagePack.maxDepth
  return tag ++ body

/-- The octets of a record, if they can be written. -/
def encode? (record : Record) : Option Octets := frame? record.tag.number record.fields

/-- The bound that a message sets on the counts inside it. -/
def limitOf (message : Octets) : Nat := max message.length 1

/-- The leading tag of a message, and what follows it. -/
def readTag (acceptText : Bool) (message : Octets) : Except Failure (Nat × Octets) :=
  match MessagePack.readItem (limitOf message) MessagePack.maxDepth message with
  | .error .truncated => .error (.refused (.truncated .tag))
  | .error (.notUtf8 _) => .error (.refused (.leadingTag .notUtf8))
  | .error fault => .error (.refused (.unreadable .tag (limitOf message) fault))
  | .ok (item, rest) =>
    match Tag.read acceptText (.ofItem item) with
    | .ok number => .ok (number, rest)
    | .error problem => .error (.ofTag .leadingTag problem)

/-- The fields that make up the rest of a message whose counts are bounded by `limit`. -/
def readFields (limit : Nat) (rest : Octets) : Except Failure (List Item) :=
  match MessagePack.readItem limit MessagePack.maxDepth rest with
  | .error .truncated => .error (.refused (.truncated .fields))
  | .error fault => .error (.refused (.unreadable .fields limit fault))
  | .ok (item, []) =>
    match item with
    | .array fields => .ok fields
    | other => .error (.refused (.notArray other.typeName))
  | .ok (_, trailing) => .error (.refused (.trailing trailing.length))

end Overlay.Message
