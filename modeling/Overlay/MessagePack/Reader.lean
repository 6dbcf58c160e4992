/-
# Overlay.MessagePack.Reader — an object in any form, off the front of a string

`readItem` reads one object and leaves what follows it.  Two bounds protect the
reader.  No count may promise more items than the whole message has octets, nor
more pairs than half of them, and this is settled as soon as the count is read,
before anything is known to be missing.  And no container may open inside
`maxDepth` others: the reader of a container's contents is the reader with one
container less to open (`readItem (depth + 1)` is `readWith` over
`readItem depth`), so the recursion is on the depth and the contents are read by a
loop on the count.

A map refuses a container as a key, once the pair is complete.  Text must be
UTF-8, a point in time must have one of three lengths and less than a second of
nanoseconds, and the codes from 128 on are reserved.  Application data is counted
with its code in 32 bits; of the one size that they do not hold it is settled as soon
as the size is read whether the message has room for it (`overflows`).
-/
import Overlay.MessagePack.Head

namespace Overlay.MessagePack

set_option autoImplicit false

open Overlay.Octets (ofBigEndian)

/-- The outcome of reading something off the front of a string: it and the rest, or why not. -/
abbrev Step (α : Type) := Except Fault (α × Octets)

/-- Read `size` octets and make an item of them. -/
def readSized (size : Nat) (make : Octets → Except Fault Item) (octets : Octets) : Step Item :=
  match octets.split? size with
  | none => .error .truncated
  | some (data, rest) =>
    match make data with
    | .ok item => .ok (item, rest)
    | .error fault => .error fault

/-- Text from its UTF-8 octets. -/
def textOf (data : Octets) : Except Fault Item :=
  match String.fromUTF8? ⟨data.toArray⟩ with
  | some text => .ok (.str text)
  | none => .error (.notUtf8 data)

/-- A point in time from its 4, 8 or 12 octets. -/
def timeOf (data : Octets) : Except Fault Item :=
  let make (seconds : Int) (nanoseconds : Nat) : Except Fault Item :=
    if nanoseconds < 10 ^ 9 then .ok (.time seconds nanoseconds) else .error .nanoseconds
  match data.length with
  | 4 => make (ofBigEndian data) 0
  | 8 => make (ofBigEndian data % 2 ^ 34 : Nat) (ofBigEndian data / 2 ^ 34)
  | 12 => make (signed 8 (ofBigEndian (data.drop 4))) (ofBigEndian (data.take 4))
  | _ => .error .timeSize

/-- Application data from its code and its octets; the code 255 marks a point in time. -/
def extOf : Octets → Except Fault Item
  | [] => .error .reservedCode
  | code :: data =>
    if code = 0xFF then timeOf data
    else if code < 0x80 then .ok (.ext code data)
    else .error .reservedCode

/-- Is this the size whose count together with the code takes more than 32 bits, and has a message
of at most `limit` octets no room for it? -/
def overflows (limit size : Nat) : Bool := size + 1 == 2 ^ 32 && limit < size

/-- Read `count` times, one after another, `read` off the last first. -/
def readMany {α : Type} (readOne : Octets → Step α) :
    (count : Nat) → (read : List α) → Octets → Step (List α)
  | 0, read, octets => .ok (read.reverse, octets)
  | count + 1, read, octets =>
    match readOne octets with
    | .ok (one, rest) => readMany readOne count (one :: read) rest
    | .error fault => .error fault

/-- Read one pair; a container is no key. -/
def readPair (readOne : Octets → Step Item) (octets : Octets) : Step (Item × Item) :=
  match readOne octets with
  | .error fault => .error fault
  | .ok (key, rest) =>
    match readOne rest with
    | .error fault => .error fault
    | .ok (value, rest) =>
      if key.isContainer then .error (.containerKey key.typeName) else .ok ((key, value), rest)

/-- Read an object of a message of at most `limit` octets, its contents with `inner`, or with no
container left to open. -/
def readWith (limit : Nat) (inner : Option (Octets → Step Item)) (octets : Octets) : Step Item :=
  match readHead octets with
  | .error fault => .error fault
  | .ok (head, rest) =>
    match head with
    | .nil => .ok (.nil, rest)
    | .bool value => .ok (.bool value, rest)
    | .int value => .ok (.int value, rest)
    | .float bits => .ok (.float bits, rest)
    | .str size => readSized size textOf rest
    | .bin size => readSized size (.ok ∘ .bin) rest
    | .ext size =>
      if overflows limit size then .error .oversizedExt else readSized (size + 1) extOf rest
    | .array count =>
      match inner with
      | none => .error .tooDeep
      | some readOne =>
        if limit < count then .error (.tooManyItems count)
        else
          match readMany readOne count [] rest with
          | .ok (items, rest) => .ok (.array items, rest)
          | .error fault => .error fault
    | .map count =>
      match inner with
      | none => .error .tooDeep
      | some readOne =>
        if limit / 2 < count then .error (.tooManyPairs count)
        else
          match readMany (readPair readOne) count [] rest with
          | .ok (entries, rest) => .ok (.map entries, rest)
          | .error fault => .error fault

/-- Read an object with at most `depth` containers open. -/
def readItem (limit : Nat) : (depth : Nat) → Octets → Step Item
  | 0 => readWith limit none
  | depth + 1 => readWith limit (some (readItem limit depth))

end Overlay.MessagePack
