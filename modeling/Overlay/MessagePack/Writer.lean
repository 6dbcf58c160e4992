/-
# Overlay.MessagePack.Writer — an item in its one shortest form

`Item.write` is total: it writes every item, each head in its shortest form.  What
it writes means the item exactly when the item `fits`: integers within 64 bits,
sizes within 32, application codes below 128, no point in time, and no item inside
more containers than may stand open.  `Item.write?` is the writer that refuses all
others.
-/
import Overlay.MessagePack.Head

namespace Overlay.MessagePack

set_option autoImplicit false

namespace Item

/-- Can the item be written, with at most `depth` containers open below this point?  An empty
container opens none. -/
def fits (depth : Nat) : Item → Bool
  | .nil | .bool _ | .float _ => true
  | .int value => (Head.int value).fits
  | .str text => (Head.str text.utf8ByteSize).fits
  | .bin octets => (Head.bin octets.length).fits
  | .ext code data => code < 0x80 && (Head.ext data.length).fits
  | .time _ _ => false
  | .array [] => true
  | .array items =>
    match depth with
    | 0 => false
    | depth + 1 => (Head.array items.length).fits && items.all (fits depth)
  | .map [] => true
  | .map entries =>
    match depth with
    | 0 => false
    | depth + 1 =>
      (Head.map entries.length).fits &&
        entries.all fun entry => fits depth entry.1 && fits depth entry.2
termination_by structural depth

/-- The octets of an item, every head in its shortest form. -/
def write : Item → Octets
  | .nil => Head.nil.write
  | .bool value => (Head.bool value).write
  | .int value => (Head.int value).write
  | .float bits => (Head.float bits).write
  | .str text => (Head.str text.utf8ByteSize).write ++ text.toUTF8.data.toList
  | .bin octets => (Head.bin octets.length).write ++ octets
  | .array items => (Head.array items.length).write ++ items.flatMap write
  | .map entries =>
    (Head.map entries.length).write ++
      entries.flatMap fun entry => entry.1.write ++ entry.2.write
  | .ext code data => (Head.ext data.length).write ++ code :: data
  | .time _ _ => []
decreasing_by
  · next member =>
    have smaller := List.sizeOf_lt_of_mem member
    simp only [array.sizeOf_spec]; omega
  all_goals
    next member =>
    have smaller := List.sizeOf_lt_of_mem member
    obtain ⟨key, value⟩ := entry
    simp only [map.sizeOf_spec, Prod.mk.sizeOf_spec] at smaller ⊢; omega

/-- The octets of an item that fits, `depth` containers being left to open. -/
def write? (depth : Nat) (item : Item) : Option Octets :=
  if item.fits depth then some item.write else none

end Item

end Overlay.MessagePack
