/-
# Overlay.Datum.Amendment — a message with one field replaced

The message of a record can be written with one of its fields, or an item inside a
field, replaced by any value, and under any tag.  The result keeps everything else of
the record's own message, so a reader can be shown exactly one deviation.
-/
import Overlay.Datum.Property
import Overlay.Datum.Writing

namespace Overlay.Datum

set_option autoImplicit false

/-- The place in a list of the given length that a position means, which counts from the end where it
is negative. -/
def place? (length : Nat) (position : Int) : Option Nat :=
  let index := if position < 0 then position + length else position
  if 0 ≤ index && index < length then some index.toNat else Option.none

/-- The place in a list that a position means. -/
def placeIn {α : Type} (items : List α) (position : Int) : Except Fault Nat :=
  orFault .noItem (place? items.length position)

/-- A list, at any depth of lists, with the item at a path of positions replaced.  Octets have items,
but none that can be replaced or has items itself. -/
def replaceAt : List Int → Datum → Datum → Except Fault Datum
  | [], _, _ => .error .noItem
  | [position], replacement, .list items => do
    return .list (items.set (← placeIn items position) replacement)
  | position :: path, replacement, .list items => do
    let index ← placeIn items position
    let item ← orFault .noItem items[index]?
    return .list (items.set index (← replaceAt path replacement item))
  | position :: _ :: _, _, .octets _ content => do
    let _ ← placeIn content position
    .error .unfit
  | _, _, _ => .error .unfit

/-- The message of a record, with a field replaced and under another tag where these are given. -/
def amended (record : Datum) (change : Option (List Int × Datum)) (tag : Option Datum) :
    Except Fault Octets := do
  let fields := Datum.list (← record.fields)
  let changed ← match change with
    | some (path, replacement) => replaceAt path replacement fields
    | Option.none => .ok fields
  let own ← record.tag
  frame (tag.getD (.int own.number)) changed

end Overlay.Datum
