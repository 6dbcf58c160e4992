/-
# Overlay.Datum.Writing — a value as MessagePack

Plain values and application data have a MessagePack form: tuples are written as
arrays, octets alike however they are held, and a tag as its number.  Records, drafts, unknown messages
and foreign objects have none, nor has anything that holds one of them or is nested
deeper than containers may be (`isPlain`).  `frame` writes a message of any tag and
any fields, the fields being the items of one value.
-/
import Overlay.Datum.Property
import Overlay.Message.Frame

namespace Overlay.Datum

set_option autoImplicit false

open MessagePack (Item)

/-- Has the value a MessagePack form, with at most `depth` containers open below this point? -/
def isPlain (depth : Nat) : Datum → Bool
  | .none | .bool _ | .int _ | .float _ _ | .text _ | .octets _ _ | .ext _ _ | .registered _ => true
  | .list [] | .tuple [] | .mapping [] => true
  | .list items | .tuple items =>
    match depth with
    | 0 => false
    | depth + 1 => items.all (isPlain depth)
  | .mapping entries =>
    match depth with
    | 0 => false
    | depth + 1 => entries.all fun entry => isPlain depth entry.1 && isPlain depth entry.2
  | _ => false
termination_by structural depth

/-- The item that a plain value means. -/
def toItem : Datum → Item
  | .none => .nil
  | .bool value => .bool value
  | .int value => .int value
  | .float bits _ => .float bits
  | .text t => .str t
  | .octets _ o => .bin o
  | .list items => .array (items.map toItem)
  | .tuple items => .array (items.map toItem)
  | .mapping entries => .map (entries.map fun entry => (entry.1.toItem, entry.2.toItem))
  | .ext code data => .ext code data
  | .registered t => .int t.number
  | _ => .nil
decreasing_by
  · next member =>
    have smaller := List.sizeOf_lt_of_mem member
    simp only [list.sizeOf_spec]; omega
  · next member =>
    have smaller := List.sizeOf_lt_of_mem member
    simp only [tuple.sizeOf_spec]; omega
  all_goals
    next member =>
    have smaller := List.sizeOf_lt_of_mem member
    obtain ⟨key, value⟩ := entry
    simp only [mapping.sizeOf_spec, Prod.mk.sizeOf_spec] at smaller ⊢; omega

/-- The items of a value as fields. -/
def fields? (datum : Datum) : Option (List Item) :=
  match datum.items with
  | .error _ => Option.none
  | .ok items =>
    if (Datum.list items).isPlain MessagePack.maxDepth then some (items.map toItem) else Option.none

/-- A message of the given tag and fields. -/
def frame (tag fields : Datum) : Except Fault Octets :=
  match tag.int? with
  | some value =>
    if 0 ≤ value && value < Tag.bound then
      match fields.fields?.bind (Message.frame? value.toNat) with
      | some message => .ok message
      | Option.none => .error (.unwritten .unwritable)
    else .error (.unwritten (.tagOutOfRange value))
  | Option.none => .error (.unwritten (.tagNotInt tag.typeName))

/-- Why a value without a tag is not encoded.  The draft of a revocation key is of a sort that is
written, and only lacks the tag to be written under. -/
def untagged : Datum → Fault
  | .draftKey _ _ _ => .missing
  | datum => .unwritten (.notRecord datum.typeName)

/-- The message of a value that is a record, or a draft with fields. -/
def encode (datum : Datum) : Except Fault Octets :=
  match datum.record?, datum.tag? with
  | some r, _ => orFault (.unwritten .unwritable) (Message.encode? r)
  | Option.none, some t => do frame (.registered t) (.list (← datum.fields))
  | Option.none, Option.none => .error datum.untagged

end Overlay.Datum
