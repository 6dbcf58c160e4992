/-
# Overlay.Datum.Naming — names made from values, and names compared

A name is made from 64 octets, from the digest of a content or of several keys, or
from its hexadecimal form.  The comparisons of `Name.Closeness` are offered for
values: whatever should be a name, or have one, and is or has none, makes the
comparison `missing`.  A name is compared with values that have an identifier; where
that is no string of octets, the value is `unfit`.
-/
import Overlay.Datum.Property
import Overlay.Hexadecimal
import Overlay.Name.Closeness

namespace Overlay.Datum

set_option autoImplicit false

/-! ## Making names -/

/-- The name of a content. -/
def nameOfContent (content : Datum) : Except Fault Datum := do
  return ofName (.ofContent (← content.toOctets))

/-- The octets of every part of a value. -/
def parts (datum : Datum) : Except Fault (List Octets) := do (← datum.items).mapM toOctets

/-- The name of several keys. -/
def nameOfKeys (keys : Datum) : Except Fault Datum := do return ofName (.ofParts (← keys.parts))

/-- The name that a text writes in hexadecimal. -/
def nameOfHex : Datum → Except Fault Datum
  | .text t =>
    match Name.ofHex t with
    | .ok n => .ok (ofName n)
    | .error .notHex => .error .outside
    | .error (.size mismatch) => .error (.size mismatch)
  | .octets .fixed _ | .octets .growing _ => .error .unfit
  | _ => .error .missing

/-! ## Asking names -/

/-- The name that a value must be. -/
def toName (datum : Datum) : Except Fault Name := orFault .missing datum.name?

/-- A name, octets, or a floating-point number, in hexadecimal. -/
def toHex : Datum → Except Fault String
  | .octets _ o => .ok (Octets.toHex o)
  | .float bits _ => .ok (Hexadecimal.floatText bits)
  | datum => datum.toName.map Name.toHex

/-- Is any octet of a name not zero? -/
def isSet (name : Datum) : Except Fault Bool := name.toName.map Name.isSet

/-- The name that a value with an identifier must be. -/
def toPoint (datum : Datum) : Except Fault Name := do
  let _ ← datum.identifier
  orFault .unfit datum.name?

/-- The distance of a name from a target. -/
def distance (name target : Datum) : Except Fault Octets := do
  return Name.distance (← name.toName) (← target.toPoint)

/-- Is the first of two names nearer to the target than the second?  All three must have an
identifier before any of them must be a name. -/
def closer (a b target : Datum) : Except Fault Bool := do
  let _ ← [a, b, target].mapM identifier
  return Name.closer (← a.toPoint) (← b.toPoint) (← target.toPoint)

/-- Is a name nearer to the target than another? -/
def closerThan (name other target : Datum) : Except Fault Bool := do
  let _ ← name.toName
  name.closer other target

/-- The values with a name each; the target is looked at after the first of them, so not at all
without values. -/
def named (nameOf : Datum → Except Fault Name) (values : List Datum) (target : Datum) :
    Except Fault (List (Name × Datum) × Name) := do
  match values with
  | [] => return ([], default)
  | first :: _ =>
    let _ ← nameOf first
    let target ← target.toPoint
    return (← values.mapM fun value => do return (← nameOf value, value), target)

/-- The names, nearest to the target first. -/
def sortByCloseness (names target : Datum) : Except Fault (List Datum) := do
  let (found, target) ← named toName (← names.items) target
  return (Name.sortByCloseness (found.map Prod.fst) target).map ofName

/-- The `count` values whose addresses are nearest to the target, nearest first. -/
def closest (values target count : Datum) : Except Fault (List Datum) := do
  let addressOf (value : Datum) : Except Fault Name := do (← value.address).toName
  let (found, target) ← named addressOf (← values.items) target
  let count ← count.toInt
  return (Name.closest Prod.fst found target count).map Prod.snd

end Overlay.Datum
