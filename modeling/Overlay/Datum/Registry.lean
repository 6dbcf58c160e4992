/-
# Overlay.Datum.Registry — values as tags

The registry is asked with values of any sort.  A value is registered when it equals
the number of a tag.  A family is looked up by one tag of it, or by the three that a
revocation key carries, each read as an integer.  Where a tag is expected in a
message, `readTag` applies the rules that messages follow; a registered tag stays one.
-/
import Overlay.Datum.Reading

namespace Overlay.Datum

set_option autoImplicit false

/-- Does the value equal a registered tag? -/
def isRegistered (datum : Datum) : Bool := datum.registeredTag?.isSome

/-- The family that a tag belongs to. -/
def family? (tag : Datum) : Except Fault (Option Family) := do
  return (← tag.toInt).toNat?.bind Family.ofNumber?

/-- The family whose revocation keys carry the given tags. -/
def familyOfTags? (tags : Datum) : Except Fault (Option Family) := do
  let numbers ← (← tags.items).mapM toInt
  return (numbers.mapM Int.toNat?).bind Family.ofTriple?

/-- The tag that a value is read as at the front of a message. -/
def readTag (acceptText : Bool) (datum : Datum) : Except Fault Datum :=
  match datum, Tag.read acceptText datum.rawTag with
  | .registered t, .ok _ => .ok (.registered t)
  | _, .ok number => .ok (.int number)
  | _, .error problem => .error (Failure.ofTag .leadingTag problem).fault

end Overlay.Datum
