/-
# Overlay.Datum.Issuing — payloads and published records made from values

A payload is made from a record or a draft, whose message it carries under its tag, or
from a tag alone.  A public identity is made from an identity and a revocation key of
its family, a public revocation from a revocation key.
-/
import Overlay.Datum.Property
import Overlay.Datum.Record
import Overlay.Datum.Writing

namespace Overlay.Datum

set_option autoImplicit false

/-! ## Payloads -/

/-- A payload that carries a value. -/
def carry (datum : Datum) : Except Fault Datum := do
  let tag ← datum.tag
  return .record (.payload ⟨tag.number, ← datum.encode, tag.number_lt_bound⟩)

/-- A payload under a tag that carries nothing. -/
def emptyPayload (tag : Datum) : Except Fault Datum := do
  payloadOf (.int (← tag.toInt)) (ofOctets [])

/-- The payload that a value must be. -/
def toPayload (datum : Datum) : Except Fault Payload :=
  match datum.record? with
  | some (.payload p) => .ok p
  | _ => .error .missing

/-- The tag that a payload declares, as it was given. -/
def declaredTag : Datum → Except Fault Datum
  | .tagPayload inner _ => .ok (.registered inner)
  | datum => do return .int (← datum.toPayload).inner

/-- A payload with its tag and its octets replaced by those of another value. -/
def recarry (payload value : Datum) : Except Fault Datum := do
  let payload ← payload.toPayload
  let tag ← value.tag
  let octets ← value.encode
  return .record (.payload
    { payload with inner := tag.number, octets, inner_lt := tag.number_lt_bound })

/-! ## Published records -/

/-- The public identity of an identity under a revocation key. -/
def issueIdentity (scheme : Scheme) (identity revocationKey : Datum) : Except Fault Datum :=
  match revocationKey, identity with
  | .record (.revocationKey key), .record (.identity i) =>
    orFault .familiesDiffer ((i.issue? scheme key).map fun issued => .record (.publicIdentity issued))
  | .record (.revocationKey _), other => do
    let _ ← other.tag
    .error .familiesDiffer
  | _, _ => .error .missing

/-- The public revocation of a revocation key. -/
def issueRevocation (scheme : Scheme) : Datum → Except Fault Datum
  | .record (.revocationKey key) => .ok (.record (.publicRevocation (key.issue scheme)))
  | _ => .error .missing

end Overlay.Datum
