/-
# Overlay.Record.Routing — where a record lives and who may change it

Six sorts of record are stored and forwarded between nodes, and each of these has an
address: a table and a coin the name they carry, the others the digest of what they
publish.  Some of them also have an owner.  A bare name, a payload and a revocation
key do not travel on their own, so they have no address.
-/
import Overlay.Record.Signed

namespace Overlay.Record

set_option autoImplicit false

/-- The name under which a record is stored, if it is of a sort that is. -/
def address? : Record → Option Name
  | .block b => some b.address
  | .table t => some t.name
  | .coin c => some c.name
  | .identity i => some i.address
  | .publicIdentity i => some i.address
  | .publicRevocation r => some r.address
  | .name _ | .payload _ | .revocationKey _ => none

/-- The name of the one who may change a record, if there is one. -/
def owner? : Record → Option Name
  | .table t => some t.owner
  | .coin c => c.owners.head?
  | .publicRevocation r => some r.address
  | _ => none

/-- Is the record of a sort that is stored and forwarded? -/
def isRoutable (record : Record) : Bool := record.address?.isSome

end Overlay.Record
