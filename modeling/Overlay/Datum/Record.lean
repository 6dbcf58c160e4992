/-
# Overlay.Datum.Record — records from values of any sort

Each sort of record is built by one function that checks its arguments in a fixed
order and fails at the first that does not fit.  Octets of fixed length are checked
for that length, a tag is one of the tags of the sort, a pair of keys has two items.
The names of a table and of a coin and the tags of a revocation key are the exception:
they are taken as they are, and where one is no name or no family the result is a draft.
-/
import Overlay.Datum.Depth
import Overlay.Datum.Reading

namespace Overlay.Datum

set_option autoImplicit false

/-- Check that a value, read as an integer, is one of the given tags. -/
def checkTag (wanted : String) (tags : List Tag) (tag : Datum) : Except Fault Unit := do
  let value ← tag.toInt
  if tags.any fun t => (t.number : Int) == value then return
  else .error (.wrongTag wanted tag.shown)

/-- The registered tag that a value equals. -/
def toTag (tag : Datum) : Except Fault Tag := orFault .outside tag.registeredTag?

/-- A name. -/
def nameOf (id : Datum) : Except Fault Datum := do
  return ofName ⟨← id.toFixed 64 "NameType"⟩

/-- A payload of a declared tag and octets. -/
def payloadOf (inner octets : Datum) : Except Fault Datum := do
  match inner with
  | .registered t => return .tagPayload t (← octets.toOctets)
  | .int (.ofNat n) =>
    if h : n < Tag.bound then return .record (.payload ⟨n, ← octets.toOctets, h⟩)
    else .error (.payloadTag inner.quoted)
  | _ => .error (.payloadTag (← inner.followed).quoted)

/-- A block of octets under one of the three tags of blocks. -/
def blockOf (value tag : Datum) : Except Fault Datum := do
  match value.octets? with
  | Option.none => .error (.blockValue value.typeName)
  | some content =>
    checkTag "an immutable data" [.block .primary, .block .backup, .block .sacrificial] tag
    match ← tag.toTag with
    | .block copy => return .record (.block ⟨copy, content⟩)
    | _ => .error .outside

/-- A row of a table; its items must be names. -/
def rowOf (row : Datum) : Except Fault (List Name) := do
  (← row.items).mapM fun item => orFault (.rowItem item.typeName) item.name?

/-- A table, or the draft of one. -/
def tableOf (name owner value : Datum) : Except Fault Datum := do
  return ofTable name owner (← (← value.items).mapM rowOf)

/-- Signatures, each a field of its own. -/
def signaturesOf (signatures : Datum) : Except Fault (List Signature) := do
  (← signatures.items).zipIdx.mapM fun (signature, index) =>
    signature.toFixed 64 ("signatures[" ++ toString index ++ "]")

/-- A coin, or the draft of one. -/
def coinOf (name owners previousOwners signatures : Datum) : Except Fault Datum := do
  let owners ← owners.items
  let previousOwners ← previousOwners.items
  return ofCoin name owners previousOwners (← signaturesOf signatures)

/-- A coin that has never changed hands: its owners are its previous owners too. -/
def mint (name owners signatures : Datum) : Except Fault Datum := coinOf name owners owners signatures

/-- A revocation key, or the draft of one. -/
def revocationKeyOf (tags publicKey secretKey : Datum) : Except Fault Datum := do
  let publicKey ← publicKey.toFixed 32 "public_key"
  let secretKey ← secretKey.toFixed 32 "secret_key"
  return ofKey tags publicKey secretKey

/-- The tags that every family has for one sort of record. -/
def tagsOf (sort : Family → Tag) : List Tag := Family.all.map sort

/-- An identity under the tag of its family. -/
def identityOf (tag publicKeys secretKeys : Datum) : Except Fault Datum := do
  checkTag "an id" (tagsOf .identity) tag
  let (signPublic, boxPublic) ← publicKeys.toPair
  let (signSecret, boxSecret) ← secretKeys.toPair
  match ← tag.toTag with
  | .identity family =>
    let signPublic ← signPublic.toFixed 32 "public_keys.sign"
    let boxPublic ← boxPublic.toFixed 32 "public_keys.box"
    let signSecret ← signSecret.toFixed 32 "secret_keys.sign"
    let boxSecret ← boxSecret.toFixed 32 "secret_keys.box"
    return .record (.identity ⟨family, ⟨signPublic, boxPublic⟩, ⟨signSecret, boxSecret⟩⟩)
  | _ => .error .outside

/-- A public identity under the tag of its family, its signature as given. -/
def publicIdentityOf (tag publicKeys revocationKey signature : Datum) : Except Fault Datum := do
  checkTag "a public id" (tagsOf .publicIdentity) tag
  let (signPublic, boxPublic) ← publicKeys.toPair
  match ← tag.toTag with
  | .publicIdentity family =>
    let signPublic ← signPublic.toFixed 32 "public_keys.sign"
    let boxPublic ← boxPublic.toFixed 32 "public_keys.box"
    let revocationKey ← revocationKey.toFixed 32 "revocation_public_key"
    let signature ← signature.toFixed 64 "signature"
    return .record (.publicIdentity ⟨family, ⟨signPublic, boxPublic⟩, revocationKey, signature⟩)
  | _ => .error .outside

/-- A public revocation under the tag of its family, its signature as given. -/
def publicRevocationOf (tag publicKey signature : Datum) : Except Fault Datum := do
  checkTag "a public revocation" (tagsOf .publicRevocation) tag
  match ← tag.toTag with
  | .publicRevocation family =>
    let publicKey ← publicKey.toFixed 32 "public_key"
    let signature ← signature.toFixed 64 "signature"
    return .record (.publicRevocation ⟨family, publicKey, signature⟩)
  | _ => .error .outside

end Overlay.Datum
