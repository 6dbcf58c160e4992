/-
# Overlay.Datum.Property — what a value says of itself

A record has a tag and fields; some sorts of record have an address, an owner, a
content or a signature as well.  Whatever a value does not have is `missing`.  The
draft of a table or a coin has the tag of its sort and the names it was given, and
fields where each of those has an identifier, as a name and a family have.  The draft
of a revocation key has neither tag nor fields: both would be those of the family.
-/
import Overlay.Datum.Equality
import Overlay.Datum.Reading
import Overlay.Record.Routing

namespace Overlay.Datum

set_option autoImplicit false

open MessagePack (Item)

/-! ## Tag and fields -/

/-- The tag of a record, or of the draft of a table or a coin. -/
def tag? : Datum → Option Tag
  | .record r => some r.tag
  | .tagPayload _ _ => some .payload
  | .draftTable _ _ _ => some .table
  | .draftCoin _ _ _ _ => some .coin
  | _ => Option.none

/-- The tag of a value that must have one. -/
def tag (datum : Datum) : Except Fault Tag := orFault .missing datum.tag?

mutual

/-- An item as a value.  A point in time is an object that nothing is known about. -/
def ofItem : Item → Datum
  | .nil => .none
  | .bool value => .bool value
  | .int value => .int value
  | .float bits => .float bits 0
  | .str t => .text t
  | .bin o => .octets .fixed o
  | .array items => .list (ofItems items)
  | .map entries => .mapping (ofEntries entries)
  | .ext code data => .ext code data
  | .time _ _ => .foreign 0

/-- Every item of a list as a value. -/
def ofItems : List Item → List Datum
  | [] => []
  | item :: rest => ofItem item :: ofItems rest

/-- Every entry of a map as values. -/
def ofEntries : List (Item × Item) → List (Datum × Datum)
  | [] => []
  | (key, value) :: rest => (ofItem key, ofItem value) :: ofEntries rest

end

/-- What identifies a value: the octets of a name, the tag that a family has for identities. -/
def identifier : Datum → Except Fault Datum
  | .record (.name n) => .ok (ofOctets n.octets)
  | .tagFamily f => .ok (.registered (.identity f))
  | _ => .error .missing

/-- The fields of a record, or of the draft of a table or a coin. -/
def fields : Datum → Except Fault (List Datum)
  | .record r => .ok (ofItems r.fields)
  | .tagPayload inner content => .ok [.registered inner, ofOctets content]
  | .draftTable name owner rows => do
    return [← name.identifier, ← owner.identifier, ofItem (.array (rows.map Record.namesItem))]
  | .draftCoin name owners previous signatures => do
    return [← name.identifier, .list (← owners.mapM identifier),
      .list (← previous.mapM identifier), ofItem (.array (signatures.map Record.fixedItem))]
  | _ => .error .missing

/-! ## Address, owner and content -/

/-- A name as a value, or nothing. -/
def ofName? : Option Name → Datum
  | some n => ofName n
  | Option.none => .none

/-- What a value gives as the name under which it is stored. -/
def address : Datum → Except Fault Datum
  | .record r => orFault .missing (r.address?.map ofName)
  | .draftTable name _ _ => .ok name
  | .draftCoin name _ _ _ => .ok name
  | _ => .error .missing

/-- What a value gives as its owner. -/
def owner : Datum → Except Fault Datum
  | .record r => if r.isRoutable then .ok (ofName? r.owner?) else .error .missing
  | .draftTable _ owner _ => .ok owner
  | .draftCoin _ owners _ _ => .ok (owners.head?.getD .none)
  | _ => .error .missing

/-- Has a value both an address and an owner? -/
def isRoutable : Datum → Bool
  | .record r => r.isRoutable
  | .draftTable _ _ _ | .draftCoin _ _ _ _ => true
  | _ => false

/-- Rows of names as a value. -/
def ofRows (rows : List (List Name)) : Datum := .tuple (rows.map fun row => .tuple (row.map ofName))

/-- What a value holds: the octets of a block, the rows of a table. -/
def content : Datum → Except Fault Datum
  | .record (.block b) => .ok (ofOctets b.value)
  | .record (.table t) => .ok (ofRows t.rows)
  | .draftTable _ _ rows => .ok (ofRows rows)
  | _ => .error .missing

/-! ## Signatures -/

/-- Does a published record verify? -/
def verifies (scheme : Scheme) : Datum → Except Fault Bool
  | .record (.publicIdentity i) => .ok (i.verifies scheme)
  | .record (.publicRevocation r) => .ok (r.verifies scheme)
  | _ => .error .missing

/-- What the signature of a public identity is over. -/
def signedOctets : Datum → Except Fault Octets
  | .record (.publicIdentity i) => .ok i.signedOctets
  | _ => .error .missing

/-! ## Counting -/

/-- The number of different values; each must be one that can be held in a set. -/
def countDistinct (datum : Datum) : Except Fault Nat := do
  let data ← datum.items
  if areLasting data then return (distinct data).length else .error .unfit

end Overlay.Datum
