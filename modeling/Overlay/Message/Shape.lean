/-
# Overlay.Message.Shape — a record from its fields

Each tag asks for fields of one shape: how many there are, which are octets and of
what length, which are arrays of such, and where a tag stands among them.
`recordOf` checks the shape in a fixed order, so of several faults the first in that
order is reported, and builds the record.  A published record must also verify, and
that is looked at last.
-/
import Overlay.Message.Refusal
import Overlay.Record.Signed

namespace Overlay.Message

set_option autoImplicit false

open MessagePack (Item)

/-- Refuse a message. -/
def refuse {α : Type} (refusal : Refusal) : Except Failure α := .error (.refused refusal)

/-- A field of fixed length; a field that is no octets counts as one of length zero. -/
def fixedField (tag : Tag) (size : Nat) (field : String) : Item → Except Failure (Fixed size)
  | .bin octets =>
    match Fixed.ofField size field octets with
    | .ok fixed => .ok fixed
    | .error mismatch => refuse (.fieldSize tag mismatch)
  | _ => refuse (.fieldSize tag (.of size 0 field))

/-- A field of octets of any length. -/
def octetsField (tag : Tag) (field : String) : Item → Except Failure Octets
  | .bin octets => .ok octets
  | item => refuse (.fieldNotOctets tag field item.typeName)

/-- A field that is an array. -/
def arrayField (tag : Tag) (field : String) : Item → Except Failure (List Item)
  | .array items => .ok items
  | item => refuse (.fieldNotArray tag field item.typeName)

/-- A field that is a tag number. -/
def tagField (tag : Tag) (acceptText : Bool) (item : Item) : Except Failure Nat :=
  match Tag.read acceptText (.ofItem item) with
  | .ok number => .ok number
  | .error problem => .error (.ofTag (.innerTag tag) problem)

/-- A field that is a name. -/
def nameField (tag : Tag) (field : String) (item : Item) : Except Failure Name :=
  (fixedField tag 64 field item).map (⟨·⟩)

/-- A field that is an array of names. -/
def namesField (tag : Tag) (field element : String) (item : Item) : Except Failure (List Name) := do
  (← arrayField tag field item).mapM (nameField tag element)

/-- A number below the bound of tags with the proof that it is. -/
def payloadOf (number : Nat) (octets : Octets) : Option Payload :=
  if h : number < Tag.bound then some ⟨number, octets, h⟩ else none

/-- The rows of a table. -/
def rowsField (tag : Tag) (item : Item) : Except Failure (List (List Name)) := do
  (← arrayField tag "value" item).zipIdx.mapM fun (row, index) =>
    let field := "value[" ++ toString index ++ "]"
    namesField tag field field row

/-- The family whose tags a revocation key carries; its own tag must be the leading one. -/
def familyField (tag : Tag) (family : Family) (acceptText : Bool) (item : Item) :
    Except Failure Unit := do
  let items ← arrayField tag "type_tags" item
  if items.length ≠ 3 then refuse (.familyCount tag items.length)
  let numbers ← items.mapM (tagField tag acceptText)
  if Family.ofTriple? numbers ≠ some family then refuse (.familyMismatch tag numbers)

/-- A record that verifies, or is of a sort that needs not. -/
def verified (scheme : Scheme) (record : Record) : Except Failure Record :=
  if record.verifies scheme then .ok record else refuse (.badSignature record.tag)

/-- The record that fields of the right shape describe under a tag. -/
def recordOf (scheme : Scheme) (acceptText : Bool) (tag : Tag) (fields : List Item) :
    Except Failure Record :=
  let miscounted {α : Type} (expected : Nat) : Except Failure α :=
    refuse (.fieldCount tag expected fields.length)
  match tag with
  | .name =>
    match fields with
    | [id] => return .name (← nameField tag "NameType.id" id)
    | _ => miscounted 1
  | .payload =>
    match fields with
    | [inner, octets] => do
      let number ← tagField tag acceptText inner
      let octets ← octetsField tag "payload" octets
      match payloadOf number octets with
      | some payload => return .payload payload
      | none => refuse (.innerTag tag (.outOfRange number))
    | _ => miscounted 2
  | .block copy =>
    match fields with
    | [value] => return .block ⟨copy, ← octetsField tag "value" value⟩
    | _ => miscounted 1
  | .table =>
    match fields with
    | [name, owner, rows] => do
      let rows ← rowsField tag rows
      let name ← nameField tag "name" name
      let owner ← nameField tag "owner" owner
      return .table ⟨name, owner, rows⟩
    | _ => miscounted 3
  | .coin =>
    match fields with
    | [name, owners, previous, signatures] => do
      let name ← nameField tag "name" name
      let owners ← namesField tag "owners" "owners" owners
      let previous ← namesField tag "previous_owners" "previous_owners" previous
      let signatures ← arrayField tag "signatures" signatures
      let signatures ← signatures.mapM (fixedField tag 64 "signatures")
      return .coin ⟨name, owners, previous, signatures⟩
    | _ => miscounted 4
  | .revocationKey family =>
    match fields with
    | [numbers, publicKey, secretKey] => do
      familyField tag family acceptText numbers
      let publicKey ← fixedField tag 32 "public_key" publicKey
      let secretKey ← fixedField tag 32 "secret_key" secretKey
      return .revocationKey ⟨family, publicKey, secretKey⟩
    | _ => miscounted 3
  | .identity family =>
    match fields with
    | [signPublic, boxPublic, signSecret, boxSecret] => do
      let signPublic ← fixedField tag 32 "public_keys.sign" signPublic
      let boxPublic ← fixedField tag 32 "public_keys.box" boxPublic
      let signSecret ← fixedField tag 32 "secret_keys.sign" signSecret
      let boxSecret ← fixedField tag 32 "secret_keys.box" boxSecret
      return .identity ⟨family, ⟨signPublic, boxPublic⟩, ⟨signSecret, boxSecret⟩⟩
    | _ => miscounted 4
  | .publicIdentity family =>
    match fields with
    | [signPublic, boxPublic, revocationKey, signature] => do
      let signPublic ← fixedField tag 32 "public_keys.sign" signPublic
      let boxPublic ← fixedField tag 32 "public_keys.box" boxPublic
      let revocationKey ← fixedField tag 32 "revocation_public_key" revocationKey
      let signature ← fixedField tag 64 "signature" signature
      verified scheme
        (.publicIdentity ⟨family, ⟨signPublic, boxPublic⟩, revocationKey, signature⟩)
    | _ => miscounted 4
  | .publicRevocation family =>
    match fields with
    | [publicKey, signature] => do
      let publicKey ← fixedField tag 32 "public_key" publicKey
      let signature ← fixedField tag 64 "signature" signature
      verified scheme (.publicRevocation ⟨family, publicKey, signature⟩)
    | _ => miscounted 2

end Overlay.Message
