/-
# Overlay.Record — what travels between nodes

Nine sorts of record are registered.  A bare name; a payload, which carries the
octets of another message under that message's tag; a block of immutable data,
named by its content; a table, mutable data under a name and an owner; a coin; and
the four records of a client's keys, two of them secret and two published under a
signature.

A record has a tag, and each sort of record a fixed list of fields, which `fields`
gives as MessagePack items.
-/
import Overlay.MessagePack.Item
import Overlay.Name
import Overlay.Signature
import Overlay.Tag

namespace Overlay

set_option autoImplicit false

/-- A carrier of another message: the tag that message is said to have, and its octets. -/
structure Payload where
  inner : Nat
  octets : Octets
  inner_lt : inner < Tag.bound
  deriving DecidableEq

/-- A block of immutable data. -/
structure Block where
  copy : Copy
  value : Octets
  deriving DecidableEq

/-- Mutable data under a name and an owner: rows of names. -/
structure Table where
  name : Name
  owner : Name
  rows : List (List Name)
  deriving DecidableEq

/-- A coin, with those who own it, those who did, and their signatures. -/
structure Coin where
  name : Name
  owners : List Name
  previousOwners : List Name
  signatures : List Signature
  deriving DecidableEq

/-- A key pair for signing and one for the box, by one half each. -/
structure KeyPair where
  sign : Key
  box : Key
  deriving DecidableEq

/-- The key that signs, and so can revoke, the published records of a family. -/
structure RevocationKey where
  family : Family
  publicKey : Key
  secretKey : Key
  deriving DecidableEq

/-- A full identity, its secrets included. -/
structure Identity where
  family : Family
  publicKeys : KeyPair
  secretKeys : KeyPair
  deriving DecidableEq

/-- The published form of an identity, signed by the revocation key of its family. -/
structure PublicIdentity where
  family : Family
  publicKeys : KeyPair
  revocationKey : Key
  signature : Signature
  deriving DecidableEq

/-- The published form of a revocation key, signed by itself. -/
structure PublicRevocation where
  family : Family
  publicKey : Key
  signature : Signature
  deriving DecidableEq

/-- A record of any sort. -/
inductive Record where
  | name (name : Name)
  | payload (payload : Payload)
  | block (block : Block)
  | table (table : Table)
  | coin (coin : Coin)
  | revocationKey (key : RevocationKey)
  | identity (identity : Identity)
  | publicIdentity (identity : PublicIdentity)
  | publicRevocation (revocation : PublicRevocation)
  deriving DecidableEq

namespace Record

open MessagePack (Item)

/-- The tag of a record. -/
def tag : Record → Tag
  | .name _ => .name
  | .payload _ => .payload
  | .block b => .block b.copy
  | .table _ => .table
  | .coin _ => .coin
  | .revocationKey k => .revocationKey k.family
  | .identity i => .identity i.family
  | .publicIdentity i => .publicIdentity i.family
  | .publicRevocation r => .publicRevocation r.family

/-- A string of fixed length as a field. -/
def fixedItem {size : Nat} (fixed : Fixed size) : Item := .bin fixed.octets

/-- A name as a field. -/
def nameItem (n : Name) : Item := .bin n.octets

/-- A list of names as a field. -/
def namesItem (names : List Name) : Item := .array (names.map nameItem)

/-- The fields of a record. -/
def fields : Record → List Item
  | .name n => [nameItem n]
  | .payload p => [.int p.inner, .bin p.octets]
  | .block b => [.bin b.value]
  | .table t => [nameItem t.name, nameItem t.owner, .array (t.rows.map namesItem)]
  | .coin c =>
    [nameItem c.name, namesItem c.owners, namesItem c.previousOwners,
      .array (c.signatures.map fixedItem)]
  | .revocationKey k =>
    [.array (k.family.triple.map fun (number : Nat) => .int number), fixedItem k.publicKey,
      fixedItem k.secretKey]
  | .identity i =>
    [fixedItem i.publicKeys.sign, fixedItem i.publicKeys.box,
      fixedItem i.secretKeys.sign, fixedItem i.secretKeys.box]
  | .publicIdentity i =>
    [fixedItem i.publicKeys.sign, fixedItem i.publicKeys.box,
      fixedItem i.revocationKey, fixedItem i.signature]
  | .publicRevocation r => [fixedItem r.publicKey, fixedItem r.signature]

end Record

end Overlay
