/-
# Overlay.Datum.Basic — values that callers hand in

The functions of the library that build records are total on records of the right
type.  Callers, however, hand in values of any sort, and learn what is wrong with
them.  A `Datum` is such a value: a plain one (numbers, text, octets, lists, maps),
application data, an object that nothing is known about, a record, or what the library
has given back before: a tag, a family, a configuration, what came of a message.

A registered tag counts as its number wherever an integer does.  A payload that was
given its tag in this way keeps it so, but is the record of that number in every other
respect (`Datum.record?`).

A table or a coin may be assembled before it is known whether its names are names, and
a revocation key before it is known whether its tags are those of a family.  Such a
record is a *draft*: it can be held, compared and shown.  What stands in for a name may
have an identifier of its own; a draft with anything else in place of a name or of a
family has no fields and is not written.  A draft whose names are all names, or whose
tags are a family's, is the record itself, so a draft proper holds something else in
at least one of those places (`Datum.ofTable`, `Datum.ofCoin`, `Datum.ofKey`).
-/
import Overlay.Message.Outcome

namespace Overlay

set_option autoImplicit false

/-- The three ways in which octets are held: for good, to be changed, or as a view of others. -/
inductive Holding where
  | fixed
  | growing
  | view
  deriving DecidableEq, Repr

/-- A value that a caller hands in. -/
inductive Datum where
  | none
  | bool (value : Bool)
  | int (value : Int)
  /-- A floating-point number by its 64 bits.  One that is no number is the same only as itself;
  `origin` says which one it is. -/
  | float (bits : UInt64) (origin : Nat)
  | text (text : String)
  | octets (holding : Holding) (octets : Octets)
  | list (items : List Datum)
  | tuple (items : List Datum)
  | mapping (entries : List (Datum × Datum))
  | ext (code : UInt8) (data : Octets)
  /-- An object of a sort that has no written form, told apart from others of that sort. -/
  | foreign (identity : Nat)
  | record (record : Record)
  /-- A payload whose tag was given as a registered one. -/
  | tagPayload (inner : Tag) (octets : Octets)
  | draftTable (name owner : Datum) (rows : List (List Name))
  | draftCoin (name : Datum) (owners previousOwners : List Datum) (signatures : List Signature)
  | draftKey (tags : Datum) (publicKey secretKey : Key)
  /-- A message under an unregistered tag. -/
  | unknown (tag : Datum)
  /-- A registered tag. -/
  | registered (tag : Tag)
  | tagFamily (family : Family)
  | config (config : Config)
  /-- Settings that were given by name; they make up a configuration, but can be changed. -/
  | settings (config : Config)
  | outcome (outcome : Outcome)
  deriving Inhabited

namespace Datum

/-- A name as a value. -/
def ofName (name : Name) : Datum := .record (.name name)

/-- Octets as a value. -/
def ofOctets (octets : Octets) : Datum := .octets .fixed octets

/-- The record that a value is, if it is one. -/
def record? : Datum → Option Record
  | .record r => some r
  | .tagPayload inner content => some (.payload ⟨inner.number, content, inner.number_lt_bound⟩)
  | _ => Option.none

/-- The integer that a value is, not counting booleans. -/
def int? : Datum → Option Int
  | .int value => some value
  | .registered t => some t.number
  | _ => Option.none

/-- The name that a value is, if it is one. -/
def name? : Datum → Option Name
  | .record (.name n) => some n
  | _ => Option.none

/-- A table, or the draft of one. -/
def ofTable (name owner : Datum) (rows : List (List Name)) : Datum :=
  match name.name?, owner.name? with
  | some n, some o => .record (.table ⟨n, o, rows⟩)
  | _, _ => .draftTable name owner rows

/-- A coin, or the draft of one. -/
def ofCoin (name : Datum) (owners previousOwners : List Datum) (signatures : List Signature) :
    Datum :=
  match name.name?, owners.mapM name?, previousOwners.mapM name? with
  | some n, some os, some ps => .record (.coin ⟨n, os, ps, signatures⟩)
  | _, _, _ => .draftCoin name owners previousOwners signatures

/-- A revocation key, or the draft of one. -/
def ofKey (tags : Datum) (publicKey secretKey : Key) : Datum :=
  match tags with
  | .tagFamily f => .record (.revocationKey ⟨f, publicKey, secretKey⟩)
  | tags => .draftKey tags publicKey secretKey

/-- What was decoded, as a value. -/
def ofDecoded : Decoded → Datum
  | .record r => .record r
  | .unknown number => .unknown (.int number)

/-- The name under which messages report the sort of a value. -/
def typeName : Datum → String
  | .none => "NoneType"
  | .bool _ => "bool"
  | .int _ => "int"
  | .float _ _ => "float"
  | .text _ => "str"
  | .octets .fixed _ => "bytes"
  | .octets .growing _ => "bytearray"
  | .octets .view _ => "memoryview"
  | .list _ => "list"
  | .tuple _ => "tuple"
  | .mapping _ => "dict"
  | .ext _ _ => "ExtType"
  | .foreign _ => "Opaque"
  | .record r => r.tag.sort
  | .tagPayload _ _ => Tag.payload.sort
  | .draftTable _ _ _ => Tag.table.sort
  | .draftCoin _ _ _ _ => Tag.coin.sort
  -- the sort is the same in both families
  | .draftKey _ _ _ => (Tag.revocationKey .maid).sort
  | .unknown _ => "Unknown"
  | .registered _ => "TypeTag"
  | .tagFamily _ => "IdTypeTags"
  | .config _ => "WireConfig"
  | .settings _ => "WireConfigModel"
  | .outcome _ => "DecodeOutcome"

/-- Values that count as false: nothing, false, zero and what is empty. -/
def isTrue : Datum → Bool
  | .none => false
  | .bool value => value
  | .int value => value ≠ 0
  | .float bits _ => bits ≠ 0 && bits ≠ 0x8000000000000000
  | .text t => t ≠ ""
  | .octets _ o => !o.isEmpty
  | .list items | .tuple items => !items.isEmpty
  | .mapping entries => !entries.isEmpty
  | _ => true

/-- A value as one that may be a tag. -/
def rawTag : Datum → RawTag
  | .bool _ => .bool
  | .int value => .int value
  | .registered t => .int t.number
  | .text t => .text t
  | .octets .fixed o => .octets o
  | datum => .other datum.typeName

end Datum

end Overlay
