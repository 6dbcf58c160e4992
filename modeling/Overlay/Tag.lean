/-
# Overlay.Tag — the registry of type tags

Every message starts with a tag, one number below `2 ^ 64` for each sort of record.
The numbers lie at fixed offsets from `Tag.base`, and no number is used twice
(`ofNumber?_number`, `number_injective`); a record's sort never changes its number, and a new
sort only ever adds one.

Two families of client keys exist side by side, each with four tags of its own,
and a block of data comes in three copies that share a layout.
-/
import Overlay.Power

namespace Overlay

set_option autoImplicit false

/-- The two families of client keys: those of a client and those of a public name. -/
inductive Family where
  | maid
  | mpid
  deriving DecidableEq, Repr, Inhabited

/-- The three copies of a block. -/
inductive Copy where
  | primary
  | backup
  | sacrificial
  deriving DecidableEq, Repr, Inhabited

/-- The sorts of record that travel, one tag each. -/
inductive Tag where
  | name
  | payload
  | block (copy : Copy)
  | table
  | coin
  | revocationKey (family : Family)
  | identity (family : Family)
  | publicIdentity (family : Family)
  | publicRevocation (family : Family)
  deriving DecidableEq, Repr, Inhabited

namespace Tag

/-- The number that all tags are offsets from. -/
def base : Nat := 5483000

/-- Tags are numbers below this bound. -/
def bound : Nat := 2 ^ 64

/-- The number of a tag. -/
def number : Tag → Nat
  | .name => base
  | .payload => base + 1
  | .block .primary => base + 100
  | .block .backup => base + 101
  | .block .sacrificial => base + 102
  | .table => base + 103
  | .coin => base + 104
  | .revocationKey .maid => base + 200
  | .identity .maid => base + 201
  | .publicIdentity .maid => base + 202
  | .publicRevocation .maid => base + 203
  | .revocationKey .mpid => base + 210
  | .identity .mpid => base + 211
  | .publicIdentity .mpid => base + 212
  | .publicRevocation .mpid => base + 213

/-- The registered name of a tag. -/
def title : Tag → String
  | .name => "NAME_TYPE"
  | .payload => "PAYLOAD"
  | .block .primary => "IMMUTABLE_DATA"
  | .block .backup => "IMMUTABLE_DATA_BACKUP"
  | .block .sacrificial => "IMMUTABLE_DATA_SACRIFICIAL"
  | .table => "STRUCTURED_DATA"
  | .coin => "SAFECOIN"
  | .revocationKey .maid => "AN_MAID"
  | .identity .maid => "MAID"
  | .publicIdentity .maid => "PUBLIC_MAID"
  | .publicRevocation .maid => "PUBLIC_AN_MAID"
  | .revocationKey .mpid => "AN_MPID"
  | .identity .mpid => "MPID"
  | .publicIdentity .mpid => "PUBLIC_MPID"
  | .publicRevocation .mpid => "PUBLIC_AN_MPID"

/-- Every tag, in the order of the numbers. -/
def all : List Tag := [
  .name, .payload, .block .primary, .block .backup, .block .sacrificial, .table, .coin,
  .revocationKey .maid, .identity .maid, .publicIdentity .maid, .publicRevocation .maid,
  .revocationKey .mpid, .identity .mpid, .publicIdentity .mpid, .publicRevocation .mpid]

/-- The tag with the given number, if one is registered. -/
def ofNumber? (n : Nat) : Option Tag := all.find? (·.number == n)

theorem mem_all (tag : Tag) : tag ∈ all := by
  cases tag with
  | block copy => cases copy <;> decide
  | revocationKey family => cases family <;> decide
  | identity family => cases family <;> decide
  | publicIdentity family => cases family <;> decide
  | publicRevocation family => cases family <;> decide
  | _ => decide

@[simp] theorem ofNumber?_number (tag : Tag) : ofNumber? tag.number = some tag := by
  cases tag with
  | block copy => cases copy <;> decide
  | revocationKey family => cases family <;> decide
  | identity family => cases family <;> decide
  | publicIdentity family => cases family <;> decide
  | publicRevocation family => cases family <;> decide
  | _ => decide

theorem number_of_ofNumber? {n : Nat} {tag : Tag} (h : ofNumber? n = some tag) :
    tag.number = n := by
  simpa using List.find?_some h

theorem number_injective {a b : Tag} (h : a.number = b.number) : a = b := by
  have both := ofNumber?_number a
  rw [h, ofNumber?_number b] at both
  injection both with both
  exact both.symm

theorem number_lt_bound (tag : Tag) : tag.number < bound := by
  cases tag with
  | block copy => cases copy <;> decide
  | revocationKey family => cases family <;> decide
  | identity family => cases family <;> decide
  | publicIdentity family => cases family <;> decide
  | publicRevocation family => cases family <;> decide
  | _ => decide

/-- The sort of record that a tag stands for, by the name messages use; the copies of a block and
the two families share one. -/
def sort : Tag → String
  | .name => "NameType"
  | .payload => "Payload"
  | .block _ => "ImmutableData"
  | .table => "StructuredData"
  | .coin => "SafeCoin"
  | .revocationKey _ => "RevocationIdType"
  | .identity _ => "IdType"
  | .publicIdentity _ => "PublicIdType"
  | .publicRevocation _ => "PublicRevocationIdType"

end Tag

namespace Family

/-- Both families, in the order in which they are searched. -/
def all : List Family := [.maid, .mpid]

/-- The name of a family. -/
def title : Family → String
  | .maid => "MAID"
  | .mpid => "MPID"

/-- The three tags that a revocation key carries, those of itself, of the identity and of the
public identity. -/
def triple (family : Family) : List Nat :=
  [(Tag.revocationKey family).number, (Tag.identity family).number,
    (Tag.publicIdentity family).number]

/-- All four tags of a family. -/
def tags (family : Family) : List Tag :=
  [.revocationKey family, .identity family, .publicIdentity family, .publicRevocation family]

/-- The family whose three carried tags these are, in order. -/
def ofTriple? (numbers : List Nat) : Option Family := all.find? (·.triple == numbers)

/-- The family that a tag number belongs to. -/
def ofNumber? (n : Nat) : Option Family := all.find? fun family => family.tags.any (·.number == n)

@[simp] theorem ofTriple?_triple (family : Family) : ofTriple? family.triple = some family := by
  cases family <;> decide

theorem triple_of_ofTriple? {numbers : List Nat} {family : Family}
    (h : ofTriple? numbers = some family) : family.triple = numbers := by
  simpa using List.find?_some h

end Family

end Overlay
