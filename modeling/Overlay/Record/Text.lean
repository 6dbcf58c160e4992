/-
# Overlay.Record.Text — a record as a line of text

A record is shown by its sort and its fields, each with its name, except that a name
shows its first octets only, a block its name and length instead of its value, and
no secret key is shown at all.  What stands in a field is shown as text by the same
few rules: octets in quotation marks, several values in parentheses, a tag by its
name and number.
-/
import Overlay.Record.Signed
import Overlay.Text.Quoted

namespace Overlay

set_option autoImplicit false

namespace Text

/-- Several texts in parentheses; a single one is followed by a comma. -/
def inParentheses : List String → String
  | [one] => "(" ++ one ++ ",)"
  | texts => "(" ++ String.intercalate ", " texts ++ ")"

/-- A sort with its fields by name. -/
def withFields (sort : String) (fields : List (String × String)) : String :=
  sort ++ "(" ++ String.intercalate ", " (fields.map fun (name, text) => name ++ "=" ++ text) ++ ")"

end Text

namespace Record

open Text (inParentheses withFields quotedOctets)

/-- A tag by its name and number. -/
def tagText (tag : Tag) : String :=
  "<TypeTag." ++ tag.title ++ ": " ++ toString tag.number ++ ">"

/-- The four tags of a family. -/
def familyText (family : Family) : String :=
  withFields "IdTypeTags" [
    ("revocation", tagText (.revocationKey family)),
    ("id", tagText (.identity family)),
    ("public_id", tagText (.publicIdentity family)),
    ("public_revocation", tagText (.publicRevocation family))]

/-- A string of fixed length in quotation marks. -/
def fixedText {size : Nat} (fixed : Fixed size) : String := quotedOctets fixed.octets

/-- Both keys of a pair. -/
def pairText (pair : KeyPair) : String := inParentheses [fixedText pair.sign, fixedText pair.box]

/-- Rows of names. -/
def rowsText (rows : List (List Name)) : String :=
  inParentheses (rows.map fun row => inParentheses (row.map Name.brief))

/-- Signatures. -/
def signaturesText (signatures : List Signature) : String := inParentheses (signatures.map fixedText)

/-- A payload by the text of the tag that it declares and its octets. -/
def payloadText (inner : String) (octets : Octets) : String :=
  withFields Tag.payload.sort [("type_tag_inner", inner), ("payload", quotedOctets octets)]

/-- A table by the texts of its names and its rows. -/
def tableText (name owner : String) (rows : List (List Name)) : String :=
  withFields Tag.table.sort [("name", name), ("owner", owner), ("value", rowsText rows)]

/-- A coin by the texts of its names and its signatures. -/
def coinText (name : String) (owners previousOwners : List String) (signatures : List Signature) :
    String :=
  withFields Tag.coin.sort [
    ("name", name), ("owners", inParentheses owners),
    ("previous_owners", inParentheses previousOwners), ("signatures", signaturesText signatures)]

/-- A revocation key by the text of its tags and its public half. -/
def keyText (tags : String) (publicKey : Key) : String :=
  withFields (Tag.revocationKey .maid).sort [
    ("type_tags", tags), ("public_key", fixedText publicKey)]

/-- A record as text. -/
def text (record : Record) : String :=
  match record with
  | .name n => n.brief
  | .payload p => payloadText (toString p.inner) p.octets
  | .block b =>
    withFields record.tag.sort [
      ("type_tag", record.tag.title), ("name", b.address.brief), ("len", toString b.value.length)]
  | .table t => tableText t.name.brief t.owner.brief t.rows
  | .coin c =>
    coinText c.name.brief (c.owners.map Name.brief) (c.previousOwners.map Name.brief) c.signatures
  | .revocationKey k => keyText (familyText k.family) k.publicKey
  | .identity i =>
    withFields record.tag.sort [
      ("type_tag", tagText record.tag), ("public_keys", pairText i.publicKeys)]
  | .publicIdentity i =>
    withFields record.tag.sort [
      ("type_tag", tagText record.tag), ("public_keys", pairText i.publicKeys),
      ("revocation_public_key", fixedText i.revocationKey), ("signature", fixedText i.signature)]
  | .publicRevocation r =>
    withFields record.tag.sort [
      ("type_tag", tagText record.tag), ("public_key", fixedText r.publicKey),
      ("signature", fixedText r.signature)]

end Record

end Overlay
