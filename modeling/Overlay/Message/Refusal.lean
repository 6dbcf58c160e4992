/-
# Overlay.Message.Refusal — why a message is not decoded

A refusal is one of four kinds, and is attributed to a sort of record or to none.
Attributed to none are the refusals that precede the fields: the message is no
octets or too many, its leading tag cannot be read, or its fields are missing,
unreadable, no array, or not the end of it.  A refusal of the shape of the fields
names the sort of record, a field of the wrong size and a tag inside the fields
name the leading tag.

One failure is not a refusal: a number has too many digits to be converted
(`Failure.oversizedNumeral`), be it a numeral for a tag or the limit that a refusal
would write.
-/
import Overlay.MessagePack.Fault
import Overlay.Octets.Size
import Overlay.Tag.Reading

namespace Overlay

set_option autoImplicit false

/-- The two parts of a message. -/
inductive Part where
  | tag
  | fields
  deriving DecidableEq, Repr

/-- What messages call a part. -/
def Part.title : Part → String
  | .tag => "type tag"
  | .fields => "fields"

/-- The four kinds of refusal. -/
inductive RefusalKind where
  | badTag
  | badSize
  | badSignature
  | malformed
  deriving DecidableEq, Repr

/-- The name of the report of a kind of refusal. -/
def RefusalKind.title : RefusalKind → String
  | .badTag => "BadTagError"
  | .badSize => "BadSizeError"
  | .badSignature => "BadSignatureError"
  | .malformed => "MalformedError"

/-- The code of a kind of refusal. -/
def RefusalKind.code : RefusalKind → String
  | .badTag => "bad_tag"
  | .badSize => "bad_size"
  | .badSignature => "bad_signature"
  | .malformed => "malformed"

/-- Why a message is not decoded. -/
inductive Refusal where
  /-- The message is no octets. -/
  | notOctets (typeName : String)
  | tooLarge (size : Nat) (limit : String)
  | leadingTag (fault : TagFault)
  | truncated (part : Part)
  /-- A part of a message that allows so many items is no object. -/
  | unreadable (part : Part) (limit : Nat) (fault : MessagePack.Fault)
  | trailing (count : Nat)
  | notArray (typeName : String)
  | fieldCount (tag : Tag) (expected actual : Nat)
  | fieldNotOctets (tag : Tag) (field typeName : String)
  | fieldNotArray (tag : Tag) (field typeName : String)
  | fieldSize (tag : Tag) (mismatch : SizeMismatch)
  /-- A tag inside the fields cannot be read. -/
  | innerTag (tag : Tag) (fault : TagFault)
  | familyCount (tag : Tag) (count : Nat)
  | familyMismatch (tag : Tag) (numbers : List Nat)
  | badSignature (tag : Tag)
  /-- A payload carries a message under another tag than it declares. -/
  | carriedTag (carried declared : Nat)
  deriving DecidableEq, Repr

namespace Refusal

/-- The kind of a refusal. -/
def kind : Refusal → RefusalKind
  | .leadingTag _ | .innerTag _ _ | .familyCount _ _ | .familyMismatch _ _ => .badTag
  | .fieldSize _ _ => .badSize
  | .badSignature _ => .badSignature
  | _ => .malformed

/-- The code of a refusal. -/
def code (refusal : Refusal) : String := refusal.kind.code

/-- What a refusal is attributed to: a sort of record, a tag, or nothing. -/
def variant : Refusal → Option String
  | .notOctets _ | .tooLarge _ _ | .leadingTag _ | .truncated _ | .unreadable _ _ _
  | .trailing _ | .notArray _ => none
  | .fieldSize tag _ | .innerTag tag _ => some tag.title
  | .fieldCount tag _ _ | .fieldNotOctets tag _ _ | .fieldNotArray tag _ _ | .familyCount tag _
  | .familyMismatch tag _ | .badSignature tag => some tag.sort
  | .carriedTag _ _ => some Tag.payload.sort

/-- Numbers in parentheses, separated by a comma and a space. -/
def tuple (numbers : List Nat) : String :=
  "(" ++ String.intercalate ", " (numbers.map toString) ++ ")"

/-- What does not verify in a published record. -/
def signatureName : Tag → String
  | .publicRevocation _ => "self-signature"
  | _ => "revocation signature"

/-- The text of a refusal.  Where a part is unreadable it stops before what the reader of objects
says about that. -/
def message : Refusal → String
  | .notOctets typeName => "expected bytes, got " ++ typeName
  | .tooLarge size limit => "message too large: " ++ toString size ++ " > " ++ limit
  | .leadingTag fault => fault.message
  | .truncated part => "truncated message: missing " ++ part.title
  | .unreadable part _ _ => "invalid " ++ part.title
  | .trailing count => "trailing bytes after fields: " ++ toString count
  | .notArray typeName => "fields must be an array, got " ++ typeName
  | .fieldCount tag expected actual =>
    tag.sort ++ ": expected " ++ toString expected ++ " fields, got " ++ toString actual
  | .fieldNotOctets tag field typeName =>
    tag.sort ++ ": field '" ++ field ++ "' must be bytes, got " ++ typeName
  | .fieldNotArray tag field typeName =>
    tag.sort ++ ": field '" ++ field ++ "' must be an array, got " ++ typeName
  | .fieldSize tag mismatch => tag.title ++ ": " ++ mismatch.message
  | .innerTag _ fault => fault.message
  | .familyCount tag count => tag.sort ++ ": expected 3 family tags, got " ++ toString count
  | .familyMismatch tag numbers =>
    tag.sort ++ ": family tags " ++ tuple numbers ++ " do not match leading tag " ++
      toString tag.number
  | .badSignature tag => tag.sort ++ ": " ++ signatureName tag ++ " does not verify"
  | .carriedTag carried declared =>
    "Payload: carried tag " ++ toString carried ++ " does not match declared " ++ toString declared

/-- The text of a refusal in full, with what the reader of objects says about an unreadable part. -/
def report (refusal : Refusal) : String :=
  match refusal with
  | .unreadable _ limit fault => refusal.message ++ ": " ++ fault.text limit
  | _ => refusal.message

end Refusal

/-- How decoding can fail. -/
inductive Failure where
  | refused (refusal : Refusal)
  /-- A number has too many digits to be converted from text or to it. -/
  | oversizedNumeral
  deriving DecidableEq, Repr

/-- A problem with a tag as a failure, the place of the tag being told by the attribution. -/
def Failure.ofTag (attribution : TagFault → Refusal) : TagProblem → Failure
  | .refused fault => .refused (attribution fault)
  | .oversized => .oversizedNumeral

end Overlay
