/-
# Overlay.Message.Decode — a record from the octets of a message

Decoding reads the leading tag and looks it up.  A tag that is not registered ends
the matter: the message is `unknown`, and nothing after its tag is looked at.  Under
a registered tag the rest must be one array of fields, and the fields must describe
a record of that tag.

`Payload.unwrap` decodes the message that a payload carries, and refuses it if it has
another tag than the payload declares.
-/
import Overlay.Config
import Overlay.Message.Frame
import Overlay.Message.Shape
import Overlay.Text.Numeral

namespace Overlay

set_option autoImplicit false

/-- What a message is decoded to. -/
inductive Decoded where
  | record (record : Record)
  /-- A message under a tag that is not registered. -/
  | unknown (number : Nat)
  deriving DecidableEq

/-- The tag number that a decoded message has. -/
def Decoded.number : Decoded → Nat
  | .record r => r.tag.number
  | .unknown n => n

namespace Message

/-- What is wrong with a message of more octets than the limit.  The refusal writes the limit, and
a limit of more than `Text.maxDigits` digits is not written.  No message has as many octets as
such a number, so one that a message exceeds is negative. -/
def tooLarge (limit : Int) (size : Nat) : Failure :=
  if limit ≤ -(10 ^ Text.maxDigits) then .oversizedNumeral
  else .refused (.tooLarge size (toString limit))

/-- Decode the octets of a message. -/
def decode (scheme : Scheme) (config : Config) (message : Octets) : Except Failure Decoded := do
  if config.maxMessageBytes < message.length then
    throw (tooLarge config.maxMessageBytes message.length)
  let (number, rest) ← readTag config.acceptTextTags message
  match Tag.ofNumber? number with
  | none => return .unknown number
  | some tag =>
    let fields ← readFields (limitOf message) rest
    return .record (← recordOf scheme config.acceptTextTags tag fields)

end Message

namespace Payload

/-- What a payload's message was decoded to, if that has the tag that the payload declares. -/
def checked (payload : Payload) (decoded : Decoded) : Except Failure Decoded :=
  if decoded.number = payload.inner then .ok decoded
  else Message.refuse (.carriedTag decoded.number payload.inner)

/-- The message that a payload carries, under the tag that it declares. -/
def unwrap (scheme : Scheme) (config : Config) (payload : Payload) : Except Failure Decoded := do
  payload.checked (← Message.decode scheme config payload.octets)

/-- The payload that carries a record, if the record can be written. -/
def carry? (record : Record) : Option Payload :=
  (Message.encode? record).map fun octets =>
    ⟨record.tag.number, octets, record.tag.number_lt_bound⟩

/-- A payload under a declared tag that carries nothing. -/
def empty? (number : Nat) : Option Payload := Message.payloadOf number []

end Payload

end Overlay
