/-
# Overlay.Node.Decoding — messages decoded by a node

Decoding takes place under the terms of the caller, or else under the configuration of
the node.  The limit among a caller's terms may be any value: one that is no number
limits nothing and makes decoding fail.  Decoding may leave one event: a message
under an unregistered tag does, and so does a refused one (`eventsOf`).  The outcome
is the same with and without events.

Of several messages each is decoded by itself, and one that is refused does not stop
the others.
-/
import Overlay.Datum.Issuing
import Overlay.Message.Decode
import Overlay.Node.Setup

namespace Overlay.Node

set_option autoImplicit false

/-- The terms under which a caller has messages decoded. -/
structure Terms where
  /-- Messages of more octets are refused unread. -/
  limit : Datum := .int (Config.maxMessageBytes {})
  acceptTextTags : Bool := Config.acceptTextTags {}
  logDecodeEvents : Bool := Config.logDecodeEvents {}

/-- The terms that a configuration sets. -/
def Terms.ofConfig (config : Config) : Terms :=
  ⟨.int config.maxMessageBytes, config.acceptTextTags, config.logDecodeEvents⟩

/-- The configuration that sets the terms, but for the limit. -/
def Terms.config (terms : Terms) (limit : Int) : Config :=
  { maxMessageBytes := limit
    acceptTextTags := terms.acceptTextTags
    logDecodeEvents := terms.logDecodeEvents }

/-- What comes of the octets of a message.  Where the limit is no integer the octets are compared with
it here, and read under a limit that they keep. -/
def outcomeWithin (scheme : Scheme) (terms : Terms) (octets : Octets) :
    Except Fault (Except Failure Decoded) :=
  match terms.limit with
  | .int limit => .ok (Message.decode scheme (terms.config limit) octets)
  | limit =>
    if !limit.isNumeric then .error .unfit
    else if limit.place.isBelow (Datum.int octets.length).place then
      .ok (Message.refuse (.tooLarge octets.length limit.shown))
    else .ok (Message.decode scheme (terms.config octets.length) octets)

/-- What comes of a value that should be a message. -/
def outcomeOf (scheme : Scheme) (terms : Terms) (message : Datum) :
    Except Fault (Except Failure Decoded) :=
  match message.octets? with
  | some octets => outcomeWithin scheme terms octets
  | none => .ok (Message.refuse (.notOctets message.typeName))

/-- The events that decoding leaves, if it leaves any. -/
def eventsOf (logged : Bool) (message : Datum) : Except Failure Decoded → List Log.Event
  | .ok (.unknown number) =>
    if logged then [.unknownTag number (message.octets?.getD []).length] else []
  | .error (.refused refusal) => if logged then [.rejected refusal] else []
  | _ => []

/-- The terms given, or those that the configuration of the node sets. -/
def termsOr (given : Option Terms) : Action Terms :=
  match given with
  | some terms => return terms
  | none => do return .ofConfig (← config)

/-- Decode a message and log what comes of it. -/
def decodeLogged (scheme : Scheme) (given : Option Terms) (message : Datum) :
    Action (Except Failure Decoded) := do
  let terms ← termsOr given
  let outcome ← lift (outcomeOf scheme terms message)
  (eventsOf terms.logDecodeEvents message outcome).forM log
  return outcome

/-- Decode a message. -/
def decode (scheme : Scheme) (given : Option Terms) (message : Datum) : Action Datum := do
  match ← decodeLogged scheme given message with
  | .ok decoded => return .ofDecoded decoded
  | .error failure => throw failure.fault

/-- Decode one message of several; its refusal is what comes of it, and no failure of the call. -/
def decodeOne (scheme : Scheme) (given : Option Terms) (message : Datum) :
    Action (Except Refusal Decoded) := do
  match ← decodeLogged scheme given message with
  | .ok decoded => return .ok decoded
  | .error (.refused refusal) => return .error refusal
  | .error .oversizedNumeral => throw Failure.oversizedNumeral.fault

/-- Decode several messages, each with an outcome of its own. -/
def decodeEach (scheme : Scheme) (given : Option Terms) (messages : Datum) :
    Action (List (Except Refusal Decoded)) := do
  (← lift messages.items).mapM (decodeOne scheme given)

/-- Decode the message that a payload carries; a message under another tag than the payload declares
is refused, and that leaves no event. -/
def unwrap (scheme : Scheme) (given : Option Terms) (payload : Datum) : Action Datum := do
  let payload ← lift payload.toPayload
  match ← decodeLogged scheme given (.ofOctets payload.octets) with
  | .error failure => throw failure.fault
  | .ok decoded =>
    match payload.checked decoded with
    | .ok decoded => return .ofDecoded decoded
    | .error failure => throw failure.fault

end Overlay.Node
