/-
# Overlay.Proofs.Node.Decoding -- messages decoded by a node, alone and in a batch

A node that decodes under the terms of a configuration gives for a message what
`Message.decode` gives, refuses what is no message, and logs the events of it
(`runFrom_decodeLogged_value`, `runFrom_decode_value`).

Of several messages it gives one outcome each, in order, and what comes of one does not
depend on the others (`runFrom_decodeEach`): a refusal is an outcome like any other.  One
thing ends the run, a message that is neither decoded nor refused
(`Message.Unconvertible`): it makes a numeral of too many digits stand for a tag, or exceeds
a limit of too many digits.  There is no other (`decodeEach_exactly`), and there is this one
(`long_tag_ends_the_run`).
-/
import Mathlib.Data.List.Forall2
import Overlay.Node.Decoding
import Overlay.Proofs.Message.RoundTrip
import Overlay.Proofs.Node.Running

namespace Overlay

set_option autoImplicit false

namespace Message

/-- Of a configuration, decoding looks at the limit and at whether text is accepted for tags. -/
theorem decode_congr (scheme : Scheme) {a b : Config}
    (limit : a.maxMessageBytes = b.maxMessageBytes) (text : a.acceptTextTags = b.acceptTextTags)
    (message : Octets) :
    decode scheme a message = decode scheme b message := by
  unfold decode
  rw [limit, text]

end Message

namespace Node

open Datum (ofOctets)

variable {scheme : Scheme} {config : Config}

/-! ## One message -/

/-- What comes of a value that should be a message. -/
def verdict (scheme : Scheme) (config : Config) (message : Datum) : Except Failure Decoded :=
  match message.octets? with
  | some octets => Message.decode scheme config octets
  | none => Message.refuse (.notOctets message.typeName)

/-- The events that decoding a value leaves. -/
def eventsFor (scheme : Scheme) (config : Config) (message : Datum) : List Log.Event :=
  eventsOf config.logDecodeEvents message (verdict scheme config message)

theorem outcomeOf_ofConfig (message : Datum) :
    outcomeOf scheme (.ofConfig config) message = .ok (verdict scheme config message) := by
  unfold outcomeOf verdict
  cases message.octets? with
  | none => rfl
  | some octets => exact congrArg Except.ok (Message.decode_congr scheme rfl rfl octets)

/-- Under the terms of a configuration a value is decoded as under the configuration, and what comes of
it is logged. -/
theorem runFrom_decodeLogged_value (message : Datum) (node : Node) :
    (decodeLogged scheme (some (.ofConfig config)) message).runFrom node =
      (.ok (verdict scheme config message),
        (eventsFor scheme config message).foldl withEvent node) := by
  unfold decodeLogged
  simp only [termsOr, pure_bind, outcomeOf_ofConfig]
  rw [Action.runFrom_bind, Action.runFrom_lift]
  dsimp only
  rw [Action.runFrom_bind, Action.runFrom_forM_log]
  rfl

/-- A call to decode gives what comes of the value, or fails with its failure. -/
theorem runFrom_decode_value (message : Datum) (node : Node) :
    (decode scheme (some (.ofConfig config)) message).runFrom node =
      (((verdict scheme config message).map Datum.ofDecoded).mapError Failure.fault,
        (eventsFor scheme config message).foldl withEvent node) := by
  unfold decode
  rw [Action.runFrom_bind, runFrom_decodeLogged_value]
  cases verdict scheme config message with
  | ok decoded => rfl
  | error failure => rfl

/-- The node after a message was decoded: what came of it is logged. -/
def settled (scheme : Scheme) (config : Config) (node : Node) (message : Octets) : Node :=
  (eventsOf config.logDecodeEvents (ofOctets message) (Message.decode scheme config message)).foldl
    withEvent node

theorem runFrom_decodeLogged (message : Octets) (node : Node) :
    (decodeLogged scheme (some (.ofConfig config)) (ofOctets message)).runFrom node =
      (.ok (Message.decode scheme config message), settled scheme config node message) :=
  runFrom_decodeLogged_value (ofOctets message) node

theorem runFrom_decode (message : Octets) (node : Node) :
    (decode scheme (some (.ofConfig config)) (ofOctets message)).runFrom node =
      (((Message.decode scheme config message).map Datum.ofDecoded).mapError Failure.fault,
        settled scheme config node message) :=
  runFrom_decode_value (ofOctets message) node

/-! ## One message of several -/

/-- What comes of a message that is decoded or refused. -/
theorem runFrom_decodeOne {message : Octets} {outcome : Except Refusal Decoded}
    (decoded : Message.decode scheme config message = outcome.mapError .refused) (node : Node) :
    (decodeOne scheme (some (.ofConfig config)) (ofOctets message)).runFrom node =
      (.ok outcome, settled scheme config node message) := by
  unfold decodeOne
  rw [Action.runFrom_bind, runFrom_decodeLogged, decoded]
  cases outcome with
  | ok decoded => rfl
  | error refusal => rfl

theorem runFrom_decodeOne_of_oversized {message : Octets}
    (oversized : Message.decode scheme config message = .error .oversizedNumeral) (node : Node) :
    (decodeOne scheme (some (.ofConfig config)) (ofOctets message)).runFrom node =
      (.error .outside, settled scheme config node message) := by
  unfold decodeOne
  rw [Action.runFrom_bind, runFrom_decodeLogged, oversized]
  rfl

/-- A message is decoded, refused, or neither. -/
theorem decode_cases (scheme : Scheme) (config : Config) (message : Octets) :
    (∃ outcome : Except Refusal Decoded,
      Message.decode scheme config message = outcome.mapError .refused) ∨
      Message.decode scheme config message = .error .oversizedNumeral := by
  cases Message.decode scheme config message with
  | ok decoded => exact .inl ⟨.ok decoded, rfl⟩
  | error failure =>
      cases failure with
      | refused refusal => exact .inl ⟨.error refusal, rfl⟩
      | oversizedNumeral => exact .inr rfl

/-! ## Several messages -/

/-- The outcomes are those of the messages, one each and in order. -/
def Settles (scheme : Scheme) (config : Config) (messages : List Octets)
    (outcomes : List (Except Refusal Decoded)) : Prop :=
  List.Forall₂ (fun message outcome =>
    Message.decode scheme config message = outcome.mapError .refused) messages outcomes

theorem decodeEach_eq_mapM (messages : List Octets) :
    decodeEach scheme (some (.ofConfig config)) (.list (messages.map ofOctets)) =
      messages.mapM fun message =>
        decodeOne scheme (some (.ofConfig config)) (ofOctets message) := by
  have opened : lift (Datum.list (messages.map ofOctets)).items =
      pure (messages.map ofOctets) := rfl
  unfold decodeEach
  rw [opened, pure_bind, List.mapM_map]
  rfl

/-- Either every message comes to an outcome, or there is a first one that does not. -/
theorem settles_or_split (scheme : Scheme) (config : Config) (messages : List Octets) :
    (∃ outcomes, Settles scheme config messages outcomes) ∨
      ∃ before message after outcomes, messages = before ++ message :: after ∧
        Settles scheme config before outcomes ∧
        Message.decode scheme config message = .error .oversizedNumeral := by
  induction messages with
  | nil => exact .inl ⟨[], .nil⟩
  | cons message messages ih =>
      obtain ⟨outcome, decoded⟩ | oversized := decode_cases scheme config message
      · obtain ⟨outcomes, settles⟩ | ⟨before, long, after, outcomes, rfl, settles, oversized⟩ := ih
        · exact .inl ⟨_, .cons decoded settles⟩
        · exact .inr ⟨message :: before, long, after, _, rfl, .cons decoded settles, oversized⟩
      · exact .inr ⟨[], message, messages, [], rfl, .nil, oversized⟩

/-- Messages that all come to an outcome are all decoded. -/
theorem runFrom_decodeEach {messages : List Octets} {outcomes : List (Except Refusal Decoded)}
    (settles : Settles scheme config messages outcomes) (node : Node) :
    (decodeEach scheme (some (.ofConfig config)) (.list (messages.map ofOctets))).runFrom node =
      (.ok outcomes, messages.foldl (settled scheme config) node) := by
  rw [decodeEach_eq_mapM]
  exact Action.runFrom_mapM_of_ok
    (settles.imp fun message outcome decoded node => runFrom_decodeOne decoded node) node

/-- The first message that comes to none is the last that is looked at. -/
theorem runFrom_decodeEach_of_oversized {before after : List Octets} {message : Octets}
    {outcomes : List (Except Refusal Decoded)} (settles : Settles scheme config before outcomes)
    (oversized : Message.decode scheme config message = .error .oversizedNumeral) (node : Node) :
    (decodeEach scheme (some (.ofConfig config))
        (.list ((before ++ message :: after).map ofOctets))).runFrom node =
      (.error .outside, (before ++ [message]).foldl (settled scheme config) node) := by
  rw [decodeEach_eq_mapM]
  exact Action.runFrom_mapM_of_error
    (settles.imp fun message outcome decoded node => runFrom_decodeOne decoded node)
    (runFrom_decodeOne_of_oversized oversized) node

/-! ## Every run -/

section

variable {messages : List Octets} {outcomes : List (Except Refusal Decoded)}

/-- A message that comes to an outcome is not one that ends the run. -/
theorem Settles.not_unconvertible (settles : Settles scheme config messages outcomes) :
    ∀ message ∈ messages, ¬ Message.Unconvertible config message := by
  induction settles with
  | nil => simp
  | @cons message outcome _ _ decoded _ ih =>
      simp only [List.mem_cons, forall_eq_or_imp]
      refine ⟨fun unconvertible => ?_, ih⟩
      rw [Message.decode_eq_oversized_iff.2 unconvertible] at decoded
      cases outcome with
      | ok _ => cases decoded
      | error _ => cases decoded

/-- Without a message that cannot be converted, every message comes to an outcome. -/
theorem settles_iff (scheme : Scheme) :
    (∃ outcomes, Settles scheme config messages outcomes) ↔
      ∀ message ∈ messages, ¬ Message.Unconvertible config message := by
  constructor
  · rintro ⟨outcomes, settles⟩
    exact settles.not_unconvertible
  · intro convertible
    obtain settled | ⟨before, message, after, -, rfl, -, oversized⟩ :=
      settles_or_split scheme config messages
    · exact settled
    · exact absurd (Message.decode_eq_oversized_iff.1 oversized) (convertible message (by simp))

/-- With such a message the run has no outcomes at all. -/
theorem runFrom_decodeEach_of_unconvertible
    (unconvertible : ∃ message ∈ messages, Message.Unconvertible config message) (node : Node) :
    ((decodeEach scheme (some (.ofConfig config)) (.list (messages.map ofOctets))).runFrom node).1 =
      .error .outside := by
  obtain settled | ⟨before, message, after, outcomes, rfl, settles, oversized⟩ :=
    settles_or_split scheme config messages
  · obtain ⟨message, member, unconvertible⟩ := unconvertible
    exact absurd unconvertible ((settles_iff scheme).1 settled message member)
  · rw [runFrom_decodeEach_of_oversized settles oversized]

/-- A run over several messages gives an outcome for each of them, in order, and each outcome is
what its message alone is decoded to; unless a message cannot be converted, and exactly then the
run fails. -/
theorem decodeEach_exactly (scheme : Scheme) (config : Config) (messages : List Octets)
    (node : Node) :
    (∀ outcomes, ((decodeEach scheme (some (.ofConfig config))
        (.list (messages.map ofOctets))).runFrom node).1 = .ok outcomes ↔
      Settles scheme config messages outcomes) ∧
    ((∃ outcomes, Settles scheme config messages outcomes) ↔
      ∀ message ∈ messages, ¬ Message.Unconvertible config message) ∧
    (((decodeEach scheme (some (.ofConfig config))
        (.list (messages.map ofOctets))).runFrom node).1 = .error .outside ↔
      ∃ message ∈ messages, Message.Unconvertible config message) := by
  refine ⟨fun outcomes => ⟨fun completed => ?_, fun settles => ?_⟩, settles_iff scheme,
    fun failed => ?_, fun unconvertible => runFrom_decodeEach_of_unconvertible unconvertible node⟩
  · by_cases unconvertible : ∃ message ∈ messages, Message.Unconvertible config message
    · rw [runFrom_decodeEach_of_unconvertible unconvertible node] at completed
      cases completed
    · obtain ⟨others, settles⟩ := (settles_iff scheme).2 (by simpa using unconvertible)
      rw [runFrom_decodeEach settles node] at completed
      cases completed
      exact settles
  · rw [runFrom_decodeEach settles node]
  · by_contra convertible
    obtain ⟨outcomes, settles⟩ := (settles_iff scheme).2 (by simpa using convertible)
    rw [runFrom_decodeEach settles node] at failed
    cases failed

end

/-! ### A run that a message ends -/

/-- A tag of one digit more than is converted, in octets. -/
def longTag : Octets := [0xC5, 0x10, 0xCD] ++ List.replicate 4301 0x39

theorem longNumbered_longTag : Message.LongNumbered {} longTag := by
  have head : MessagePack.Head.Form (.bin (List.replicate 4301 (0x39 : UInt8)).length)
      [0xC5, 0x10, 0xCD] := by
    have known : ((0xC5 : UInt8), 2) ∈ MessagePack.Head.binForms := by decide
    have fits : 4301 < 256 ^ 2 := by decide
    rw [List.length_replicate]
    exact .bin known fits
  have digits : (List.replicate 4301 9).map (fun d => MessagePack.octet (0x30 + d)) =
      List.replicate 4301 0x39 := by
    rw [List.map_replicate]
    rfl
  have long : Tag.LongNumeral (.bin (List.replicate 4301 0x39)) := by
    rw [← digits]
    refine ⟨List.replicate 4301 9, .bin ?_, ?_⟩
    · intro d member
      rw [List.eq_of_mem_replicate member]
      decide
    · rw [List.length_replicate]
      decide
  refine ⟨?_, rfl, ?_⟩
  · rw [longTag, List.length_append, List.length_replicate]
    decide
  · rw [← List.append_nil longTag]
    exact .lead (.bin head) long

/-- The digits of a tag in one message keep the messages before and after it from an outcome. -/
theorem long_tag_ends_the_run :
    ¬ ∃ outcomes, ((decodeEach .lenient (some (.ofConfig {})) (.list
      ([Message.exampleMessage, longTag, Message.exampleMessage].map ofOctets))).runFrom {}).1 =
        .ok outcomes := by
  rintro ⟨outcomes, completed⟩
  rw [runFrom_decodeEach_of_unconvertible ⟨longTag, by simp, .inr longNumbered_longTag⟩ {}] at completed
  cases completed

end Node

end Overlay
