/-
# Overlay.Proofs.Node.Unwrapping -- messages taken out of payloads

Unwrapping a payload decodes the message that it carries, and gives what that is decoded to
if its tag is the one that the payload declares (`runFrom_unwrap`).

What was put into a tower of payloads comes out of it again, unwrapping by unwrapping, and
nothing is logged on the way (`runFrom_opened_of_carried`).  A message can be anybody's and
need not have been made in this way, but every message that is unwrapped is shorter than
the one around it (`length_add_lt_of_carries`), so of any message only so many can be
unwrapped.  `unwrapping_faithful` puts the parts together.
-/
import Mathlib.Data.Nat.Find
import Overlay.Proofs.Datum.Carrying
import Overlay.Proofs.Node.Ending

namespace Overlay

set_option autoImplicit false

/-- The tag number of what a message is decoded to. -/
def Datum.messageTag? : Datum → Option Nat
  | .unknown (.int number) => some number.toNat
  | value => value.tag?.map Tag.number

theorem Datum.messageTag?_ofDecoded (decoded : Decoded) :
    (ofDecoded decoded).messageTag? = some decoded.number := by
  cases decoded with
  | record r => rfl
  | unknown number => rfl

namespace Node

open Datum (ofOctets ofDecoded)

variable {scheme : Scheme} {config : Config}

/-! ## One payload -/

theorem runFrom_unwrap {value : Datum} {payload : Payload}
    (recorded : value.record? = some (.payload payload)) (node : Node) :
    (unwrap scheme (some (.ofConfig config)) value).runFrom node =
      (((payload.unwrap scheme config).map ofDecoded).mapError Failure.fault,
        settled scheme config node payload.octets) := by
  have read : value.toPayload = .ok payload := by rw [Datum.toPayload, recorded]
  unfold unwrap
  rw [read, Action.runFrom_bind, Action.runFrom_lift]
  dsimp only
  rw [Action.runFrom_bind, runFrom_decodeLogged, Payload.unwrap]
  cases Message.decode scheme config payload.octets with
  | error failure => rfl
  | ok decoded =>
      dsimp only [bind, Except.bind]
      cases payload.checked decoded with
      | ok decoded => rfl
      | error failure => rfl

/-- What is no payload cannot be unwrapped. -/
theorem runFrom_unwrap_of_no_payload {value : Datum}
    (other : ∀ payload, value.record? ≠ some (.payload payload)) (node : Node) :
    (unwrap scheme (some (.ofConfig config)) value).runFrom node = (.error .missing, node) := by
  have missing : value.toPayload = .error .missing := by
    unfold Datum.toPayload
    split
    · next payload found => exact absurd found (other payload)
    · rfl
  unfold unwrap
  rw [missing, Action.runFrom_bind, Action.runFrom_lift]

/-- What a call to unwrap ends in. -/
def unwrapped (scheme : Scheme) (config : Config) (value : Datum) (node : Node) :
    Except Fault Datum :=
  ((unwrap scheme (some (.ofConfig config)) value).runFrom node).1

section

variable {value : Datum} {payload : Payload} {node : Node}
  (recorded : value.record? = some (.payload payload))

include recorded

theorem unwrapped_eq_ok_iff {found : Datum} :
    unwrapped scheme config value node = .ok found ↔
      ending scheme config payload.octets node = .ok found ∧
        found.messageTag? = some payload.inner := by
  rw [unwrapped, runFrom_unwrap recorded, ending_eq_ok_iff]
  constructor
  · intro h
    cases read : payload.unwrap scheme config with
    | error failure =>
        rw [read] at h
        cases h
    | ok decoded =>
        rw [read] at h
        cases h
        obtain ⟨read, same⟩ := Payload.unwrap_eq_ok_iff.1 read
        rw [Datum.messageTag?_ofDecoded, same]
        exact ⟨⟨decoded, read, rfl⟩, rfl⟩
  · rintro ⟨⟨decoded, read, rfl⟩, same⟩
    rw [Datum.messageTag?_ofDecoded] at same
    rw [Payload.unwrap_eq_ok_iff.2 ⟨read, Option.some.inj same⟩]
    rfl

theorem unwrapped_of_other_tag {found : Datum}
    (ended : ending scheme config payload.octets node = .ok found)
    (other : found.messageTag? ≠ some payload.inner) :
    ∃ refusal, unwrapped scheme config value node = .error (.refused refusal) ∧
      refusal.kind = .malformed ∧ refusal.variant = some "Payload" := by
  obtain ⟨decoded, read, rfl⟩ := ending_eq_ok_iff.1 ended
  rw [Datum.messageTag?_ofDecoded] at other
  have number : decoded.number ≠ payload.inner := fun same => other (congrArg some same)
  refine ⟨.carriedTag decoded.number payload.inner, ?_, rfl, rfl⟩
  rw [unwrapped, runFrom_unwrap recorded, Payload.unwrap_of_number_ne read number]
  rfl

theorem unwrapped_of_error {fault : Fault}
    (ended : ending scheme config payload.octets node = .error fault) :
    unwrapped scheme config value node = .error fault := by
  obtain ⟨failure, failed, rfl⟩ := ending_eq_error_iff.1 ended
  rw [unwrapped, runFrom_unwrap recorded, Payload.unwrap_of_error failed]
  rfl

end

/-! ## Payloads inside payloads -/

/-- Unwrap so many times, each time what was unwrapped before. -/
def unwrapTimes (scheme : Scheme) (config : Config) : Nat → Datum → Action Datum
  | 0, value => return value
  | n + 1, value => unwrap scheme (some (.ofConfig config)) value >>= unwrapTimes scheme config n

/-- Decode a message and unwrap what it is decoded to so many times. -/
def opened (scheme : Scheme) (config : Config) (n : Nat) (message : Octets) : Action Datum :=
  decode scheme (some (.ofConfig config)) (ofOctets message) >>= unwrapTimes scheme config n

/-- A message of a record leaves no event. -/
theorem settled_of_record {message : Octets} {record : Record}
    (decoded : Message.decode scheme config message = .ok (.record record)) (node : Node) :
    settled scheme config node message = node := by
  rw [settled, decoded]
  rfl

/-- A tower is taken down to the record that it stands on. -/
theorem runFrom_unwrapTimes_of_carried {value carrier : Datum} {record r : Record}
    {message : Octets} {n : Nat} (recorded : value.record? = some record)
    (verifies : record.verifies scheme = true) (made : Datum.carried n value = .ok carrier)
    (found : carrier.record? = some r) (encoded : Message.encode? r = some message)
    (small : (message.length : Int) ≤ config.maxMessageBytes) (node : Node) :
    (unwrapTimes scheme config n (.record r)).runFrom node = (.ok (.record record), node) := by
  induction n generalizing carrier r message with
  | zero =>
      cases made
      rw [recorded] at found
      cases found
      rfl
  | succ n ih =>
      obtain ⟨inner, q, payload, below, known, carries, rfl⟩ :=
        Datum.carried_succ_eq_ok recorded made
      cases found
      have written : Message.Written false (.payload payload) message :=
        Message.written_of_encode? encoded
      have shorter := written.length_octets_lt
      obtain ⟨s, known', sound⟩ := Datum.record?_of_carried recorded verifies below
      rw [known] at known'
      cases known'
      have within : (payload.octets.length : Int) ≤ config.maxMessageBytes := by omega
      obtain ⟨octets, inside, rfl⟩ := Option.map_eq_some_iff.1 carries
      have read := Message.decode_encode? inside within sound
      have unwraps := Payload.unwrap_carry? carries within sound
      unfold unwrapTimes
      rw [Action.runFrom_bind, runFrom_unwrap rfl, unwraps, settled_of_record read]
      exact ih below known inside within

/-- What was put into a tower comes out of the message of the tower. -/
theorem runFrom_opened_of_carried {value carrier : Datum} {record : Record} {message : Octets}
    {n : Nat} (recorded : value.record? = some record) (verifies : record.verifies scheme = true)
    (made : Datum.carried n value = .ok carrier) (encoded : carrier.encode = .ok message)
    (small : (message.length : Int) ≤ config.maxMessageBytes) (node : Node) :
    (opened scheme config n message).runFrom node = (.ok (.record record), node) := by
  obtain ⟨r, found, sound⟩ := Datum.record?_of_carried recorded verifies made
  have encoded := (Datum.encode_eq_ok_iff found).1 encoded
  have read := Message.decode_encode? encoded small sound
  unfold opened
  rw [Action.runFrom_bind, runFrom_decode, read, settled_of_record read]
  exact runFrom_unwrapTimes_of_carried recorded verifies made found encoded small node

/-! ## How far a message can be opened -/

/-- A value that was decoded and is a payload was decoded from a message of it. -/
theorem eq_of_record?_ofDecoded {decoded : Decoded} {record : Record}
    (found : (ofDecoded decoded).record? = some record) : decoded = .record record := by
  cases decoded with
  | record r =>
      cases found
      rfl
  | unknown number => cases found

/-- What can be unwrapped once more is a payload, and then its message is opened. -/
theorem runFrom_opened_succ {n : Nat} {message : Octets} {node after : Node} {value : Datum}
    (h : (opened scheme config (n + 1) message).runFrom node = (.ok value, after)) :
    ∃ payload, Message.decode scheme config message = .ok (.record (.payload payload)) ∧
      (opened scheme config n payload.octets).runFrom (settled scheme config node message) =
        (.ok value, after) := by
  unfold opened at h ⊢
  rw [Action.runFrom_bind, runFrom_decode] at h
  cases read : Message.decode scheme config message with
  | error failure =>
      rw [read] at h
      cases h
  | ok decoded =>
      rw [read] at h
      replace h : (unwrapTimes scheme config (n + 1) (ofDecoded decoded)).runFrom
        (settled scheme config node message) = (.ok value, after) := h
      rw [unwrapTimes, Action.runFrom_bind] at h
      by_cases carries : ∃ payload, (ofDecoded decoded).record? = some (.payload payload)
      · obtain ⟨payload, found⟩ := carries
        refine ⟨payload, congrArg Except.ok (eq_of_record?_ofDecoded found), ?_⟩
        rw [runFrom_unwrap found] at h
        cases unwraps : payload.unwrap scheme config with
        | error failure =>
            rw [unwraps] at h
            cases h
        | ok inner =>
            rw [unwraps] at h
            rw [Action.runFrom_bind, runFrom_decode, (Payload.unwrap_eq_ok_iff.1 unwraps).1]
            exact h
      · rw [runFrom_unwrap_of_no_payload (fun payload found => carries ⟨payload, found⟩)] at h
        cases h

/-- The message carries a payload at this depth, the message itself being at depth zero. -/
def Carries (scheme : Scheme) (config : Config) (message : Octets) (node : Node) (n : Nat)
    (payload : Payload) : Prop :=
  ∃ value after, (opened scheme config n message).runFrom node = (.ok value, after) ∧
    value.record? = some (.payload payload)

theorem Carries.decode_eq {message : Octets} {node : Node} {payload : Payload}
    (h : Carries scheme config message node 0 payload) :
    Message.decode scheme config message = .ok (.record (.payload payload)) := by
  obtain ⟨value, after, ran, found⟩ := h
  unfold opened at ran
  rw [Action.runFrom_bind, runFrom_decode] at ran
  cases read : Message.decode scheme config message with
  | error failure =>
      rw [read] at ran
      cases ran
  | ok decoded =>
      rw [read] at ran
      cases ran
      rw [eq_of_record?_ofDecoded found]

theorem length_octets_lt_of_decode {message : Octets} {payload : Payload}
    (decoded : Message.decode scheme config message = .ok (.record (.payload payload))) :
    payload.octets.length < message.length :=
  (Message.decode_eq_record_iff.1 decoded).2.1.length_octets_lt

/-- Each payload on the way in costs an octet at least. -/
theorem length_add_lt_of_carries {n : Nat} {message : Octets} {node : Node} {payload : Payload}
    (h : Carries scheme config message node n payload) :
    payload.octets.length + n < message.length := by
  induction n generalizing message node with
  | zero => exact length_octets_lt_of_decode h.decode_eq
  | succ n ih =>
      obtain ⟨value, after, ran, found⟩ := h
      obtain ⟨outer, decoded, rest⟩ := runFrom_opened_succ ran
      have inner := ih ⟨value, after, rest, found⟩
      have shorter := length_octets_lt_of_decode decoded
      omega

/-- Opening any message comes to something that is no payload, or fails. -/
theorem exists_not_carries (scheme : Scheme) (config : Config) (message : Octets) (node : Node) :
    ∃ n ≤ message.length, (∀ k < n, ∃ payload, Carries scheme config message node k payload) ∧
      ¬ ∃ payload, Carries scheme config message node n payload := by
  classical
  have bound : ¬ ∃ payload, Carries scheme config message node message.length payload := by
    rintro ⟨payload, carries⟩
    have := length_add_lt_of_carries carries
    omega
  have ends : ∃ n, ¬ ∃ payload, Carries scheme config message node n payload := ⟨_, bound⟩
  exact ⟨Nat.find ends, Nat.find_min' ends bound,
    fun k below => not_not.1 (Nat.find_min ends below), Nat.find_spec ends⟩

/-! ## Every payload -/

/-- A payload is unwrapped to what its message is decoded to if that has the tag that the payload
declares; otherwise it is malformed, and a message that is not decoded fails as it does by itself.
Whatever comes back from its own message comes out of any number of payloads around it as it was,
wherever the outermost message is not too large, and putting it in another payload's place makes the same
payload.  A message is longer than the one inside it, and so the opening of every message ends. -/
theorem unwrapping_faithful (scheme : Scheme) (config : Config) :
    (∀ (value : Datum) (payload : Payload) (node : Node),
      value.record? = some (.payload payload) →
      (∀ found, unwrapped scheme config value node = .ok found ↔
        ending scheme config payload.octets node = .ok found ∧
          found.messageTag? = some payload.inner) ∧
      (∀ found, ending scheme config payload.octets node = .ok found →
        found.messageTag? ≠ some payload.inner →
        ∃ refusal, unwrapped scheme config value node = .error (.refused refusal) ∧
          refusal.kind = .malformed ∧ refusal.variant = some "Payload") ∧
      ∀ fault, ending scheme config payload.octets node = .error fault →
        unwrapped scheme config value node = .error fault) ∧
    (∀ (value carrier : Datum) (n : Nat) (message : Octets) (node : Node),
      Datum.RoundTrips scheme value → Datum.carried n value = .ok carrier →
      carrier.encode = .ok message → (message.length : Int) ≤ config.maxMessageBytes →
      ∃ found, (opened scheme config n message).runFrom node = (.ok found, node) ∧
        value.same found = true) ∧
    (∀ (payload value : Datum) (p : Payload), payload.record? = some (.payload p) →
      payload.recarry value = value.carry) ∧
    (∀ (message : Octets) (node : Node),
      (∀ payload, ending scheme config message node = .ok (.record (.payload payload)) →
        payload.octets.length < message.length) ∧
      ∃ n ≤ message.length, (∀ k < n, ∃ payload, Carries scheme config message node k payload) ∧
        ¬ ∃ payload, Carries scheme config message node n payload) := by
  refine ⟨fun value payload node recorded => ⟨fun found => unwrapped_eq_ok_iff recorded,
      fun found => unwrapped_of_other_tag recorded, fun fault => unwrapped_of_error recorded⟩,
    fun value carrier n message node trips made encoded small => ?_,
    fun payload value p recorded => Datum.recarry_eq_carry recorded value,
    fun message node => ⟨fun payload ended => ?_, exists_not_carries scheme config message node⟩⟩
  · obtain ⟨record, recorded, verifies⟩ := trips.exists_record
    exact ⟨_, runFrom_opened_of_carried recorded verifies made encoded small node,
      Datum.same_of_record? recorded rfl⟩
  · obtain ⟨decoded, read, same⟩ := ending_eq_ok_iff.1 ended
    have record := eq_of_record?_ofDecoded (congrArg Datum.record? same.symm)
    rw [record] at read
    exact length_octets_lt_of_decode read

/-- The block of the examples, under its own tag. -/
def exampleCarrier : Payload :=
  ⟨Message.exampleBlock.tag.number, Message.exampleMessage, Tag.number_lt_bound _⟩

/-- The block again, under a tag that it does not have. -/
def exampleMisnomer : Payload := ⟨42, Message.exampleMessage, by decide⟩

/-- The block comes out of a payload and out of two, but not out of one that declares another tag. -/
theorem unwrapping_faithful_block :
    unwrapped .lenient {} (.record (.payload exampleCarrier)) {} =
      .ok (.record Message.exampleBlock) ∧
    (∃ refusal, unwrapped .lenient {} (.record (.payload exampleMisnomer)) {} =
      .error (.refused refusal) ∧ refusal.kind = .malformed ∧ refusal.variant = some "Payload") ∧
    ∃ carrier message found, Datum.carried 2 (.record Message.exampleBlock) = .ok carrier ∧
      carrier.encode = .ok message ∧
      (opened .lenient {} 2 message).runFrom {} = (.ok found, {}) ∧
      (Datum.record Message.exampleBlock).same found = true := by
  obtain ⟨unwraps, opens, -, -⟩ := unwrapping_faithful .lenient {}
  have encoded : (Datum.record Message.exampleBlock).encode = .ok Message.exampleMessage :=
    (Datum.encode_eq_ok_iff rfl).2 Message.encode?_exampleBlock
  have decoded : Message.decode .lenient {} Message.exampleMessage =
      .ok (.record Message.exampleBlock) :=
    Message.decode_encode? Message.encode?_exampleBlock (by decide) rfl
  have ended : ending .lenient {} Message.exampleMessage {} = .ok (.record Message.exampleBlock) :=
    ending_eq_ok_iff.2 ⟨_, decoded, rfl⟩
  have tag : (Datum.record Message.exampleBlock).messageTag? = some exampleCarrier.inner := rfl
  have other : (Datum.record Message.exampleBlock).messageTag? ≠ some exampleMisnomer.inner := by
    decide
  have trips : Datum.RoundTrips .lenient (.record Message.exampleBlock) :=
    ⟨{}, _, _, encoded, decoded, Datum.same_of_record? rfl rfl⟩
  obtain ⟨carrier, message, made, written, short⟩ :=
    Datum.exists_carried 2 rfl encoded (by decide)
  have small : (message.length : Int) ≤ ({} : Config).maxMessageBytes := by
    have limit : ({} : Config).maxMessageBytes = 8 * 1024 * 1024 := rfl
    have length : Message.exampleMessage.length = 10 := rfl
    rw [length, Message.carrierSize] at short
    omega
  obtain ⟨found, ran, same⟩ := opens _ carrier 2 message {} trips made written small
  obtain ⟨carrying, -, -⟩ := unwraps (.record (.payload exampleCarrier)) _ {} rfl
  obtain ⟨-, misnamed, -⟩ := unwraps (.record (.payload exampleMisnomer)) _ {} rfl
  exact ⟨(carrying _).2 ⟨ended, tag⟩, misnamed _ ended other,
    carrier, message, found, made, written, ran, same⟩

end Node

end Overlay
