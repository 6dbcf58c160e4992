/-
# Overlay.Proofs.Message.Carrying -- messages inside messages

A payload carries the octets of another message, so its own message is longer, in whatever
form it is written (`Written.length_octets_lt`).  In its shortest form it is longer by little
(`length_encode?_payload_le`), and every payload that is short enough has one
(`exists_encode?_payload`).

What is unwrapped is what the carried octets are decoded to, if that has the tag that the
payload declares (`Payload.unwrap_eq_ok_iff`); a payload that was made to carry a record is
unwrapped to that record (`Payload.unwrap_carry?`).
-/
import Overlay.Proofs.Message.RoundTrip

namespace Overlay

set_option autoImplicit false

open MessagePack (Item maxDepth)

/-! ## The length of what carries a message -/

namespace Message

variable {acceptText : Bool} {payload : Payload} {message : Octets}

/-- The message of a payload is longer than the one that it carries. -/
theorem Written.length_octets_lt (written : Written acceptText (.payload payload) message) :
    payload.octets.length < message.length := by
  obtain ⟨fields, ⟨lead, -, body⟩, described⟩ := written
  cases described with
  | @payload _ inner spelled =>
      -- `1022 + 2` is the depth that a message may have
      have body : Item.Form (1022 + 2) (.array [inner, .bin payload.octets]) _ := body
      cases body with
      | array opens head held =>
          cases opens
          cases held with
          | cons _ rest =>
              cases rest with
              | cons second _ =>
                  cases second with
                  | bin head =>
                      have := lead.length_pos
                      simp only [List.length_append]
                      omega

/-- What carries a message adds so many octets at most: a tag of five, the head of an array, the
tag that is declared, in nine, and the head of the octets, in five. -/
def carrierSize : Nat := 20

theorem length_write_nat_le {width n : Nat} (known : width ∈ [1, 2, 4, 8])
    (bound : n < 256 ^ width) : (Item.int n).write.length ≤ width + 1 := by
  rw [Item.write]
  exact MessagePack.Head.length_writeNat_le known bound

theorem length_encode?_payload_le (encoded : encode? (.payload payload) = some message) :
    message.length ≤ payload.octets.length + carrierSize := by
  obtain ⟨front, back, lead, body, rfl⟩ := frame?_eq_some_iff.1 encoded
  obtain ⟨-, rfl⟩ := write?_eq_some_iff.1 lead
  obtain ⟨fits, rfl⟩ := write?_eq_some_iff.1 body
  obtain ⟨-, each⟩ := MessagePack.Item.fits_array fits
  obtain ⟨fewer, small⟩ := each (.bin payload.octets) (by simp [Record.fields])
  have sized : payload.octets.length < 256 ^ 4 := by simpa [Item.fits, MessagePack.Head.fits] using small
  have tag : (Item.int Tag.payload.number).write.length ≤ 4 + 1 :=
    length_write_nat_le (by decide) (by decide)
  have inner : (Item.int payload.inner).write.length ≤ 8 + 1 :=
    length_write_nat_le (by decide) payload.inner_lt
  have octets : (MessagePack.Head.bin payload.octets.length).write.length ≤ 4 + 1 :=
    MessagePack.Head.length_writeSize_le (by decide) sized
  have array : (MessagePack.Head.array 2).write.length = 1 := rfl
  have held : (Item.array (Record.payload payload).fields).write =
      (MessagePack.Head.array 2).write ++ ((Item.int payload.inner).write ++
        ((MessagePack.Head.bin payload.octets.length).write ++ payload.octets)) := by
    simp [Record.fields, Item.write]
  simp only [held, List.length_append, Record.tag, carrierSize]
  omega

theorem exists_encode?_payload (payload : Payload) (small : payload.octets.length < 2 ^ 32) :
    ∃ message, encode? (.payload payload) = some message := by
  have inner : (Item.int payload.inner).fits 1023 = true := by
    rw [Item.fits]
    exact MessagePack.Head.fits_nat payload.inner_lt
  have octets : (Item.bin payload.octets).fits 1023 = true := by
    rw [Item.fits]
    exact decide_eq_true small
  -- `1023 + 1` is the depth that a message may have
  have fits : (Item.array (Record.payload payload).fields).fits (1023 + 1) = true :=
    MessagePack.Item.fits_array_of_forall rfl
      (List.forall_mem_cons.2 ⟨inner, List.forall_mem_singleton.2 octets⟩)
  exact exists_encode? fits

end Message

/-! ## Unwrapping -/

namespace Payload

variable {scheme : Scheme} {config : Config}

theorem unwrap_eq_ok_iff {payload : Payload} {decoded : Decoded} :
    payload.unwrap scheme config = .ok decoded ↔
      Message.decode scheme config payload.octets = .ok decoded ∧
        decoded.number = payload.inner := by
  simp only [unwrap, bind_eq_ok_iff, checked]
  constructor
  · rintro ⟨found, read, h⟩
    split at h
    · next same =>
      cases h
      exact ⟨read, same⟩
    · cases h
  · rintro ⟨read, same⟩
    exact ⟨decoded, read, if_pos same⟩

/-- What has another tag than the payload declares is refused. -/
theorem unwrap_of_number_ne {payload : Payload} {decoded : Decoded}
    (read : Message.decode scheme config payload.octets = .ok decoded)
    (other : decoded.number ≠ payload.inner) :
    payload.unwrap scheme config =
      .error (.refused (.carriedTag decoded.number payload.inner)) := by
  simp only [unwrap, read, bind, Except.bind, checked, if_neg other]
  rfl

theorem unwrap_of_error {payload : Payload} {failure : Failure}
    (failed : Message.decode scheme config payload.octets = .error failure) :
    payload.unwrap scheme config = .error failure := by
  rw [unwrap, failed]
  rfl

/-- A payload is made to carry every record that has a message. -/
theorem exists_carry? {record : Record} {message : Octets}
    (encoded : Message.encode? record = some message) :
    ∃ payload, carry? record = some payload ∧ message = payload.octets := by
  rw [carry?, encoded]
  exact ⟨_, rfl, rfl⟩

/-- A payload made to carry a record is unwrapped to the record. -/
theorem unwrap_carry? {record : Record} {payload : Payload} (made : carry? record = some payload)
    (small : (payload.octets.length : Int) ≤ config.maxMessageBytes)
    (verifies : record.verifies scheme = true) :
    payload.unwrap scheme config = .ok (.record record) := by
  obtain ⟨message, encoded, rfl⟩ := Option.map_eq_some_iff.1 made
  exact unwrap_eq_ok_iff.2 ⟨Message.decode_encode? encoded small verifies, rfl⟩

end Payload

end Overlay
