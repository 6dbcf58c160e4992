/-
# Overlay.Proofs.Datum.Carrying -- towers of payloads

A value is carried in a payload, that payload in another, and so on (`carried`).  Only values
that are records come back out of what they are encoded as (`RoundTrips.exists_record`), so
what such a tower stands on is a record, and so is every payload in it
(`record?_of_carried`).  A tower can be made as long as its messages can be written, and each
payload adds little to the one before (`exists_carried`).
-/
import Overlay.Datum.Issuing
import Overlay.Proofs.Datum.Encoding
import Overlay.Proofs.Message.Carrying

namespace Overlay.Datum

set_option autoImplicit false

/-! ## Values that come back -/

/-- Under some configuration the value is decoded from what it is encoded as. -/
def RoundTrips (scheme : Scheme) (value : Datum) : Prop :=
  ∃ config message decoded, value.encode = .ok message ∧
    Message.decode scheme config message = .ok decoded ∧ value.same (.ofDecoded decoded) = true

/-- What is decoded is no draft, and of values that are neither a record nor a draft nothing is
encoded. -/
theorem same_ofDecoded_of_no_record {value : Datum} {message : Octets} (decoded : Decoded)
    (draft : value.record? = Option.none) (encoded : value.encode = .ok message) :
    value.same (.ofDecoded decoded) = false := by
  cases value with
  | draftTable name owner rows =>
      cases decoded <;>
        simp [ofDecoded, Datum.same, sameRecord, sameNumber, record?, number?]
  | draftCoin name owners previous signatures =>
      cases decoded <;>
        simp [ofDecoded, Datum.same, sameRecord, sameNumber, record?, number?]
  | record r => cases draft
  | tagPayload inner content => cases draft
  | _ => cases encoded

theorem RoundTrips.exists_record {scheme : Scheme} {value : Datum} (h : RoundTrips scheme value) :
    ∃ record, value.record? = some record ∧ record.verifies scheme = true := by
  obtain ⟨config, message, decoded, encoded, read, same⟩ := h
  cases found : value.record? with
  | none =>
      rw [same_ofDecoded_of_no_record decoded found encoded] at same
      cases same
  | some record =>
      refine ⟨record, rfl, ?_⟩
      by_contra fails
      have small : (message.length : Int) ≤ config.maxMessageBytes := by
        by_contra large
        rw [Message.decode_of_too_large (by omega)] at read
        cases read
      rw [Message.decode_encode?_of_not_verifies ((encode_eq_ok_iff found).1 encoded) small
        (by simpa using fails)] at read
      cases read

/-! ## Carrying -/

section

variable {value : Datum} {record : Record}

theorem tag_of_record? (recorded : value.record? = some record) : value.tag = .ok record.tag := by
  cases value with
  | record r =>
      cases recorded
      rfl
  | tagPayload inner content =>
      cases recorded
      rfl
  | _ => cases recorded

/-- A record is carried in the payload that is made for it. -/
theorem carry_eq_ok_iff (recorded : value.record? = some record) {carrier : Datum} :
    value.carry = .ok carrier ↔
      ∃ payload, Payload.carry? record = some payload ∧ carrier = .record (.payload payload) := by
  simp only [carry, tag_of_record? recorded, bind_eq_ok_iff, encode_eq_ok_iff recorded,
    Payload.carry?, Option.map_eq_some_iff]
  constructor
  · rintro ⟨_, ⟨⟩, message, encoded, ⟨⟩⟩
    exact ⟨_, ⟨message, encoded, rfl⟩, rfl⟩
  · rintro ⟨_, ⟨message, encoded, rfl⟩, rfl⟩
    exact ⟨record.tag, rfl, message, encoded, rfl⟩

/-- What a payload carried before has no part in what carries another value. -/
theorem recarry_eq_carry {payload : Datum} {p : Payload}
    (recorded : payload.record? = some (.payload p)) (value : Datum) :
    payload.recarry value = value.carry := by
  have read : payload.toPayload = .ok p := by rw [toPayload, recorded]
  rw [recarry, read]
  rfl

/-! ## Towers -/

/-- The value in so many payloads, one inside the other. -/
def carried : Nat → Datum → Except Fault Datum
  | 0, value => .ok value
  | n + 1, value => carried n value >>= carry

/-- One payload more is made for the record that the tower is. -/
theorem carried_succ_eq_ok {n : Nat} {carrier : Datum} (recorded : value.record? = some record)
    (made : carried (n + 1) value = .ok carrier) :
    ∃ inner r payload, carried n value = .ok inner ∧ inner.record? = some r ∧
      Payload.carry? r = some payload ∧ carrier = .record (.payload payload) := by
  induction n generalizing carrier with
  | zero =>
      obtain ⟨payload, carries, rfl⟩ := (carry_eq_ok_iff recorded).1 made
      exact ⟨value, record, payload, rfl, recorded, carries, rfl⟩
  | succ n ih =>
      obtain ⟨inner, below, made⟩ := bind_eq_ok_iff.1 made
      obtain ⟨-, -, p, -, -, -, rfl⟩ := ih below
      obtain ⟨payload, carries, rfl⟩ := (carry_eq_ok_iff rfl).1 made
      exact ⟨_, _, payload, below, rfl, carries, rfl⟩

/-- The record that a tower is verifies if the one that it stands on does. -/
theorem record?_of_carried {scheme : Scheme} {n : Nat} {carrier : Datum}
    (recorded : value.record? = some record) (verifies : record.verifies scheme = true)
    (made : carried n value = .ok carrier) :
    ∃ r, carrier.record? = some r ∧ r.verifies scheme = true := by
  cases n with
  | zero =>
      cases made
      exact ⟨record, recorded, verifies⟩
  | succ n =>
      obtain ⟨-, -, payload, -, -, -, rfl⟩ := carried_succ_eq_ok recorded made
      exact ⟨.payload payload, rfl, rfl⟩

/-- A tower of any height can be made where its messages are not too long. -/
theorem exists_carried (n : Nat) {message : Octets} (recorded : value.record? = some record)
    (encoded : value.encode = .ok message)
    (small : message.length + n * Message.carrierSize < 2 ^ 32) :
    ∃ carrier outer, carried n value = .ok carrier ∧ carrier.encode = .ok outer ∧
      outer.length ≤ message.length + n * Message.carrierSize := by
  induction n with
  | zero => exact ⟨value, message, rfl, encoded, by omega⟩
  | succ n ih =>
      rw [Nat.add_mul] at small ⊢
      obtain ⟨inner, middle, below, written, short⟩ := ih (by omega)
      obtain ⟨r, found, -⟩ := record?_of_carried recorded (Record.verifies_lenient record) below
      obtain ⟨payload, carries, rfl⟩ :=
        Payload.exists_carry? ((encode_eq_ok_iff found).1 written)
      obtain ⟨outer, outside⟩ := Message.exists_encode?_payload payload (by omega)
      have longer := Message.length_encode?_payload_le outside
      have made : inner.carry = .ok (.record (.payload payload)) :=
        (carry_eq_ok_iff found).2 ⟨payload, carries, rfl⟩
      refine ⟨.record (.payload payload), outer, ?_, (encode_eq_ok_iff rfl).2 outside, by omega⟩
      exact bind_eq_ok_iff.2 ⟨inner, below, made⟩

end

end Overlay.Datum
