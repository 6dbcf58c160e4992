/-
# Overlay.Proofs.Node.Secrecy -- secret keys are seen nowhere else

Whoever frames fields under a tag learns nothing of the secret ones from anything but the
secret keys themselves.  Of two lists of fields that differ in the secret ones alone, well
shaped or not, both are framed or neither is, in as many octets (`length_frame_alike`).
And two calls to decode what they are framed as, whatever follows it and under whatever
terms, leave the same log and end in the same fault or in records that are the same and
shown the same but for secret keys (`secret_keys_unseen`).
-/
import Overlay.Proofs.Datum.Encoding
import Overlay.Proofs.Message.Secrecy
import Overlay.Proofs.Node.Logging

namespace Overlay

set_option autoImplicit false

open MessagePack (Item)

namespace Datum

/-- Both values are octets, and as many, however they are held. -/
def Alike (a b : Datum) : Prop :=
  ∃ holding octets holding' octets', a = .octets holding octets ∧ b = .octets holding' octets' ∧
    octets.length = octets'.length

theorem Alike.toItem {a b : Datum} (h : a.Alike b) : a.toItem.Alike b.toItem := by
  obtain ⟨holding, octets, holding', octets', rfl, rfl, same⟩ := h
  exact ⟨octets, octets', by rw [Datum.toItem], by rw [Datum.toItem], same⟩

theorem fields?_list (fields : List Datum) :
    (Datum.list fields).fields? =
      if (Datum.list fields).isPlain MessagePack.maxDepth = true then some (fields.map toItem)
      else Option.none := by
  simp only [fields?, Datum.items]

variable {positions : List Nat} {fields fields' : List Datum}
  (alike : AgreeBut positions Alike fields fields')

include alike

theorem isPlain_list_alike (depth : Nat) :
    (Datum.list fields).isPlain depth = (Datum.list fields').isPlain depth := by
  have all : ∀ depth, fields.all (isPlain depth) = fields'.all (isPlain depth) := by
    intro depth
    refine alike.all_eq ?_
    rintro _ _ ⟨holding, octets, holding', octets', rfl, rfl, -⟩
    rw [isPlain, isPlain]
  have length := alike.length_eq
  cases fields with
  | nil =>
      obtain rfl := List.eq_nil_of_length_eq_zero length.symm
      rfl
  | cons field others =>
      cases fields' with
      | nil => cases length
      | cons field' others' =>
          cases depth with
          | zero => rfl
          | succ depth => simp only [isPlain, all depth]

/-- Whether fields are framed, and in how many octets, does not depend on the secret ones. -/
theorem length_frame_alike (tag : Datum) :
    (frame tag (.list fields)).map List.length = (frame tag (.list fields')).map List.length := by
  have plainness := isPlain_list_alike alike MessagePack.maxDepth
  unfold frame
  cases tag.int? with
  | none => rfl
  | some value =>
      dsimp only
      split
      · by_cases plain : (Datum.list fields).isPlain MessagePack.maxDepth = true
        · have same := Message.length_frame?_alike (alike.map fun _ _ => Alike.toItem) value.toNat
          rw [fields?_list, fields?_list, if_pos plain, if_pos (plainness ▸ plain), Option.bind_some,
            Option.bind_some]
          revert same
          cases Message.frame? value.toNat (fields.map toItem) <;>
            cases Message.frame? value.toNat (fields'.map toItem) <;> simp [Except.map]
        · rw [fields?_list, fields?_list, if_neg plain, if_neg (plainness ▸ plain)]
      · rfl

end Datum

namespace Node

open Datum (ofOctets)

/-- Fields that differ only in secret keys of the same length are framed alike, and what they are framed
as, with anything after it, is decoded with the same lines logged, to the same fault or to records that
are the same but for secret keys and are shown by the same text. -/
theorem secret_keys_unseen (scheme : Scheme) (config : Config) (tag : Tag) {number : Datum}
    {fields fields' : List Datum} (named : number.int? = some (tag.number : Int))
    (alike : AgreeBut tag.secretFields Datum.Alike fields fields') :
    (Datum.frame number (.list fields)).map List.length =
      (Datum.frame number (.list fields')).map List.length ∧
    ∀ message message', Datum.frame number (.list fields) = .ok message →
      Datum.frame number (.list fields') = .ok message' → ∀ (suffix : Octets) (node : Node),
        (called scheme config (ofOctets (message ++ suffix)) node).2 =
          (called scheme config (ofOctets (message' ++ suffix)) node).2 ∧
        ((∃ fault, (called scheme config (ofOctets (message ++ suffix)) node).1 = .error fault ∧
            (called scheme config (ofOctets (message' ++ suffix)) node).1 = .error fault) ∨
          ∃ record record',
            (called scheme config (ofOctets (message ++ suffix)) node).1 = .ok (.record record) ∧
            (called scheme config (ofOctets (message' ++ suffix)) node).1 = .ok (.record record') ∧
            record.concealed = record'.concealed ∧
            (Datum.record record).quoted = (Datum.record record').quoted) := by
  refine ⟨Datum.length_frame_alike alike number, ?_⟩
  intro message message' framed framed' suffix node
  obtain ⟨-, -, framed⟩ := (Datum.frame_eq_ok_iff named).1 framed
  obtain ⟨-, -, framed'⟩ := (Datum.frame_eq_ok_iff named).1 framed'
  have items := alike.map fun _ _ => Datum.Alike.toItem
  rw [called_eq, called_eq, eventsFor, eventsFor]
  have matching : Matching Message.ConcealingDecoded
      (verdict scheme config (ofOctets (message ++ suffix)))
      (verdict scheme config (ofOctets (message' ++ suffix))) :=
    Message.decode_concealed scheme config items framed framed' suffix
  -- a refusal and a record are logged and reported by the verdict alone
  generalize verdict scheme config (ofOctets (message ++ suffix)) = result at matching ⊢
  generalize verdict scheme config (ofOctets (message' ++ suffix)) = result' at matching ⊢
  cases matching with
  | failed failure =>
      refine ⟨?_, .inl ⟨failure.fault, rfl, rfl⟩⟩
      cases failure <;> rfl
  | given pair =>
      obtain ⟨record, record', rfl, rfl, same⟩ := pair
      refine ⟨rfl, .inr ⟨record, record', rfl, rfl, same, ?_⟩⟩
      rw [Datum.quoted, Datum.quoted, ← record.text_concealed, same, record'.text_concealed]

/-! ### Two keys of one family -/

/-- A revocation key whose secret half is the octet throughout. -/
def exampleSecret (octet : UInt8) : RevocationKey :=
  ⟨.maid, .zero 32, ⟨List.replicate 32 octet, by simp⟩⟩

/-- The fields of the key as values. -/
def exampleSecretFields (octet : UInt8) : List Datum :=
  [.list [.int 5483200, .int 5483201, .int 5483202], ofOctets (List.replicate 32 0),
    ofOctets (List.replicate 32 octet)]

theorem map_toItem_exampleSecretFields (octet : UInt8) :
    (exampleSecretFields octet).map Datum.toItem =
      (Record.revocationKey (exampleSecret octet)).fields := by
  simp only [exampleSecretFields, List.map_cons, List.map_nil, Datum.toItem, ofOctets]
  rfl

theorem isPlain_exampleSecretFields (octet : UInt8) (depth : Nat) :
    (Datum.list (exampleSecretFields octet)).isPlain (depth + 2) = true := by
  have octets : ∀ octets depth, (ofOctets octets).isPlain depth = true := by
    intro octets depth
    rw [ofOctets, Datum.isPlain]
  have int : ∀ (value : Int) depth, (Datum.int value).isPlain depth = true := by
    intro value depth
    rw [Datum.isPlain]
  simp [exampleSecretFields, Datum.isPlain, octets, int]

/-- The fields are framed as the message of the key. -/
theorem frame_exampleSecretFields (octet : UInt8) :
    ∃ message, Datum.frame (.int 5483200) (.list (exampleSecretFields octet)) = .ok message ∧
      Message.encode? (.revocationKey (exampleSecret octet)) = some message := by
  have fixed : (Record.revocationKey (exampleSecret octet)).isFixed = true := rfl
  obtain ⟨message, encoded⟩ := Message.exists_encode?_of_isFixed fixed
  refine ⟨message, ?_, encoded⟩
  have named : (Datum.int 5483200).int? = some (((5483200 : Nat) : Int)) := rfl
  -- `1022 + 2` is the depth that a message may have
  refine (Datum.frame_eq_ok_iff named).2
    ⟨by decide, isPlain_exampleSecretFields octet 1022, ?_⟩
  rw [map_toItem_exampleSecretFields]
  exact encoded

theorem alike_exampleSecretFields (octet octet' : UInt8) :
    AgreeBut (Tag.revocationKey .maid).secretFields Datum.Alike (exampleSecretFields octet)
      (exampleSecretFields octet') := by
  refine ⟨rfl, ?_, ?_⟩
  · intro i outside
    match i with
    | 0 | 1 => rfl
    | 2 => exact absurd (List.mem_singleton.2 rfl) outside
    | _ + 3 => rfl
  · intro i member x y hx hy
    obtain rfl : i = 2 := List.mem_singleton.1 member
    cases hx
    cases hy
    exact ⟨.fixed, _, .fixed, _, rfl, rfl, by simp⟩

/-- Two keys that differ in their secret halves are decoded from messages of one length, with nothing
logged, and shown alike. -/
theorem secret_keys_unseen_keys :
    ∃ message message', Datum.frame (.int 5483200) (.list (exampleSecretFields 1)) = .ok message ∧
      Datum.frame (.int 5483200) (.list (exampleSecretFields 2)) = .ok message' ∧
      ∃ record record',
        (called .lenient { maxMessageBytes := message.length } (ofOctets (message ++ [])) {}).1 =
          .ok (.record record) ∧
        (called .lenient { maxMessageBytes := message.length } (ofOctets (message' ++ [])) {}).1 =
          .ok (.record record') ∧
        (Datum.record record).quoted = (Datum.record record').quoted := by
  obtain ⟨message, framed, encoded⟩ := frame_exampleSecretFields 1
  obtain ⟨message', framed', -⟩ := frame_exampleSecretFields 2
  let config : Config := { maxMessageBytes := message.length }
  have named : (Datum.int 5483200).int? = some ((Tag.revocationKey .maid).number : Int) := rfl
  obtain ⟨-, alike⟩ := secret_keys_unseen .lenient config (.revocationKey .maid) named
    (alike_exampleSecretFields 1 2)
  obtain ⟨-, ⟨fault, failed, -⟩ | ⟨record, record', read, read', -, shown⟩⟩ :=
    alike message message' framed framed' [] {}
  · have decoded : Message.decode .lenient config message =
        .ok (.record (.revocationKey (exampleSecret 1))) :=
      Message.decode_encode? encoded (Int.le_refl _) (Record.verifies_lenient _)
    have found : verdict .lenient config (ofOctets (message ++ [])) =
        .ok (.record (.revocationKey (exampleSecret 1))) := by
      rw [List.append_nil]
      exact decoded
    rw [called_eq, found] at failed
    cases failed
  · exact ⟨message, message', framed, framed', record, record', read, read', shown⟩

end Node

end Overlay
