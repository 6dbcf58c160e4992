/-
# Overlay.Proofs.Datum.Issuing -- issued records can be published

A public identity is signed before there is a record, over octets put together from the identity,
the revocation key and the family's tag.  Whoever decodes it verifies over octets put together
from the record alone.  `Identity.exists_issue?` says that these are the same octets.  So with
a scheme that verifies what it signs, and a revocation key whose public key is the one of its
secret key, all that is issued verifies.

* `publishable_of_verifies`: a public record that verifies has a message, and the message is
  decoded to it.
* `issue_publishable`: an identity is refused exactly if its family is another one; otherwise both
  records that are issued can be published, and they are the same when identity and key have
  been decoded from messages themselves.

Of the scheme only `Scheme.Sound` is assumed.
-/
import Overlay.Curve.Ed25519
import Overlay.Datum.Issuing
import Overlay.Identity.Sample
import Overlay.Proofs.Datum.Encoding

namespace Overlay

set_option autoImplicit false

variable {scheme : Scheme} {key : RevocationKey} {identity : Identity}

/-! ## A sound scheme -/

open Classical in
/-- The scheme, verifying also whatever its own secret keys have signed. -/
noncomputable def Scheme.completed (scheme : Scheme) : Scheme where
  publicKey := scheme.publicKey
  sign := scheme.sign
  verify key message signature :=
    scheme.verify key message signature ||
      decide (∃ secret, scheme.publicKey secret = key ∧ scheme.sign secret message = signature)

theorem Scheme.sound_completed (scheme : Scheme) : scheme.completed.Sound := by
  intro secret message
  have signed : ∃ other, scheme.publicKey other = scheme.publicKey secret ∧
      scheme.sign other message = scheme.sign secret message := ⟨secret, rfl, rfl⟩
  simp [completed, signed]

/-! ## What is issued -/

/-- What a revocation key signs is verified under the public key that it carries. -/
theorem RevocationKey.verify_sign (sound : scheme.Sound)
    (derived : key.publicKey = scheme.publicKey key.secretKey) (message : Octets) :
    scheme.verify key.publicKey message (key.sign scheme message) = true := by
  rw [derived, RevocationKey.sign]
  exact sound key.secretKey message

namespace Identity

/-- An identity is not published under a revocation key of another family. -/
theorem issue?_eq_none_iff :
    identity.issue? scheme key = none ↔ key.family ≠ identity.family := by
  simp [issue?]

/-- What is published under a revocation key of the same family is signed over what is verified. -/
theorem exists_issue? (scheme : Scheme) (same : key.family = identity.family) :
    ∃ issued, identity.issue? scheme key = some issued ∧
      issued.tag = .publicIdentity key.family ∧ issued.publicKeys = identity.publicKeys ∧
      issued.revocationKey = key.publicKey ∧
      issued.signature = key.sign scheme issued.signedOctets :=
  ⟨_, if_pos same, rfl, rfl, rfl, rfl⟩

end Identity

namespace Datum

/-- The value verifies, and it has a message that is decoded to it wherever the limit admits it. -/
structure Publishable (scheme : Scheme) (value : Datum) : Prop where
  verifies : value.verifies scheme = .ok true
  decodes : ∃ message, value.encode = .ok message ∧
    ∀ config : Config, (message.length : Int) ≤ config.maxMessageBytes →
      ∃ decoded, Message.decode scheme config message = .ok decoded ∧ ofDecoded decoded = value

/-- A record of fixed length that verifies crosses the wire unchanged. -/
theorem exists_message (scheme : Scheme) (record : Record) (fixed : record.isFixed = true)
    (verifies : record.verifies scheme = true) :
    ∃ message, (Datum.record record).encode = .ok message ∧
      ∀ config : Config, (message.length : Int) ≤ config.maxMessageBytes →
        Message.decode scheme config message = .ok (.record record) := by
  obtain ⟨message, written⟩ := Message.exists_encode?_of_isFixed fixed
  exact ⟨message, (encode_eq_ok_iff rfl).2 written,
    fun config small => Message.decode_encode? written small verifies⟩

theorem publishable_of_verifies {record : Record} (fixed : record.isFixed = true)
    (verifies : (Datum.record record).verifies scheme = .ok true) :
    Publishable scheme (.record record) := by
  have verified : record.verifies scheme = true := by
    cases record with
    | publicIdentity issued => exact Except.ok.inj verifies
    | publicRevocation issued => exact Except.ok.inj verifies
    | _ => rfl
  obtain ⟨message, encoded, decodes⟩ := exists_message scheme record fixed verified
  exact ⟨verifies, message, encoded, fun config small => ⟨_, decodes config small, rfl⟩⟩

/-! ## The records that are issued can be published -/

theorem issueIdentity_of_family_ne (differ : key.family ≠ identity.family) :
    issueIdentity scheme (.record (.identity identity)) (.record (.revocationKey key)) =
      .error .familiesDiffer := by
  simp [issueIdentity, Identity.issue?_eq_none_iff.2 differ, orFault]

theorem issueIdentity_of_family_eq (sound : scheme.Sound)
    (derived : key.publicKey = scheme.publicKey key.secretKey)
    (same : key.family = identity.family) :
    ∃ issued : PublicIdentity,
      issueIdentity scheme (.record (.identity identity)) (.record (.revocationKey key)) =
          .ok (.record (.publicIdentity issued)) ∧
        issued.tag = .publicIdentity key.family ∧ issued.publicKeys = identity.publicKeys ∧
        issued.revocationKey = key.publicKey ∧
        Publishable scheme (.record (.publicIdentity issued)) := by
  obtain ⟨issued, made, tag, keys, revocation, signature⟩ :=
    Identity.exists_issue? scheme same
  have verifies : issued.verifies scheme = true := by
    rw [PublicIdentity.verifies, revocation, signature]
    exact RevocationKey.verify_sign sound derived issued.signedOctets
  refine ⟨issued, ?_, tag, keys, revocation, publishable_of_verifies rfl (congrArg _ verifies)⟩
  simp [issueIdentity, made, orFault]

theorem publishable_issueRevocation (sound : scheme.Sound)
    (derived : key.publicKey = scheme.publicKey key.secretKey) :
    Publishable scheme (.record (.publicRevocation (key.issue scheme))) := by
  have verifies : (key.issue scheme).verifies scheme = true :=
    RevocationKey.verify_sign sound derived key.publicKey.octets
  exact publishable_of_verifies rfl (congrArg _ verifies)

/-- An identity is refused exactly if it is of another family than the revocation key.  If not, its
public identity can be published, and so can always the public revocation of the key.  Key and
identity themselves have messages, and what they are decoded to issues the same. -/
theorem issue_publishable (scheme : Scheme) (sound : scheme.Sound) (key : RevocationKey)
    (derived : key.publicKey = scheme.publicKey key.secretKey) (identity : Identity) :
    (issueIdentity scheme (.record (.identity identity)) (.record (.revocationKey key)) =
        .error .familiesDiffer ↔ (Record.identity identity).tag ≠ .identity key.family) ∧
    ((Record.identity identity).tag = .identity key.family →
      ∃ issued : PublicIdentity,
        issueIdentity scheme (.record (.identity identity)) (.record (.revocationKey key)) =
            .ok (.record (.publicIdentity issued)) ∧
          issued.tag = .publicIdentity key.family ∧ issued.publicKeys = identity.publicKeys ∧
          issued.revocationKey = key.publicKey ∧
          Publishable scheme (.record (.publicIdentity issued))) ∧
    (∃ issued : PublicRevocation,
      issueRevocation scheme (.record (.revocationKey key)) =
          .ok (.record (.publicRevocation issued)) ∧
        issued.family = key.family ∧ issued.publicKey = key.publicKey ∧
        Publishable scheme (.record (.publicRevocation issued))) ∧
    ∃ keyMessage identityMessage : Octets,
      (Datum.record (.revocationKey key)).encode = .ok keyMessage ∧
      (Datum.record (.identity identity)).encode = .ok identityMessage ∧
      ∀ config config' : Config, (keyMessage.length : Int) ≤ config.maxMessageBytes →
        (identityMessage.length : Int) ≤ config'.maxMessageBytes →
        ∃ decodedKey decodedIdentity,
          Message.decode scheme config keyMessage = .ok decodedKey ∧
          Message.decode scheme config' identityMessage = .ok decodedIdentity ∧
          issueIdentity scheme (ofDecoded decodedIdentity) (ofDecoded decodedKey) =
            issueIdentity scheme (.record (.identity identity)) (.record (.revocationKey key)) ∧
          issueRevocation scheme (ofDecoded decodedKey) =
            issueRevocation scheme (.record (.revocationKey key)) := by
  have tags : (Record.identity identity).tag = .identity key.family ↔
      key.family = identity.family := by
    simp [Record.tag, eq_comm]
  rw [ne_eq, tags]
  refine ⟨⟨fun refused same => ?_, issueIdentity_of_family_ne⟩,
    issueIdentity_of_family_eq sound derived,
    ⟨key.issue scheme, rfl, rfl, rfl, publishable_issueRevocation sound derived⟩, ?_⟩
  · obtain ⟨issued, made, -⟩ := issueIdentity_of_family_eq sound derived same
    rw [made] at refused
    cases refused
  · obtain ⟨keyMessage, keyEncoded, keyDecodes⟩ :=
      exists_message scheme (.revocationKey key) rfl rfl
    obtain ⟨identityMessage, identityEncoded, identityDecodes⟩ :=
      exists_message scheme (.identity identity) rfl rfl
    refine ⟨keyMessage, identityMessage, keyEncoded, identityEncoded, ?_⟩
    intro config config' small small'
    exact ⟨_, _, keyDecodes config small, identityDecodes config' small', rfl, rfl⟩

/-- The public key of a sample key is the one of its secret key. -/
theorem derived_sample (scheme : Scheme) (family : Family) (label : String) :
    (Identity.Sample.revocationKey scheme family label).publicKey =
      scheme.publicKey (Identity.Sample.revocationKey scheme family label).secretKey := rfl

/-- A revocation key made with Ed25519. -/
noncomputable def exampleKey : RevocationKey :=
  Identity.Sample.revocationKey Curve.ed25519.completed .mpid "publisher"

/-- An identity of the family of that key. -/
noncomputable def exampleIdentity : Identity :=
  Identity.Sample.identity Curve.ed25519.completed exampleKey "reader"

/-- The identity is published under the key. -/
theorem issue_publishable_exampleKey :
    ∃ issued : PublicIdentity,
      issueIdentity Curve.ed25519.completed (.record (.identity exampleIdentity))
          (.record (.revocationKey exampleKey)) = .ok (.record (.publicIdentity issued)) ∧
        Publishable Curve.ed25519.completed (.record (.publicIdentity issued)) := by
  have sound := Scheme.sound_completed Curve.ed25519
  have derived := derived_sample Curve.ed25519.completed .mpid "publisher"
  obtain ⟨-, published, -⟩ := issue_publishable _ sound exampleKey derived exampleIdentity
  obtain ⟨issued, made, -, -, -, publishable⟩ := published rfl
  exact ⟨issued, made, publishable⟩

end Datum

end Overlay
