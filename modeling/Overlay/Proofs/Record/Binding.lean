/-
# Overlay.Proofs.Record.Binding -- what the signature of a published record binds

What is signed in a public identity has no marks between its parts, but all parts have fixed
sizes except the last, and that is the tag in decimal (`decimalOctets_injective`).  So the
signed octets settle the keys and the tag (`PublicIdentity.signedOctets_injective`), and
together with the signature, as they are hashed for the address, they settle the record.

A public revocation is signed over a key alone, which is too short to be the signed octets
of a public identity.  A signature that is found in two public identities is therefore one
over two messages (`signature_binds`).  Nothing is assumed of the scheme.
-/
import Overlay.Proofs.Message.RoundTrip
import Overlay.Proofs.Text.Numeral

namespace Overlay

set_option autoImplicit false

/-! ## Decimal octets -/

/-- The octets of a number in decimal are its digits again. -/
theorem map_ofNat_decimalOctets (n : Nat) :
    (decimalOctets n).map (fun octet => Char.ofNat octet.toNat) = Nat.toDigits 10 n := by
  have plain : ∀ c ∈ Nat.toDigits 10 n, c.toNat < 0x80 := fun c member =>
    Text.toNat_lt_of_isDigit (Nat.isDigit_of_mem_toDigits (by decide) (by decide) member)
  exact Text.map_ofNat_ascii plain

theorem decimalOctets_injective : Function.Injective decimalOctets := by
  intro a b same
  have digits : Nat.toDigits 10 a = Nat.toDigits 10 b := by
    rw [← map_ofNat_decimalOctets, same, map_ofNat_decimalOctets]
  calc a
    _ = Nat.ofDigitChars 10 (Nat.toDigits 10 a) 0 := Nat.ofDigitChars_ten_toDigits.symm
    _ = Nat.ofDigitChars 10 (Nat.toDigits 10 b) 0 := by rw [digits]
    _ = b := Nat.ofDigitChars_ten_toDigits

/-! ## Public identities -/

namespace PublicIdentity

variable {keys keys' : KeyPair} {revocationKey revocationKey' : Key} {tag tag' : Nat}

/-- What is signed settles the keys and the tag. -/
theorem signedOctetsOf_injective
    (same : signedOctetsOf keys revocationKey tag = signedOctetsOf keys' revocationKey' tag') :
    keys = keys' ∧ revocationKey = revocationKey' ∧ tag = tag' := by
  simp only [signedOctetsOf, List.append_assoc] at same
  obtain ⟨signs, afterSign⟩ := Fixed.eq_of_append_eq same
  obtain ⟨boxes, afterBox⟩ := Fixed.eq_of_append_eq afterSign
  obtain ⟨revocations, digits⟩ := Fixed.eq_of_append_eq afterBox
  exact ⟨congrArg₂ KeyPair.mk signs boxes, revocations, decimalOctets_injective digits⟩

variable {p q : PublicIdentity}

theorem signedOctets_injective (same : p.signedOctets = q.signedOctets) :
    p.tag = q.tag ∧ p.publicKeys = q.publicKeys ∧ p.revocationKey = q.revocationKey := by
  obtain ⟨keys, revocations, tags⟩ := signedOctetsOf_injective same
  exact ⟨Tag.number_injective tags, keys, revocations⟩

/-- Public identities under one signature over the same octets are one. -/
theorem eq_of_signedOctets_eq (same : p.signedOctets = q.signedOctets)
    (signatures : p.signature = q.signature) : p = q := by
  obtain ⟨tags, keys, revocations⟩ := signedOctets_injective same
  cases p
  cases q
  cases tags
  cases keys
  cases revocations
  cases signatures
  rfl

/-- What is hashed for the address settles the record. -/
theorem eq_of_addressed_eq
    (same : p.signedOctets ++ p.signature.octets = q.signedOctets ++ q.signature.octets) :
    p = q := by
  obtain ⟨signed, signatures⟩ := List.append_inj' same
    (p.signature.length_eq.trans q.signature.length_eq.symm)
  exact eq_of_signedOctets_eq signed (Fixed.ext signatures)

/-- What is signed is longer than a key, as it holds three. -/
theorem signedOctets_ne_key (p : PublicIdentity) (key : Key) : key.octets ≠ p.signedOctets := by
  intro same
  have short := key.length_eq
  have sign := p.publicKeys.sign.length_eq
  have box := p.publicKeys.box.length_eq
  rw [same] at short
  simp only [signedOctets, signedOctetsOf, List.length_append] at short
  omega

/-- The scheme has verified the signature of a public identity that was decoded. -/
theorem verifies_of_decode {scheme : Scheme} {config : Config} {message : Octets}
    (decoded : Message.decode scheme config message = .ok (.record (.publicIdentity p))) :
    scheme.verify p.revocationKey p.signedOctets p.signature = true :=
  (Message.decode_eq_record_iff.1 decoded).2.2

end PublicIdentity

/-! ## What a signature is over -/

/-- The signed octets of a public identity settle all of it but the signature, and what is hashed
for its address settles that too; and no public revocation is signed over what a public identity is
signed over.  So where two different public identities were decoded with one revocation key and one
signature, the scheme has verified that signature over two different messages. -/
theorem signature_binds (scheme : Scheme) :
    (∀ p q : PublicIdentity, p.signedOctets = q.signedOctets →
      p.tag = q.tag ∧ p.publicKeys = q.publicKeys ∧ p.revocationKey = q.revocationKey) ∧
    (∀ p : PublicIdentity,
      p.address = .ofContent (p.signedOctets ++ p.signature.octets) ∧
        ∀ q : PublicIdentity,
          p.signedOctets ++ p.signature.octets = q.signedOctets ++ q.signature.octets → p = q) ∧
    (∀ r : PublicRevocation,
      r.verifies scheme = scheme.verify r.publicKey r.publicKey.octets r.signature ∧
        ∀ p : PublicIdentity, r.publicKey.octets ≠ p.signedOctets) ∧
    ∀ (config config' : Config) (message message' : Octets) (p q : PublicIdentity),
      Message.decode scheme config message = .ok (.record (.publicIdentity p)) →
      Message.decode scheme config' message' = .ok (.record (.publicIdentity q)) →
      p ≠ q → p.revocationKey = q.revocationKey → p.signature = q.signature →
        p.signedOctets ≠ q.signedOctets ∧
          scheme.verify p.revocationKey p.signedOctets p.signature = true ∧
          scheme.verify p.revocationKey q.signedOctets p.signature = true := by
  refine ⟨fun p q => PublicIdentity.signedOctets_injective, fun p => ⟨?_, fun q => ?_⟩,
    fun r => ⟨rfl, fun p => ?_⟩, ?_⟩
  · simp [PublicIdentity.address, Name.ofParts]
  · exact PublicIdentity.eq_of_addressed_eq
  · exact p.signedOctets_ne_key r.publicKey
  · intro config config' message message' p q decoded decoded' different keys signatures
    have verifies := PublicIdentity.verifies_of_decode decoded
    have verifies' := PublicIdentity.verifies_of_decode decoded'
    rw [← keys, ← signatures] at verifies'
    refine ⟨fun same => ?_, verifies, verifies'⟩
    exact different (PublicIdentity.eq_of_signedOctets_eq same signatures)

/-- A public identity of zeros. -/
def blankIdentity (family : Family) : PublicIdentity :=
  ⟨family, ⟨default, default⟩, default, default⟩

theorem exists_message_blankIdentity (family : Family) :
    ∃ message, ∀ config : Config, (message.length : Int) ≤ config.maxMessageBytes →
      Message.decode .lenient config message =
        .ok (.record (.publicIdentity (blankIdentity family))) := by
  have encoded : ∃ message,
      Message.encode? (.publicIdentity (blankIdentity family)) = some message :=
    Message.exists_encode?_of_isFixed rfl
  obtain ⟨message, written⟩ := encoded
  exact ⟨message, fun config small => Message.decode_encode? written small rfl⟩

/-- A scheme that verifies everything has verified a signature of zeros for both families. -/
theorem signature_binds_blankIdentity :
    ∃ config message message',
      Message.decode .lenient config message =
        .ok (.record (.publicIdentity (blankIdentity .maid))) ∧
      Message.decode .lenient config message' =
        .ok (.record (.publicIdentity (blankIdentity .mpid))) ∧
      (blankIdentity .maid).signedOctets ≠ (blankIdentity .mpid).signedOctets := by
  obtain ⟨message, decodes⟩ := exists_message_blankIdentity .maid
  obtain ⟨message', decodes'⟩ := exists_message_blankIdentity .mpid
  let config : Config := { maxMessageBytes := max message.length message'.length }
  have decoded := decodes config (Int.le_max_left _ _)
  have decoded' := decodes' config (Int.le_max_right _ _)
  obtain ⟨-, -, -, replayed⟩ := signature_binds .lenient
  exact ⟨config, message, message', decoded, decoded',
    (replayed _ _ _ _ _ _ decoded decoded' (by decide) rfl rfl).1⟩

end Overlay
