/-
# Overlay.Proofs.Datum.Signing -- signatures that travel bound to their messages

A signed string is cut after the length of a signature, and whatever is cut there is put
together again.  So binding a signature to a message and taking the two apart undo each
other, and a string that is too short to be cut is the only one that is refused.

What is opened is what is verified.  On octets of any length verification gives an answer
(`verifySignature_octets`), and a signed string opens to a message exactly if it is a
signature that verifies over that message, and then the message (`opens_iff`); an empty
message is opened like any other.

* `attached_signatures`: all of this for values, and that what is signed under a secret key
  opens under its public key.  Only the last asks something of the scheme, `Scheme.Sound`.
-/
import Overlay.Datum.Signing
import Overlay.Proofs.Datum.Issuing

namespace Overlay

set_option autoImplicit false

variable {scheme : Scheme}

/-! ## Octets of any length -/

/-- Only a whole signature passes, under a whole key. -/
theorem Scheme.length_of_verifies {key message signature : Octets}
    (passes : scheme.verifies key message signature = true) :
    signature.length = 64 ∧ key.length = 32 := by
  unfold Scheme.verifies at passes
  split at passes
  · next whole wholeKey =>
    rw [Fixed.of?_eq_some_iff] at whole wholeKey
    rw [whole, wholeKey]
    exact ⟨Fixed.length_eq _, Fixed.length_eq _⟩
  · cases passes

@[simp] theorem Scheme.verifies_octets (key : Key) (message : Octets) (signature : Signature) :
    scheme.verifies key.octets message signature.octets = scheme.verify key message signature := by
  simp [Scheme.verifies]

namespace Signature

theorem detach?_eq_some_iff {signed message : Octets} {signature : Signature} :
    detach? signed = some (signature, message) ↔ signed = signature.octets ++ message := by
  constructor
  · intro cut
    exact (attach_of_detach? cut).symm
  · rintro rfl
    exact detach?_attach signature message

/-- A signed string opens to the message after a signature over it. -/
theorem opens_iff {key signed message : Octets} :
    openAttached? scheme key signed = some message ↔
      ∃ signature : Octets, signed = signature ++ message ∧ signature.length = 64 ∧
        scheme.verifies key message signature = true := by
  unfold openAttached?
  constructor
  · intro opened
    split at opened
    · next signature found cut =>
      split at opened
      · next passes =>
        cases opened
        exact ⟨signature.octets, detach?_eq_some_iff.1 cut, signature.length_eq, passes⟩
      · cases opened
    · cases opened
  · rintro ⟨signature, rfl, whole, passes⟩
    have cut : detach? (signature ++ message) = some (⟨signature, whole⟩, message) :=
      detach?_eq_some_iff.2 rfl
    simp only [cut, passes, if_true]

end Signature

/-! ## Values -/

namespace Datum

theorem toFixed_octets {size : Nat} (field : String) (holding : Holding) (octets : Octets) :
    (Datum.octets holding octets).toFixed size field =
      match (Fixed.of? octets : Option (Fixed size)) with
      | some fixed => .ok fixed
      | Option.none => .error (.size (.of size octets.length field)) := by
  simp only [toFixed, octets?, Fixed.ofField]
  cases (Fixed.of? octets : Option (Fixed size)) <;> rfl

/-- Octets of the right length are taken as they are, however they are held. -/
theorem toFixed_fixed {size : Nat} (field : String) (holding : Holding) (fixed : Fixed size) :
    (Datum.octets holding fixed.octets).toFixed size field = .ok fixed := by
  rw [toFixed_octets, Fixed.of?_octets]

/-- Octets always get an answer: no length makes verification fail. -/
theorem verifySignature_octets (ofSignature ofMessage ofKey : Holding)
    (signature message key : Octets) :
    verifySignature scheme (.octets ofSignature signature) (.octets ofMessage message)
      (.octets ofKey key) = .ok (scheme.verifies key message signature) := by
  simp only [verifySignature, toSignature, toFixed_octets, Scheme.verifies]
  cases (Fixed.of? signature : Option (Fixed 64)) with
  | none => rfl
  | some whole =>
      cases (Fixed.of? key : Option (Fixed 32)) with
      | none => rfl
      | some wholeKey => rfl

theorem attach_octets (ofSignature ofMessage : Holding) (signature : Signature)
    (message : Octets) :
    attach (.octets ofSignature signature.octets) (.octets ofMessage message) =
      .ok (signature.octets ++ message) := by
  simp only [attach, toSignature, toFixed_fixed]
  rfl

theorem detach_octets (holding : Holding) (signed : Octets) :
    detach (.octets holding signed) =
      orFault (.size (.of 64 signed.length "signed_blob")) (Signature.detach? signed) := rfl

/-- A string of octets is refused exactly if a signature does not fit into it. -/
theorem detach_octets_eq_error_iff {holding : Holding} {signed : Octets} {fault : Fault} :
    detach (.octets holding signed) = .error fault ↔
      signed.length < 64 ∧ fault = .size (.of 64 signed.length "signed_blob") := by
  rw [detach_octets, ← Signature.detach?_eq_none_iff]
  cases Signature.detach? signed with
  | none => simp [orFault, eq_comm]
  | some parts => simp [orFault]

theorem detach_octets_eq_ok_iff {holding : Holding} {signed message : Octets}
    {signature : Signature} :
    detach (.octets holding signed) = .ok (signature, message) ↔
      signed = signature.octets ++ message := by
  rw [detach_octets, ← Signature.detach?_eq_some_iff]
  cases Signature.detach? signed with
  | none => simp [orFault]
  | some parts => simp [orFault]

/-- On octets, opening fails on nothing. -/
theorem openAttached_octets (ofSigned ofKey : Holding) (signed key : Octets) :
    openAttached scheme (.octets ofSigned signed) (.octets ofKey key) =
      .ok (Signature.openAttached? scheme key signed) := by
  have read : (Datum.octets ofSigned signed).toOctets = .ok signed := rfl
  simp only [openAttached, Signature.openAttached?, read]
  cases cut : Signature.detach? signed with
  | none => simp [bind, Except.bind, cut, pure, Except.pure]
  | some parts =>
      have verified : verifySignature scheme (ofOctets parts.1.octets) (ofOctets parts.2)
          (.octets ofKey key) = .ok (scheme.verifies key parts.2 parts.1.octets) :=
        verifySignature_octets _ _ _ _ _ _
      simp [bind, Except.bind, cut, verified, pure, Except.pure]

/-- What is signed opens under the public key of the key that signed it. -/
theorem openAttached_signAttached (sound : scheme.Sound) (ofMessage ofSecret : Holding)
    (message : Octets) (secret : Key) :
    ∃ signed, signAttached scheme (.octets ofMessage message) (.octets ofSecret secret.octets) =
        .ok signed ∧
      openAttached scheme (ofOctets signed) (ofOctets (scheme.publicKey secret).octets) =
        .ok (some message) := by
  have signed : signAttached scheme (.octets ofMessage message)
      (.octets ofSecret secret.octets) = .ok ((scheme.sign secret message).octets ++ message) := by
    simp only [signAttached, signMessage, toSecretKey, toFixed_fixed]
    rfl
  refine ⟨_, signed, ?_⟩
  rw [ofOctets, ofOctets, openAttached_octets, Except.ok.injEq, Signature.opens_iff]
  refine ⟨_, rfl, Fixed.length_eq _, ?_⟩
  rw [Scheme.verifies_octets]
  exact sound secret message

/-- Binding and cutting undo each other, and only what is shorter than a signature cannot be cut.
Octets of any length get an answer, and what opens is exactly a message after a signature over it.
What is signed opens under the public key if the scheme verifies what it signs. -/
theorem attached_signatures (scheme : Scheme) (holding holding' holding'' : Holding) :
    (∀ (signature : Signature) (message : Octets), ∃ signed,
      attach (.octets holding signature.octets) (.octets holding' message) = .ok signed ∧
        detach (.octets holding'' signed) = .ok (signature, message)) ∧
    (∀ signed : Octets,
      (∀ fault, detach (.octets holding signed) = .error fault ↔
        signed.length < 64 ∧ fault = .size (.of 64 signed.length "signed_blob")) ∧
      (64 ≤ signed.length → ∃ signature message,
        detach (.octets holding signed) = .ok (signature, message) ∧
          attach (.octets holding' signature.octets) (.octets holding'' message) = .ok signed)) ∧
    (∀ signature message key : Octets, ∃ passes,
      verifySignature scheme (.octets holding signature) (.octets holding' message)
        (.octets holding'' key) = .ok passes ∧
      (passes = true → signature.length = 64 ∧ key.length = 32)) ∧
    (∀ signed key : Octets,
      (∃ opened, openAttached scheme (.octets holding signed) (.octets holding' key) =
        .ok opened) ∧
      ∀ message, openAttached scheme (.octets holding signed) (.octets holding' key) =
          .ok (some message) ↔
        ∃ signature : Octets, signed = signature ++ message ∧ signature.length = 64 ∧
          verifySignature scheme (ofOctets signature) (ofOctets message)
            (.octets holding' key) = .ok true) ∧
    (scheme.Sound → ∀ message secret : Octets, secret.length = 32 → ∃ signed key,
      signAttached scheme (.octets holding message) (.octets holding' secret) = .ok signed ∧
        signPublicKey scheme (.octets holding' secret) = .ok key ∧
        openAttached scheme (ofOctets signed) (ofOctets key.octets) = .ok (some message)) := by
  refine ⟨fun signature message => ?_, fun signed => ⟨fun fault => detach_octets_eq_error_iff, ?_⟩,
    fun signature message key => ?_, fun signed key => ⟨?_, fun message => ?_⟩, ?_⟩
  · exact ⟨_, attach_octets _ _ signature message, detach_octets_eq_ok_iff.2 rfl⟩
  · intro long
    cases cut : detach (.octets holding signed) with
    | error fault =>
        obtain ⟨short, -⟩ := detach_octets_eq_error_iff.1 cut
        omega
    | ok parts =>
        obtain ⟨signature, message⟩ := parts
        refine ⟨signature, message, rfl, ?_⟩
        rw [attach_octets, detach_octets_eq_ok_iff.1 cut]
  · exact ⟨_, verifySignature_octets _ _ _ _ _ _, Scheme.length_of_verifies⟩
  · exact ⟨_, openAttached_octets _ _ _ _⟩
  · rw [openAttached_octets, Except.ok.injEq, Signature.opens_iff]
    simp only [ofOctets, verifySignature_octets, Except.ok.injEq]
  · intro sound message secret whole
    obtain ⟨signed, made, opens⟩ :=
      openAttached_signAttached sound holding holding' message ⟨secret, whole⟩
    have derived : signPublicKey scheme (.octets holding' secret) =
        .ok (scheme.publicKey ⟨secret, whole⟩) := by
      have taken := toFixed_fixed "secret_key" holding' ⟨secret, whole⟩
      simp only [signPublicKey, toSecretKey, taken]
      rfl
    exact ⟨signed, _, made, derived, opens⟩

/-- The empty message signed with Ed25519 opens, as a message that is there; and so many zeros as a
signature has are one, over the empty message. -/
theorem attached_signatures_empty :
    (∃ signed key,
      signAttached Curve.ed25519.completed (ofOctets []) (ofOctets (Fixed.zero 32).octets) =
          .ok signed ∧
        signPublicKey Curve.ed25519.completed (ofOctets (Fixed.zero 32).octets) = .ok key ∧
        openAttached Curve.ed25519.completed (ofOctets signed) (ofOctets key.octets) =
          .ok (some [])) ∧
      ∃ signature message,
        detach (ofOctets (List.replicate 64 0)) = .ok (signature, message) ∧
          attach (ofOctets signature.octets) (ofOctets message) =
            .ok (List.replicate 64 0) := by
  obtain ⟨-, cut, -, -, opens⟩ :=
    attached_signatures Curve.ed25519.completed .fixed .fixed .fixed
  refine ⟨opens (Scheme.sound_completed _) [] _ (Fixed.length_eq _), ?_⟩
  exact (cut (List.replicate 64 0)).2 (by decide)

end Datum

end Overlay
