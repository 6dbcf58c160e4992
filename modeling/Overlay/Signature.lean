/-
# Overlay.Signature — keys, signatures, and what a signature scheme offers

Keys have 32 octets and signatures 64.  Nothing in the library depends on how a
signature is made: a `Scheme` derives a public key from a secret one, signs and
verifies, and everything that needs one of the three takes a scheme as an argument.
The one law a scheme may be asked for is that what it signs, it verifies
(`Scheme.Sound`).

A signature travels bound to its message as the signature followed by the message
(`attach`); `detach?` splits the two again and fails exactly on a string shorter
than a signature.
-/
import Overlay.Octets.Fixed

namespace Overlay

set_option autoImplicit false

/-- A key of either kind, public or secret. -/
abbrev Key := Fixed 32

/-- A detached signature. -/
abbrev Signature := Fixed 64

/-- The three functions of a signature scheme. -/
structure Scheme where
  /-- The public key of a secret one. -/
  publicKey : Key → Key
  /-- The signature over a message by a secret key. -/
  sign : Key → Octets → Signature
  /-- Is this a signature over the message by the secret key of the given public one? -/
  verify : Key → Octets → Signature → Bool

/-- What the scheme signs, it verifies. -/
def Scheme.Sound (scheme : Scheme) : Prop :=
  ∀ secret message, scheme.verify (scheme.publicKey secret) message (scheme.sign secret message)

/-- Verification over octet strings of any length: only a whole key and a whole signature pass. -/
def Scheme.verifies (scheme : Scheme) (key message signature : Octets) : Bool :=
  match Fixed.of? signature, Fixed.of? key with
  | some signature, some key => scheme.verify key message signature
  | _, _ => false

namespace Signature

/-- A signature bound to its message. -/
def attach (signature : Signature) (message : Octets) : Octets := signature.octets ++ message

/-- The signature and the message of a signed string, unless it is shorter than a signature. -/
def detach? (signed : Octets) : Option (Signature × Octets) :=
  if h : 64 ≤ signed.length then
    some (⟨signed.take 64, by simp [h]⟩, signed.drop 64)
  else none

@[simp] theorem detach?_attach (signature : Signature) (message : Octets) :
    detach? (attach signature message) = some (signature, message) := by
  have size := signature.length_eq
  have long : 64 ≤ (attach signature message).length := by simp [attach, size]
  rw [detach?, dif_pos long]
  simp only [Option.some.injEq, Prod.mk.injEq]
  exact ⟨Fixed.ext (by simp [attach, ← size]), by simp [attach, ← size]⟩

theorem detach?_eq_none_iff {signed : Octets} : detach? signed = none ↔ signed.length < 64 := by
  unfold detach?
  split <;> simp <;> omega

theorem attach_of_detach? {signed message : Octets} {signature : Signature}
    (h : detach? signed = some (signature, message)) : attach signature message = signed := by
  unfold detach? at h
  split at h
  · simp only [Option.some.injEq, Prod.mk.injEq] at h
    obtain ⟨rfl, rfl⟩ := h
    exact List.take_append_drop 64 signed
  · cases h

/-- The message of a signed string if its signature is one by the given key. -/
def openAttached? (scheme : Scheme) (key signed : Octets) : Option Octets :=
  match detach? signed with
  | some (signature, message) =>
    if scheme.verifies key message signature.octets then some message else none
  | none => none

end Signature

end Overlay
