/-
# Overlay.Curve.Ed25519 — the signature scheme in use

Ed25519 (RFC 8032).  The hash of a secret key gives a clamped scalar and a salt; a
signature is the point of a salted nonce and a scalar below the order of the base
point.

Verification computes `S B - h A`, writes the result and compares its octets with
the first half of the signature.  The scalar `S` must lie below the group order;
the public key is read liberally (`Point.read?`), enters the hash as it was given,
and may be of small order.
-/
import Overlay.Curve.Edwards
import Overlay.Hash.Sha512
import Overlay.Signature

namespace Overlay.Curve.Ed25519

set_option autoImplicit false

open Overlay.Hash (sha512)
open Octets (littleEndian ofLittleEndian)

/-- The order of the base point. -/
def order : Nat := 2 ^ 252 + 27742317777372353535851937790883648493

/-- A scalar with its three low bits and its top bit cleared and the bit below the top set. -/
def clamp (n : Nat) : Nat := n % 2 ^ 254 / 8 * 8 + 2 ^ 254

/-- The scalar and the salt of a secret key. -/
def expandSecret (secret : Key) : Nat × Octets :=
  let digest := (sha512 secret.octets).octets
  (clamp (ofLittleEndian (digest.take 32)), digest.drop 32)

/-- The scalar that a hash of several parts gives. -/
def challenge (parts : List Octets) : Nat :=
  ofLittleEndian (sha512 parts.flatten).octets % order

/-- The public key of a secret one. -/
def publicKey (secret : Key) : Key := (Point.base.multiple (expandSecret secret).1).write

/-- The signature over a message. -/
def sign (secret : Key) (message : Octets) : Signature :=
  let (scalar, salt) := expandSecret secret
  let key := (Point.base.multiple scalar).write
  let nonce := challenge [salt, message]
  let commitment := (Point.base.multiple nonce).write
  let answer := (nonce + challenge [commitment.octets, key.octets, message] * scalar) % order
  ⟨commitment.octets ++ littleEndian 32 answer, by simp [commitment.length_eq]⟩

/-- Is this a signature over the message under the public key? -/
def verify (key : Key) (message : Octets) (signature : Signature) : Bool :=
  let commitment := signature.octets.take 32
  let answer := ofLittleEndian (signature.octets.drop 32)
  answer < order &&
    match Point.read? key with
    | none => false
    | some point =>
      let factor := challenge [commitment, key.octets, message]
      let result := (Point.base.multiple answer).add (point.negate.multiple factor)
      result.write.octets == commitment

end Overlay.Curve.Ed25519

namespace Overlay.Curve

/-- Ed25519 as a signature scheme. -/
def ed25519 : Scheme where
  publicKey := Ed25519.publicKey
  sign := Ed25519.sign
  verify := Ed25519.verify

end Overlay.Curve
