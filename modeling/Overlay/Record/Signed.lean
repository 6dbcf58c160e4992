/-
# Overlay.Record.Signed — published records: what is signed, who signs, what it proves

A public identity is signed by the revocation key of its family.  The signed octets
are its two public keys, the revocation key and the decimal digits of its tag
(`PublicIdentity.signedOctets`); the last part has no fixed length, but it stands
last, so different contents give different octets.  A public revocation is signed
by the very key it publishes, over that key.

`issue` makes both kinds of record.  An identity can only be published under a
revocation key of its own family.
-/
import Overlay.Record

namespace Overlay

set_option autoImplicit false

/-- The ASCII octets of a number in decimal. -/
def decimalOctets (n : Nat) : Octets := (Nat.toDigits 10 n).map fun c => UInt8.ofNat c.toNat

namespace PublicIdentity

/-- What the revocation key signs in a public identity. -/
def signedOctetsOf (keys : KeyPair) (revocationKey : Key) (tag : Nat) : Octets :=
  keys.sign.octets ++ keys.box.octets ++ revocationKey.octets ++ decimalOctets tag

/-- The tag of a public identity. -/
def tag (identity : PublicIdentity) : Tag := .publicIdentity identity.family

/-- What the signature of this record is over. -/
def signedOctets (identity : PublicIdentity) : Octets :=
  signedOctetsOf identity.publicKeys identity.revocationKey identity.tag.number

/-- Is the signature one by the revocation key that the record names? -/
def verifies (scheme : Scheme) (identity : PublicIdentity) : Bool :=
  scheme.verify identity.revocationKey identity.signedOctets identity.signature

/-- The name of a public identity, the digest of what is signed and of the signature. -/
def address (identity : PublicIdentity) : Name :=
  .ofParts [identity.signedOctets, identity.signature.octets]

end PublicIdentity

namespace PublicRevocation

/-- Is the signature one by the published key over itself? -/
def verifies (scheme : Scheme) (revocation : PublicRevocation) : Bool :=
  scheme.verify revocation.publicKey revocation.publicKey.octets revocation.signature

/-- The name of a public revocation, the digest of its key. -/
def address (revocation : PublicRevocation) : Name := .ofContent revocation.publicKey.octets

end PublicRevocation

namespace RevocationKey

/-- A signature by the revocation key. -/
def sign (scheme : Scheme) (key : RevocationKey) (message : Octets) : Signature :=
  scheme.sign key.secretKey message

/-- The published form of a revocation key. -/
def issue (scheme : Scheme) (key : RevocationKey) : PublicRevocation :=
  ⟨key.family, key.publicKey, key.sign scheme key.publicKey.octets⟩

end RevocationKey

namespace Identity

/-- A signature by the signing key of an identity. -/
def sign (scheme : Scheme) (identity : Identity) (message : Octets) : Signature :=
  scheme.sign identity.secretKeys.sign message

/-- The name of an identity, the digest of its public keys. -/
def address (identity : Identity) : Name :=
  .ofParts [identity.publicKeys.sign.octets, identity.publicKeys.box.octets]

/-- The published form of an identity, if the revocation key is of the same family. -/
def issue? (scheme : Scheme) (identity : Identity) (key : RevocationKey) :
    Option PublicIdentity :=
  if key.family = identity.family then
    let tag := Tag.publicIdentity key.family
    let message := PublicIdentity.signedOctetsOf identity.publicKeys key.publicKey tag.number
    some ⟨key.family, identity.publicKeys, key.publicKey, key.sign scheme message⟩
  else none

end Identity

/-- The name of a block, the digest of its value. -/
def Block.address (block : Block) : Name := .ofContent block.value

/-- Does a record that is published under a signature verify?  Other records have none. -/
def Record.verifies (scheme : Scheme) : Record → Bool
  | .publicIdentity i => i.verifies scheme
  | .publicRevocation r => r.verifies scheme
  | _ => true

end Overlay
