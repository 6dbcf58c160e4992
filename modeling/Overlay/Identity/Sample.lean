/-
# Overlay.Identity.Sample — keys that anyone can make again

Sample keys are derived from a label, so that two places can have the same keys
without exchanging them.  They are for examples and checks, never for use: whoever
knows the label knows the secret.
-/
import Overlay.Datum.Record
import Overlay.Datum.Signing
import Overlay.Hash.Sha256

namespace Overlay.Identity.Sample

set_option autoImplicit false

/-- The octets of a text in UTF-8. -/
def utf8 (text : String) : Octets := text.toUTF8.toList

/-- The secret key of a label for a purpose. -/
def secret (purpose label : String) : Key :=
  Hash.sha256 (utf8 ("safewire-test-" ++ purpose ++ ":" ++ label))

/-- A public key and its secret key. -/
structure Pair where
  publicKey : Key
  secretKey : Key

/-- The keys of a label for signing. -/
def signPair (scheme : Scheme) (label : String) : Pair :=
  let key := secret "sign" label
  ⟨scheme.publicKey key, key⟩

/-- The keys of a label for the box. -/
def boxPair (label : String) : Pair :=
  let key := secret "box" label
  ⟨Curve.X25519.publicKey key, key⟩

/-- The revocation key of a label. -/
def revocationKey (scheme : Scheme) (family : Family) (label : String) : RevocationKey :=
  let pair := signPair scheme ("revocation:" ++ label)
  ⟨family, pair.publicKey, pair.secretKey⟩

/-- The identity of a label, of the family of a revocation key. -/
def identity (scheme : Scheme) (key : RevocationKey) (label : String) : Identity :=
  let label := "id:" ++ label
  let sign := signPair scheme label
  let box := boxPair label
  ⟨key.family, ⟨sign.publicKey, box.publicKey⟩, ⟨sign.secretKey, box.secretKey⟩⟩

/-- The label that a value stands for; one that counts as false is the empty label. -/
def labelOf (datum : Datum) : String := if datum.isTrue then datum.shown else ""

end Overlay.Identity.Sample
