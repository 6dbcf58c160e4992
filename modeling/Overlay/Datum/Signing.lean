/-
# Overlay.Datum.Signing — keys, signatures and signed strings from values

Secret keys, public keys and signatures are octets of one length each, and a message
is whatever can be read as octets.  Verification answers no where a length or a value
is wrong; only a value of a sort that does not fit makes it fail.
-/
import Overlay.Curve.X25519
import Overlay.Datum.Reading

namespace Overlay.Datum

set_option autoImplicit false

/-- A secret key for signing. -/
def toSecretKey (secret : Datum) : Except Fault Key := secret.toFixed 32 "secret_key"

/-- A signature. -/
def toSignature (signature : Datum) : Except Fault Signature := signature.toFixed 64 "signature"

/-- The public key of a secret key for signing. -/
def signPublicKey (scheme : Scheme) (secret : Datum) : Except Fault Key := do
  return scheme.publicKey (← secret.toSecretKey)

/-- The public key of a secret key of the box. -/
def boxPublicKey (secret : Datum) : Except Fault Key := do
  return Curve.X25519.publicKey (← secret.toFixed 32 "box_secret_key")

/-- A signature over a message by a secret key. -/
def signMessage (scheme : Scheme) (message secret : Datum) : Except Fault Signature := do
  let secret ← secret.toSecretKey
  return scheme.sign secret (← message.toOctets)

/-- A signature by the key that a value holds. -/
def sign (scheme : Scheme) (signer message : Datum) : Except Fault Signature := do
  match signer with
  | .record (.revocationKey key) => return key.sign scheme (← message.toOctets)
  | .draftKey _ _ secretKey => return scheme.sign secretKey (← message.toOctets)
  | .record (.identity i) => return i.sign scheme (← message.toOctets)
  | _ => .error .missing

/-- Nothing in place of a value that is of the wrong size or outside what is allowed. -/
def orNone {α : Type} : Except Fault α → Except Fault (Option α)
  | .ok a => .ok (some a)
  | .error (.size _) | .error .outside => .ok Option.none
  | .error fault => .error fault

/-- Is this a signature over the message by the secret key of the given public one? -/
def verifySignature (scheme : Scheme) (signature message publicKey : Datum) :
    Except Fault Bool := do
  let some signature ← orNone signature.toSignature | return false
  let some key ← orNone (publicKey.toFixed 32 "public_key") | return false
  let some message ← orNone message.toOctets | return false
  return scheme.verify key message signature

/-! ## Signed strings -/

/-- A signature bound to its message. -/
def attach (signature message : Datum) : Except Fault Octets := do
  let signature ← signature.toSignature
  return signature.attach (← message.toOctets)

/-- The signature and the message of a signed string. -/
def detach (signed : Datum) : Except Fault (Signature × Octets) := do
  let octets ← signed.toOctets
  orFault (.size (.of 64 octets.length "signed_blob")) (Signature.detach? octets)

/-- A message bound to a signature over it. -/
def signAttached (scheme : Scheme) (message secret : Datum) : Except Fault Octets := do
  let signature ← signMessage scheme message secret
  return signature.attach (← message.toOctets)

/-- The message of a signed string if its signature is one by the given key. -/
def openAttached (scheme : Scheme) (signed publicKey : Datum) : Except Fault (Option Octets) := do
  let some (signature, message) := Signature.detach? (← signed.toOctets) | return Option.none
  let passes ← verifySignature scheme (ofOctets signature.octets) (ofOctets message) publicKey
  return if passes then some message else Option.none

end Overlay.Datum
