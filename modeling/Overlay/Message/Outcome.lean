/-
# Overlay.Message.Outcome — what comes of each of several messages

Several messages are decoded one by one, and one that is refused does not stop the
others.  Each comes to an `Outcome`: what the message was decoded to, or the report
of its refusal.  No two reports are the same, even where they say the same, so a
report has an identity of its own.
-/
import Overlay.Message.Decode

namespace Overlay

set_option autoImplicit false

/-- What comes of one message of several. -/
inductive Outcome where
  | accepted (decoded : Decoded)
  | refused (refusal : Refusal) (identity : Nat)
  deriving DecidableEq

/-- Was the message decoded? -/
def Outcome.isAccepted : Outcome → Bool
  | .accepted _ => true
  | .refused _ _ => false

end Overlay
