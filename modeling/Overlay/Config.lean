/-
# Overlay.Config — how messages are decoded and logged

Four settings: the size above which a message is not looked at, whether tags may be
written as text, whether decoding leaves events in the log, and the level of the
log.
-/
import Overlay.Log.Level

namespace Overlay

set_option autoImplicit false

/-- The settings of the decoder and the log. -/
structure Config where
  /-- Larger messages are refused unread. -/
  maxMessageBytes : Int := 8 * 1024 * 1024
  /-- May a tag be written as text? -/
  acceptTextTags : Bool := true
  /-- Does decoding leave events in the log? -/
  logDecodeEvents : Bool := false
  logLevel : Log.Level := .info
  deriving DecidableEq, Repr, Inhabited

end Overlay
