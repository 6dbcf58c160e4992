/-
# Overlay.Fault — why a call fails

A call on values from outside fails for a reason that is one of these.  The first
few carry a report of their own; then come the checks of this library, each with its
text; and last the failures without one: a value of a sort that does not fit
(`unfit`), a value that does not fit though its sort does (`outside`), a value too
large to be converted (`overflow`) or to be held (`exhausted`), a value nested too
deep (`tooDeep`), an operation or an item that the value does not have (`missing`,
`noItem`), a home directory that nobody has (`homeless`), and what the host does not
allow (`denied`).
-/
import Overlay.Message.Refusal

namespace Overlay

set_option autoImplicit false

/-- Why a value is not written. -/
inductive WriteFault where
  | tagNotInt (typeName : String)
  | tagOutOfRange (value : Int)
  | unwritable
  | notRecord (typeName : String)
  deriving DecidableEq, Repr

/-- The code of a failure to write. -/
def WriteFault.code : WriteFault → String
  | .tagNotInt _ | .tagOutOfRange _ => "invalid_tag"
  | .unwritable => "encode_failed"
  | .notRecord _ => "unregistered_type"

/-- The text of a failure to write.  For unwritable fields it stops before what the writer of
objects says about them. -/
def WriteFault.message : WriteFault → String
  | .tagNotInt typeName => "tag must be int, got " ++ typeName
  | .tagOutOfRange value => "tag out of u64 range: " ++ toString value
  | .unwritable => "encode failed"
  | .notRecord typeName => "not a wire type: " ++ typeName

/-- Why settings are refused. -/
inductive ConfigFault where
  /-- A variable that should be a flag is none. -/
  | flag (key value : String)
  /-- These settings are wrong or unknown. -/
  | settings (names : List String)
  deriving DecidableEq, Repr

/-- The text of refused settings.  It stops before the list of what is wrong with each of them. -/
def ConfigFault.message : ConfigFault → String
  | .flag key value => key ++ ": expected a boolean, got " ++ Text.quoted value
  | .settings _ => "invalid wire config"

/-- The settings that are wrong, where that is known. -/
def ConfigFault.names : ConfigFault → List String
  | .flag _ _ => []
  | .settings names => names

/-- Why a call fails. -/
inductive Fault where
  | size (mismatch : SizeMismatch)
  | refused (refusal : Refusal)
  | unwritten (fault : WriteFault)
  | config (fault : ConfigFault)
  /-- Settings given as such, not read from the environment. -/
  | settings (names : List String)
  /-- A field that should be octets is something else. -/
  | notOctets (field typeName : String)
  | payloadTag (value : String)
  | blockValue (typeName : String)
  /-- A tag of another sort of record than the one wanted. -/
  | wrongTag (wanted value : String)
  | rowItem (typeName : String)
  | familiesDiffer
  | unfit
  | outside
  | overflow
  | exhausted
  | tooDeep
  | missing
  | noItem
  | homeless
  | denied
  deriving DecidableEq, Repr

namespace Fault

/-- The text of a failed check of this library. -/
def message? : Fault → Option String
  | .size mismatch => some mismatch.message
  | .refused refusal => some refusal.message
  | .unwritten fault => some fault.message
  | .config fault => some fault.message
  | .notOctets field typeName => some ("expected bytes-like for '" ++ field ++ "', got " ++ typeName)
  | .payloadTag value => some ("inner type tag must be u64, got " ++ value)
  | .blockValue typeName => some ("value must be bytes, got " ++ typeName)
  | .wrongTag wanted value => some ("not " ++ wanted ++ " tag: " ++ value)
  | .rowItem typeName => some ("StructuredData rows hold NameType, got " ++ typeName)
  | .familiesDiffer => some "id and revocation key belong to different families"
  | .settings _ | .unfit | .outside | .overflow | .exhausted | .tooDeep | .missing | .noItem
  | .homeless | .denied => none

end Fault

/-- A failure to decode as the failure of a call; a number of too many digits is a value outside
what is allowed. -/
def Failure.fault : Failure → Fault
  | .refused refusal => .refused refusal
  | .oversizedNumeral => .outside

end Overlay
