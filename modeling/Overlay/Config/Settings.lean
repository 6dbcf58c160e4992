/-
# Overlay.Config.Settings — a configuration from settings given by name

Each of the four settings is read from a value by a rule of its own.  The size is a
positive integer: an integer, a floating-point number without a fraction, or a
numeral, which may start with zeros and end in a fraction of zeros.  A flag is a
boolean, zero or one, or one of twelve words in any case.  The level is the name of a
level.  Octets count as the text that they are in UTF-8.

A setting that is not given keeps its default.  Every setting that cannot be read and
every name that is no setting is reported, all at once and in order of their names.
-/
import Overlay.Config
import Overlay.Datum.Number
import Overlay.Fault
import Overlay.Text.Numeral

namespace Overlay

set_option autoImplicit false

/-- The four settings. -/
inductive Setting where
  | maxMessageBytes
  | acceptTextTags
  | logDecodeEvents
  | logLevel
  deriving DecidableEq, Repr

namespace Setting

/-- Every setting. -/
def all : List Setting := [.maxMessageBytes, .acceptTextTags, .logDecodeEvents, .logLevel]

/-- The name under which a setting is given. -/
def title : Setting → String
  | .maxMessageBytes => "max_message_bytes"
  | .acceptTextTags => "accept_string_tags"
  | .logDecodeEvents => "log_decode_events"
  | .logLevel => "log_level"

/-- The setting of the given name. -/
def ofTitle? (name : String) : Option Setting := all.find? (·.title == name)

end Setting

namespace Config

/-! ## Reading one setting -/

/-- The text that a value is, or that its octets are in UTF-8, if octets held in that way count. -/
def textFrom? (counts : Holding → Bool) : Datum → Option String
  | .text text => some text
  | .octets holding octets =>
    if counts holding then String.fromUTF8? ⟨octets.toArray⟩ else none
  | _ => none

/-- A numeral without the zeros in front, among which any underscores may stand. -/
def withoutZeros : List Char → List Char
  | '0' :: rest => rest.dropWhile fun c => c == '0' || c == '_'
  | text => text

/-- A text without a fraction at its end that is a point and zeros only. -/
def withoutZeroFraction (text : List Char) : List Char :=
  let whole := text.takeWhile (· != '.')
  match text.drop whole.length with
  | '.' :: zero :: zeros => if (zero :: zeros).all (· == '0') then whole else text
  | _ => text

/-- The positive integer that a numeral with ASCII digits writes, white space at its ends not
counted.  Zeros in front do not count towards the length that is allowed. -/
def numeral? (text : String) : Option Nat :=
  let digits := match Text.trim Text.isSpace text.toList with
    | '+' :: rest => rest
    | text => text
  match Text.groupedDigits? Text.asciiDigit? (withoutZeroFraction (withoutZeros digits)) with
  | none => none
  | some digits => if Text.maxDigits < digits.length then none else some (Text.ofDigits digits)

/-- The size that a value gives: a positive integer.  A floating-point number must lie below
`2 ^ 63`. -/
def size? (datum : Datum) : Option Int :=
  match textFrom? (· == .fixed) datum with
  | some text => (numeral? text).map fun value => (value : Int)
  | none =>
    match datum, datum.number? with
    | .float _ _, some (.whole value) => if 0 < value && value < 2 ^ 63 then some value else none
    | _, some (.whole value) => if 0 < value then some value else none
    | _, _ => none

/-- The words for a flag that is set. -/
def trueWords : List String := ["1", "t", "true", "y", "yes", "on"]

/-- The words for a flag that is not set. -/
def falseWords : List String := ["0", "f", "false", "n", "no", "off"]

/-- The flag that a value gives. -/
def flag? (datum : Datum) : Option Bool :=
  match textFrom? (· == .fixed) datum with
  | some text =>
    let word := Text.lower text
    if trueWords.contains word then some true
    else if falseWords.contains word then some false
    else none
  | none =>
    match datum.number? with
    | some (.whole 0) => some false
    | some (.whole 1) => some true
    | _ => none

/-- The level that a value gives. -/
def level? (datum : Datum) : Option Log.Level :=
  (textFrom? (· != .view) datum).bind Log.Level.ofText?

/-! ## Reading all settings -/

/-- A configuration with one setting changed to what a value gives. -/
def set? (config : Config) (setting : Setting) (datum : Datum) : Option Config :=
  match setting with
  | .maxMessageBytes => (size? datum).map fun size => { config with maxMessageBytes := size }
  | .acceptTextTags => (flag? datum).map fun flag => { config with acceptTextTags := flag }
  | .logDecodeEvents => (flag? datum).map fun flag => { config with logDecodeEvents := flag }
  | .logLevel => (level? datum).map fun level => { config with logLevel := level }

/-- A configuration with the setting of the given name changed, if the name is that of a setting and
the value can be read. -/
def assign? (config : Config) (entry : String × Datum) : Option Config :=
  (Setting.ofTitle? entry.1).bind fun setting => config.set? setting entry.2

/-- The names that are wrong among those given. -/
def faulty (entries : List (String × Datum)) : List String :=
  (entries.filter fun entry => (assign? {} entry).isNone).map Prod.fst

/-- The configuration that settings given by name describe; else the names that are wrong, sorted. -/
def ofSettings (entries : List (String × Datum)) : Except (List String) Config :=
  match entries.foldlM assign? {} with
  | some config => .ok config
  | none => .error ((faulty entries).mergeSort (· ≤ ·))

/-- The configuration that a map of settings describes; its keys must be text. -/
def ofDatum (datum : Datum) : Except Fault Config := do
  let .mapping entries := datum | .error .unfit
  let entries ← entries.mapM fun
    | (.text name, value) => .ok (name, value)
    | _ => .error Fault.unfit
  match ofSettings entries with
  | .ok config => return config
  | .error names => .error (.settings names)

end Config

end Overlay
