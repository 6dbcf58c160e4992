/-
# Overlay.Datum.Text — a value as text

`quoted` shows a value so that its sort can be told: text and octets in quotation
marks, lists in brackets, tuples in parentheses, maps in braces, a tag by its name and its
number.  `shown` is what a message prints for a value: a text stands as it is, a tag
is its number, and everything else is quoted.
-/
import Overlay.Datum.Basic
import Overlay.Decimal.Layout
import Overlay.Record.Text

namespace Overlay.Datum

set_option autoImplicit false

/-- A number that is none and an infinite one are written in lower case. -/
def floatWords : Decimal.Words := ⟨"nan", "inf"⟩

/-- Texts separated by a comma and a space. -/
def commaSeparated (texts : List String) : String := String.intercalate ", " texts

/-- A flag. -/
def flagText : Bool → String
  | true => "True"
  | false => "False"

/-- A configuration under the name of its sort. -/
def configText (sort : String) (config : Config) : String :=
  Text.withFields sort [
    ("max_message_bytes", toString config.maxMessageBytes),
    ("accept_string_tags", flagText config.acceptTextTags),
    ("log_decode_events", flagText config.logDecodeEvents),
    ("log_level", Text.quoted config.logLevel.title)]

/-- What a message under an unregistered tag is shown as, by the text of the tag. -/
def unknownText (tag : String) : String := Text.withFields "Unknown" [("tag", tag)]

/-- What a message was decoded to. -/
def decodedText : Decoded → String
  | .record r => r.text
  | .unknown number => unknownText (toString number)

/-- What came of a message. -/
def outcomeText (outcome : Outcome) : String :=
  let (value, report) := match outcome with
    | .accepted decoded => (decodedText decoded, "None")
    | .refused refusal _ =>
      ("None", refusal.kind.title ++ "(" ++ Text.quoted refusal.report ++ ")")
  Text.withFields "DecodeOutcome" [
    ("ok", flagText outcome.isAccepted), ("value", value), ("error", report)]

mutual

/-- A value so that its sort can be told. -/
def quoted : Datum → String
  | .none => "None"
  | .bool value => flagText value
  | .int value => toString value
  | .float bits _ => Decimal.floatText floatWords bits
  | .text t => Text.quoted t
  | .octets .fixed o => Text.quotedOctets o
  | .octets .growing o => "bytearray(" ++ Text.quotedOctetsStrictly o ++ ")"
  | .octets .view _ => "<memory>"
  | .list items => "[" ++ commaSeparated (quotedAll items) ++ "]"
  | .tuple items => Text.inParentheses (quotedAll items)
  | .mapping entries => "\x7b" ++ commaSeparated (quotedEntries entries) ++ "\x7d"
  | .ext code data =>
    Text.withFields "ExtType" [("code", toString code.toNat), ("data", Text.quotedOctets data)]
  | .foreign _ => "<Opaque>"
  | .record r => r.text
  | .tagPayload inner content => Record.payloadText (Record.tagText inner) content
  | .draftTable name owner rows => Record.tableText name.quoted owner.quoted rows
  | .draftCoin name owners previous signatures =>
    Record.coinText name.quoted (quotedAll owners) (quotedAll previous) signatures
  | .draftKey tags publicKey _ => Record.keyText tags.quoted publicKey
  | .unknown tag => unknownText tag.quoted
  | .registered t => Record.tagText t
  | .tagFamily f => Record.familyText f
  | .config c => configText "WireConfig" c
  | .settings c => configText "WireConfigModel" c
  | .outcome o => outcomeText o

/-- Every value of a list. -/
def quotedAll : List Datum → List String
  | [] => []
  | datum :: rest => datum.quoted :: quotedAll rest

/-- Every entry of a map. -/
def quotedEntries : List (Datum × Datum) → List String
  | [] => []
  | (key, value) :: rest => (key.quoted ++ ": " ++ value.quoted) :: quotedEntries rest

end

/-- A value as a message prints it. -/
def shown : Datum → String
  | .text t => t
  | .registered t => toString t.number
  | datum => datum.quoted

end Overlay.Datum
