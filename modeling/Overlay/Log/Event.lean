/-
# Overlay.Log.Event — events and the line that each leaves

An event has a level, a title and fields by name.  Its line is a JSON object of the
title, the time and the fields, in the order of the names; octets in a field are
written in hexadecimal.  Where a field has no JSON form, the line is the title and
the fields as text instead.

Decoding leaves two kinds of event: a message under a tag that is not registered, and
a message that is refused.
-/
import Overlay.Datum.Json
import Overlay.Datum.Text
import Overlay.Log.Level
import Overlay.Message.Refusal

namespace Overlay.Log

set_option autoImplicit false

/-- Something that happened. -/
structure Event where
  level : Severity
  title : Datum
  fields : List (String × Datum)

namespace Event

/-- A message of so many octets is under a tag that is not registered. -/
def unknownTag (number size : Nat) : Event :=
  ⟨.ofLevel .info, .text "wire_decode_unknown_tag",
    [("tag", .int number), ("size", .int size)]⟩

/-- A text, or nothing. -/
def optionalText : Option String → Datum
  | some text => .text text
  | none => .none

/-- A message is refused. -/
def rejected (refusal : Refusal) : Event :=
  ⟨.ofLevel .warning, .text "wire_decode_rejected",
    [("code", .text refusal.code), ("variant", optionalText refusal.variant),
      ("reason", .text refusal.report)]⟩

/-- A field as it is logged: octets in hexadecimal. -/
def loggable : Datum → Datum
  | .octets .fixed octets | .octets .growing octets => .text (Octets.toHex octets)
  | datum => datum

/-- The members of the line of an event at the given time; a field takes the place of a member that
has its name. -/
def members (time : Int) (event : Event) : List (String × Datum) :=
  let given := event.fields.map fun (name, datum) => (name, loggable datum)
  [("ts_ms", Datum.int time), ("event", .text event.title.shown)].filter
    (fun member => !given.any (·.1 == member.1)) ++ given

/-- The line of an event whose fields have a JSON form. -/
def json? (time : Int) (event : Event) : Option String :=
  (Datum.mapping ((event.members time).map fun (name, datum) => (.text name, datum))).toJson?.map
    Json.compact

/-- The line of any event: the title and the fields as text, in the order of their names. -/
def plain (event : Event) : String :=
  let fields := event.fields.mergeSort fun a b => a.1 ≤ b.1
  String.intercalate " " (("event=" ++ event.title.shown) ::
    fields.map fun (name, datum) => name ++ "=" ++ datum.quoted)

/-- The line that an event leaves at the given time, in milliseconds. -/
def line (time : Int) (event : Event) : String := (event.json? time).getD event.plain

end Event

end Overlay.Log
