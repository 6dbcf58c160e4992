/-
# Overlay.Proofs.Log.Line -- the lines that events leave

A node logs an event as one line or not at all.  Which of the two, and what the line is,
depends on the levels and on the time of the node, and no event changes these.  So what
several events leave is one list of lines, put after those that are there already
(`foldl_withEvent`).

Decoding leaves events of two sorts.  The line of a message under an unregistered tag is
`unknownText`, and the line of a refused message is a `RefusedLine`: an object whose members,
in the order of their names, give the code, the reason and the variant as JSON strings.  Of
these a line gives one each, and they are those of the refusal (`refusedLine_rejected_iff`).
-/
import Overlay.Node
import Overlay.Proofs.Json.Quoted

namespace Overlay

set_option autoImplicit false

/-! ## The events of decoding -/

namespace Log.Event

/-- The line that says that a message of so many octets is under a tag that is not registered. -/
def unknownText (time : Int) (number size : Nat) : String :=
  "\x7b\"event\":\"wire_decode_unknown_tag\",\"size\":" ++ toString size ++ ",\"tag\":" ++
    toString number ++ ",\"ts_ms\":" ++ toString time ++ "\x7d"

/-- The text says what a refusal is attributed to. -/
inductive VariantText : Option String → String → Prop where
  | null : VariantText none "null"
  | text {variant string : String} (quotes : Json.Quotes variant string) :
      VariantText (some variant) string

/-- The line says that a message is refused, under this code, for this reason, and attributed to
this variant. -/
def RefusedLine (time : Int) (code reason : String) (variant : Option String) (line : String) :
    Prop :=
  ∃ codeText reasonText variantText, Json.Quotes code codeText ∧ Json.Quotes reason reasonText ∧
    VariantText variant variantText ∧
    line = "\x7b\"code\":" ++ codeText ++ ",\"event\":\"wire_decode_rejected\",\"reason\":" ++
      reasonText ++ ",\"ts_ms\":" ++ toString time ++ ",\"variant\":" ++ variantText ++ "\x7d"

/-- The line of an event whose members have a JSON form. -/
theorem line_eq_compact {time : Int} {event : Event} {json : Json}
    (form : (Datum.mapping ((event.members time).map fun member =>
      (.text member.1, member.2))).toJson? = some json) :
    event.line time = json.compact := by
  have found : event.json? time = some json.compact := congrArg (Option.map Json.compact) form
  rw [line, found, Option.getD_some]

theorem compact_unknown (time : Int) (number size : Nat) :
    Json.compact (.object [("event", .text "wire_decode_unknown_tag"), ("size", .int size),
      ("tag", .int number), ("ts_ms", .int time)]) = unknownText time number size := by
  have decimal : ∀ n : Nat, (n : Int).repr = n.repr := fun _ => rfl
  unfold unknownText
  apply String.toList_inj.1
  simp [Json.compact, Json.compactMembers, Json.commaSeparated, Json.quoted, Json.escape, decimal]

theorem line_unknownTag (time : Int) (number size : Nat) :
    (unknownTag number size).line time = unknownText time number size := by
  rw [← compact_unknown]
  apply line_eq_compact
  simp [members, unknownTag, loggable, Datum.shown, Datum.toJson?, Datum.entriesToJson?,
    Datum.sortedEntries?, Datum.text?, Datum.keyText?, List.mergeSort]

theorem compact_refused (time : Int) (code reason : String) (variant : Json) :
    Json.compact (.object [("code", .text code), ("event", .text "wire_decode_rejected"),
      ("reason", .text reason), ("ts_ms", .int time), ("variant", variant)]) =
      "\x7b\"code\":" ++ Json.quoted code ++ ",\"event\":\"wire_decode_rejected\",\"reason\":" ++
        Json.quoted reason ++ ",\"ts_ms\":" ++ toString time ++ ",\"variant\":" ++
        variant.compact ++ "\x7d" := by
  -- the names are closed texts, while the code and the reason stay quoted
  have names : Json.quoted "code" = "\"code\"" ∧ Json.quoted "event" = "\"event\"" ∧
      Json.quoted "reason" = "\"reason\"" ∧ Json.quoted "ts_ms" = "\"ts_ms\"" ∧
      Json.quoted "variant" = "\"variant\"" := by decide
  have title : Json.quoted "wire_decode_rejected" = "\"wire_decode_rejected\"" := by decide
  apply String.toList_inj.1
  simp [Json.compact, Json.compactMembers, Json.commaSeparated, names, title]

theorem line_rejected (time : Int) (refusal : Refusal) :
    RefusedLine time refusal.code refusal.report refusal.variant
      ((rejected refusal).line time) := by
  have form : (rejected refusal).line time = Json.compact (.object [
      ("code", .text refusal.code), ("event", .text "wire_decode_rejected"),
      ("reason", .text refusal.report), ("ts_ms", .int time),
      ("variant", refusal.variant.elim .null .text)]) := by
    apply line_eq_compact
    cases attributed : refusal.variant <;>
      simp [members, rejected, attributed, optionalText, loggable, Datum.shown, Datum.toJson?,
        Datum.entriesToJson?, Datum.sortedEntries?, Datum.text?, Datum.keyText?, List.mergeSort]
  have variant : VariantText refusal.variant (refusal.variant.elim Json.null .text).compact := by
    cases refusal.variant with
    | none => exact .null
    | some variant => exact .text (Json.quotes_quoted variant)
  rw [form, compact_refused]
  exact ⟨_, _, _, Json.quotes_quoted refusal.code, Json.quotes_quoted refusal.report, variant, rfl⟩

theorem VariantText.unique {variant variant' : Option String} {string : String}
    (first : VariantText variant string) (second : VariantText variant' string) :
    variant = variant' := by
  cases first with
  | null =>
      cases second with
      | null => rfl
      | text quotes => exact absurd quotes.head (by decide)
  | text quotes =>
      cases second with
      | null => exact absurd quotes.head (by decide)
      | text quotes' => rw [quotes.unique quotes']

/-- A line says that a message is refused under one code, for one reason, and attributed to one
variant. -/
theorem RefusedLine.unique {time : Int} {code code' reason reason' line : String}
    {variant variant' : Option String} (first : RefusedLine time code reason variant line)
    (second : RefusedLine time code' reason' variant' line) :
    code = code' ∧ reason = reason' ∧ variant = variant' := by
  obtain ⟨_, _, _, ⟨spelling, named, rfl⟩, ⟨telling, told, rfl⟩, attributed, rfl⟩ := first
  obtain ⟨_, _, _, ⟨spelling', named', rfl⟩, ⟨telling', told', rfl⟩, attributed', same⟩ := second
  -- the code and the reason end at their quotation marks, and what is left is the variant
  have parts := congrArg String.toList same
  simp only [String.toList_append, String.toList_ofList, String.reduceToList, List.cons_append,
    List.nil_append, List.append_assoc, List.cons.injEq, true_and] at parts
  obtain ⟨codes, parts⟩ := named.unique named' parts
  simp only [List.cons.injEq, true_and] at parts
  obtain ⟨reasons, parts⟩ := told.unique told' parts
  simp only [List.cons.injEq, true_and, List.append_cancel_left_eq,
    List.append_cancel_right_eq] at parts
  obtain rfl := String.toList_inj.1 parts
  exact ⟨String.toList_inj.1 codes, String.toList_inj.1 reasons, attributed.unique attributed'⟩

/-- The line of a refusal says what the refusal says of itself, and nothing else. -/
theorem refusedLine_rejected_iff {time : Int} {refusal : Refusal} {code reason : String}
    {variant : Option String} :
    RefusedLine time code reason variant ((rejected refusal).line time) ↔
      code = refusal.code ∧ reason = refusal.report ∧ variant = refusal.variant := by
  constructor
  · exact fun line => line.unique (line_rejected time refusal)
  · rintro ⟨rfl, rfl, rfl⟩
    exact line_rejected time refusal

end Log.Event

/-! ## The log of a node -/

namespace Node

/-- The lines that events leave in the log of a node. -/
def linesOf (node : Node) (events : List Log.Event) : List LogLine :=
  (events.filter fun event => node.logs event.level.value).map fun event =>
    ⟨event.level, event.line node.time⟩

/-- The node with more lines in its log. -/
def withLines (node : Node) (lines : List LogLine) : Node := { node with lines := node.lines ++ lines }

@[simp] theorem withLines_nil (node : Node) : node.withLines [] = node := by
  simp [withLines]

@[simp] theorem withLines_withLines (node : Node) (lines more : List LogLine) :
    (node.withLines lines).withLines more = node.withLines (lines ++ more) := by
  simp [withLines]

/-- What is in the log already has no part in what is logged. -/
@[simp] theorem linesOf_withLines (node : Node) (lines : List LogLine) (events : List Log.Event) :
    (node.withLines lines).linesOf events = node.linesOf events := rfl

@[simp] theorem linesOf_nil (node : Node) : node.linesOf [] = [] := rfl

theorem linesOf_append (node : Node) (events more : List Log.Event) :
    node.linesOf (events ++ more) = node.linesOf events ++ node.linesOf more := by
  simp [linesOf]

theorem linesOf_singleton (node : Node) (event : Log.Event) :
    node.linesOf [event] =
      if node.logs event.level.value then [⟨event.level, event.line node.time⟩] else [] := by
  unfold linesOf
  cases logged : node.logs event.level.value <;> simp [logged]

theorem withEvent_eq_withLines (node : Node) (event : Log.Event) :
    node.withEvent event = node.withLines (node.linesOf [event]) := by
  rw [withEvent, linesOf_singleton]
  split
  · rfl
  · exact (withLines_nil node).symm

/-- Several events leave their lines in order, and nothing else. -/
theorem foldl_withEvent (events : List Log.Event) (node : Node) :
    events.foldl withEvent node = node.withLines (node.linesOf events) := by
  induction events generalizing node with
  | nil => simp
  | cons event events ih =>
      have parts : node.linesOf (event :: events) = node.linesOf [event] ++ node.linesOf events :=
        node.linesOf_append [event] events
      rw [List.foldl_cons, ih, withEvent_eq_withLines, linesOf_withLines, withLines_withLines, parts]

theorem linesOf_unknownTag (node : Node) (number size : Nat) :
    node.linesOf [.unknownTag number size] =
      if node.effectiveLevel ≤ 20 then
        [⟨.number 20, Log.Event.unknownText node.time number size⟩] else [] := by
  have level : (Log.Event.unknownTag number size).level = .number 20 := rfl
  have logged : node.logs 20 = decide (node.effectiveLevel ≤ 20) := by simp [logs]
  rw [linesOf_singleton, Log.Event.line_unknownTag, level, Log.Severity.value, logged]
  simp

theorem linesOf_rejected (node : Node) (refusal : Refusal) :
    node.linesOf [.rejected refusal] =
      if node.effectiveLevel ≤ 30 then
        [⟨.number 30, (Log.Event.rejected refusal).line node.time⟩] else [] := by
  have level : (Log.Event.rejected refusal).level = .number 30 := rfl
  have logged : node.logs 30 = decide (node.effectiveLevel ≤ 30) := by simp [logs]
  rw [linesOf_singleton, level, Log.Severity.value, logged]
  simp

end Node

end Overlay
