/-
# Overlay.Proofs.Node.Reporting -- the text of a refusal

What a message holds gets into the text of its refusal at a few places: the start of a text
that should be a tag, the numbers that are read, how long things are, and what sort they are
of.  A log takes the text as it is, so at each of them it must be short and printable.

`Item.Inside` bounds what an item inside a message can be: how long it is, and how many
items it holds.  So what the checks of the fields look at is bounded too, and every refusal
is put together of texts of 32 characters each, but for the one text in quotation marks.  All
of it is safe to show (`safe_message_of_refused`).
-/
import Overlay.Proofs.Message.Checks
import Overlay.Proofs.Message.Grammar
import Overlay.Proofs.Node.Attribution
import Overlay.Proofs.Text.Safety

namespace Overlay

set_option autoImplicit false

open MessagePack (Item maxDepth)
open Text (Safe safe_nat safe_int safe_intercalate safe_quoted)

/-! ## Items inside a message -/

namespace MessagePack

/-- Each of several things has its form among theirs. -/
theorem Sequence.length_le_of_mem {α : Type} {form : α → Octets → Prop} {things : List α}
    {octets : Octets} (h : Sequence form things octets) {thing : α} (member : thing ∈ things) :
    ∃ front, form thing front ∧ front.length ≤ octets.length := by
  induction h with
  | nil => cases member
  | cons first rest ih =>
      rw [List.length_append]
      obtain rfl | later := List.mem_cons.1 member
      · exact ⟨_, first, by omega⟩
      · obtain ⟨front, formed, shorter⟩ := ih later
        exact ⟨front, formed, by omega⟩

namespace Item

/-- The item has a form of at most so many octets. -/
def Inside (limit : Nat) (item : Item) : Prop :=
  ∃ depth form, Form depth item form ∧ form.length ≤ limit

variable {limit : Nat}

theorem Form.inside {depth : Nat} {item : Item} {form : Octets} (h : Form depth item form)
    (short : form.length ≤ limit) : item.Inside limit := ⟨depth, form, h, short⟩

theorem Inside.array {items : List Item} (h : (Item.array items).Inside limit) :
    items.length ≤ limit ∧ ∀ item ∈ items, item.Inside limit := by
  obtain ⟨depth, form, h, short⟩ := h
  cases depth with
  | zero => cases h with | array opens => cases opens
  | succ depth =>
      cases h with
      | array opens head held =>
        cases opens
        rw [List.length_append] at short
        constructor
        · have := held.length_mul_le fun item front formed => Form.length_pos formed
          omega
        · intro item member
          obtain ⟨front, formed, shorter⟩ := held.length_le_of_mem member
          exact ⟨depth, front, formed, by omega⟩

theorem Inside.bin {data : Octets} (h : (Item.bin data).Inside limit) : data.length ≤ limit := by
  obtain ⟨depth, form, h, short⟩ := h
  have whole : ∀ inner, FormOver inner (.bin data) form → data.length ≤ form.length := by
    intro inner h
    cases h
    rw [List.length_append]
    omega
  cases depth with
  | zero => exact Nat.le_trans (whole _ h) short
  | succ depth => exact Nat.le_trans (whole _ h) short

/-- An integer in a message has 64 bits. -/
theorem Inside.int {value : Int} (h : (Item.int value).Inside limit) :
    -(2 ^ 63) ≤ value ∧ value < 2 ^ 64 := by
  obtain ⟨depth, form, h, -⟩ := h
  have headed : ∀ inner, FormOver inner (.int value) form → Head.Form (.int value) form := by
    intro inner h
    cases h with
    | int head => exact head
  have head : Head.Form (.int value) form := by
    cases depth with
    | zero => exact headed _ h
    | succ depth => exact headed _ h
  simpa [Head.fits] using head.fits

end Item

end MessagePack

/-- Every sort of item has a short name. -/
theorem MessagePack.Item.safe_typeName (item : Item) : Safe 32 item.typeName := by
  unfold Item.typeName
  split <;> decide

/-! ## Tags that cannot be read -/

namespace Tag

theorem safe_title (tag : Tag) : Safe 32 tag.title := by
  have each : ∀ tag ∈ all, Safe 32 tag.title := by decide
  exact each tag tag.mem_all

theorem safe_sort (tag : Tag) : Safe 32 tag.sort := by
  have each : ∀ tag ∈ all, Safe 32 tag.sort := by decide
  exact each tag tag.mem_all

theorem length_excerpt_le (text : List Char) : (excerpt text).length ≤ 32 := by
  rw [excerpt, String.length_ofList, List.length_take]
  exact Nat.min_le_left _ _

/-- The start of a text of digits needs no quotation marks. -/
theorem safe_excerpt {text : List Char} {digits : List Nat}
    (read : text.mapM Text.asciiDigit? = some digits) : Safe 32 (excerpt text) := by
  refine ⟨length_excerpt_le text, fun c member => ?_⟩
  rw [excerpt, String.toList_ofList] at member
  obtain ⟨small, rfl⟩ := Text.mapM_asciiDigit?_eq_some_iff.1 read
  obtain ⟨digit, known, rfl⟩ := List.mem_map.1 (List.mem_of_mem_take member)
  have each : ∀ digit, digit < 10 → Text.isPrintable (Nat.digitChar digit) = true := by decide
  exact each digit (small digit known)

theorem safe_notNumeric (text : List Char) :
    Safe 354 (TagFault.message (.notNumeric (excerpt text))) := by
  have short := length_excerpt_le text
  have shown : Safe 322 (Text.quoted (excerpt text)) := (safe_quoted _).mono (by omega)
  exact (by decide : Safe 32 "non-numeric tag text: ").append shown

theorem safe_message_of_readText {text : List Char} {fault : TagFault}
    (h : readText text = .error (.refused fault)) : Safe 354 fault.message := by
  unfold readText at h
  split at h
  · cases h
    exact safe_notNumeric text
  · next digits read =>
    dsimp only at h
    split_ifs at h
    · cases h
      exact safe_notNumeric text
    · cases h
    · cases h
      exact ((by decide : Safe 32 "tag out of u64 range: ").append (safe_excerpt read)).mono
        (by decide)

/-- Whatever item is refused as a tag, the text says so safely. -/
theorem safe_message_of_read {limit : Nat} {acceptText : Bool} {item : Item} {fault : TagFault}
    (inside : item.Inside limit) (h : read acceptText (.ofItem item) = .error (.refused fault)) :
    Safe 354 fault.message := by
  have sorted : ∀ item : Item, Safe 354 (TagFault.message (.wrongType item.typeName)) := by
    intro item
    exact ((by decide : Safe 32 "invalid tag type: ").append item.safe_typeName).mono (by decide)
  cases item with
  | bool value =>
      cases h
      decide
  | int value =>
      simp only [RawTag.ofItem, read] at h
      split_ifs at h
      cases h
      obtain ⟨low, high⟩ := inside.int
      have digits : Safe 21 (toString value) := safe_int (by omega) high
      exact ((by decide : Safe 32 "tag out of u64 range: ").append digits).mono (by decide)
  | str text =>
      simp only [RawTag.ofItem, read] at h
      split_ifs at h
      · exact safe_message_of_readText h
      · cases h
        exact sorted (.str text)
  | bin octets =>
      simp only [RawTag.ofItem, read] at h
      split_ifs at h
      · exact safe_message_of_readText h
      · cases h
        decide
      · cases h
        exact sorted (.bin octets)
  | nil | float | array | map | ext | time =>
      cases h
      exact sorted _

end Tag

namespace Message

/-! ## Fields of the wrong shape -/

variable {limit : Nat} {acceptText : Bool} {tag : Tag} {refusal : Refusal} {fields : List Item}

/-- What the fields hold is inside the message that they are inside of. -/
theorem Holds.inside {item : Item} (holds : Holds fields item)
    (held : (Item.array fields).Inside limit) : item.Inside limit := by
  induction holds with
  | field member => exact held.array.2 _ member
  | element _ member ih => exact ih.array.2 _ member

theorem safe_rowName {index : Nat} (small : index < 2 ^ 64) : Safe 32 (rowName index) :=
  (((by decide : Safe 6 "value[").append (safe_nat small)).append (by decide : Safe 1 "]")).mono
    (by decide)

/-- Fields have short names. -/
theorem Named.safe {name : String} (few : limit < 2 ^ 64)
    (held : (Item.array fields).Inside limit) (named : Named fields name) : Safe 32 name := by
  cases named with
  | field known =>
      have each : ∀ name ∈ fieldNames, Safe 32 name := by decide
      exact each name known
  | row array below =>
      have short := (array.inside held).array.1
      exact safe_rowName (by omega)

theorem safe_sizeMismatch {size actual : Nat} {field : String} (small : size ≤ 64)
    (short : Safe 32 field) (few : actual < 2 ^ 64) :
    Safe 448 (SizeMismatch.of size actual field).message := by
  have stated : Safe 20 (toString size) := safe_nat (by omega)
  have place : Safe 96 (if field = "" then "" else " for '" ++ field ++ "'") := by
    split_ifs
    · decide
    · exact ((by decide : Safe 32 " for '").append short).append (by decide : Safe 32 "'")
  exact ((((((by decide : Safe 32 "expected ").append stated).append
    (by decide : Safe 32 " bytes")).append place).append
    (by decide : Safe 32 ", got ")).append (safe_nat few)).mono (by decide)

/-- A report that names the sort of record and a field, and the sort of item that is there. -/
theorem safe_wrongSort {label field : String} {item : Item} (plain : Safe 32 label)
    (short : Safe 32 field) :
    Safe 512 (tag.sort ++ ": field '" ++ field ++ label ++ item.typeName) :=
  ((((tag.safe_sort.append (by decide : Safe 32 ": field '")).append short).append plain).append
    item.safe_typeName).mono (by decide)

theorem safe_tuple {numbers : List Nat} (each : ∀ number ∈ numbers, number < Tag.bound) :
    Safe (40 * numbers.length + 2) (Refusal.tuple numbers) := by
  have shown : ∀ text ∈ numbers.map toString, Safe 20 text := by
    intro text member
    obtain ⟨number, known, rfl⟩ := List.mem_map.1 member
    exact safe_nat (each number known)
  have between := safe_intercalate (by decide : Safe 20 ", ") shown
  rw [List.length_map] at between
  exact (((by decide : Safe 1 "(").append between).append (by decide : Safe 1 ")")).mono (by omega)

theorem lt_bound_of_mem_numbersOf {items : List Item} {number : Nat}
    (h : number ∈ numbersOf acceptText items) : number < Tag.bound := by
  obtain ⟨item, -, read⟩ := List.mem_filterMap.1 h
  cases found : Tag.read acceptText (.ofItem item) with
  | ok other =>
      rw [found] at read
      cases read
      exact (Tag.read_eq_ok_iff.1 found).1
  | error problem =>
      rw [found] at read
      cases read

/-- What a failed check reports is safe. -/
theorem Check.safe_message {check : Check} (few : limit < 2 ^ 64)
    (held : (Item.array fields).Inside limit) (under : check.Under tag fields)
    (fails : check.failure? tag acceptText = some (.refused refusal)) :
    Safe 512 refusal.message := by
  cases under with
  | @count expected small =>
      have short := held.array.1
      simp only [failure?, Option.ite_none_left_eq_some, Option.some.injEq] at fails
      obtain ⟨-, ⟨⟩⟩ := fails
      have asked : Safe 20 (toString expected) := safe_nat (by omega)
      have found : Safe 20 (toString fields.length) := safe_nat (by omega)
      exact ((((tag.safe_sort.append (by decide : Safe 32 ": expected ")).append asked).append
        (by decide : Safe 32 " fields, got ")).append found).mono (by decide)
  | @sized size field item small named holds =>
      have reported : ∀ actual < 2 ^ 64,
          Safe 512 (tag.title ++ ": " ++ (SizeMismatch.of size actual field).message) :=
        fun actual few => (tag.safe_title.append (by decide : Safe 32 ": ")).append
          (safe_sizeMismatch small (named.safe ‹limit < 2 ^ 64› held) few)
      obtain ⟨mismatch, found, ⟨⟩⟩ := Option.map_eq_some_iff.1 fails
      cases item with
      | bin octets =>
          simp only [mismatch?, Option.ite_none_left_eq_some, Option.some.injEq] at found
          obtain ⟨-, rfl⟩ := found
          exact reported _ (Nat.lt_of_le_of_lt (holds.inside held).bin few)
      | _ =>
          cases found
          exact reported 0 (by decide)
  | @octets field item named =>
      have reported : ∀ item : Item, Safe 512
          (Refusal.message (.fieldNotOctets tag field item.typeName)) :=
        fun item => safe_wrongSort (by decide : Safe 32 "' must be bytes, got ")
          (named.safe few held)
      cases item <;> cases fails <;> exact reported _
  | @array field item named =>
      have reported : ∀ item : Item, Safe 512
          (Refusal.message (.fieldNotArray tag field item.typeName)) :=
        fun item => safe_wrongSort (by decide : Safe 32 "' must be an array, got ")
          (named.safe few held)
      cases item <;> cases fails <;> exact reported _
  | @number item _ holds =>
      simp only [failure?] at fails
      split at fails
      · cases fails
      · next problem unread =>
        cases problem with
        | refused fault =>
            cases fails
            exact (Tag.safe_message_of_read (holds.inside held) unread).mono (by decide)
        | oversized => cases fails
  | @three items _ holds =>
      simp only [failure?, Option.ite_none_left_eq_some, Option.some.injEq] at fails
      obtain ⟨-, ⟨⟩⟩ := fails
      have found : Safe 20 (toString items.length) :=
        safe_nat (Nat.lt_of_le_of_lt (holds.inside held).array.1 few)
      exact ((tag.safe_sort.append (by decide : Safe 32 ": expected 3 family tags, got ")).append
        found).mono (by decide)
  | @triple family items _ three =>
      simp only [failure?, Option.ite_none_left_eq_some, Option.some.injEq] at fails
      obtain ⟨-, ⟨⟩⟩ := fails
      have three : (numbersOf acceptText items).length ≤ 3 :=
        (List.length_filterMap_le _ items).trans_eq three
      have numbers : Safe 122 (Refusal.tuple (numbersOf acceptText items)) :=
        (safe_tuple fun number => lt_bound_of_mem_numbersOf).mono (by omega)
      have own : Safe 20 (toString tag.number) := safe_nat tag.number_lt_bound
      exact ((((tag.safe_sort.append (by decide : Safe 32 ": family tags ")).append numbers).append
        (by decide : Safe 32 " do not match leading tag ")).append own).mono (by decide)

/-! ## Refusals of a message -/

variable {scheme : Scheme} {config : Config} {message rest : Octets}

theorem Framed.inside (framed : Framed acceptText tag fields message) :
    (Item.array fields).Inside message.length := by
  obtain ⟨-, -, body⟩ := framed
  exact body.inside (by simp)

theorem safe_message_of_readTag (h : readTag acceptText message = .error (.refused refusal)) :
    Safe 512 refusal.message := by
  unfold readTag at h
  split at h
  · cases h
    decide
  · cases h
    decide
  · cases h
    exact (by decide : Safe 512 "invalid type tag")
  · next item after read =>
    obtain ⟨form, -, formed⟩ := (MessagePack.readItem_eq_ok_iff (limitOf_le message)).1 read
    split at h
    · cases h
    · next problem unread =>
      cases problem with
      | refused fault =>
          cases h
          exact (Tag.safe_message_of_read (formed.inside (Nat.le_refl _)) unread).mono (by decide)
      | oversized => cases h

theorem safe_message_of_readFields (part : rest.length ≤ limit) (few : rest.length < 2 ^ 64)
    (h : readFields limit rest = .error (.refused refusal)) : Safe 512 refusal.message := by
  unfold readFields at h
  split at h
  · cases h
    decide
  · cases h
    exact (by decide : Safe 512 "invalid fields")
  · next item read =>
    cases item with
    | array fields => cases h
    | _ =>
      cases h
      exact ((by decide : Safe 32 "fields must be an array, got ").append
        (Item.safe_typeName _)).mono (by decide)
  · next item trailing nonempty read =>
    cases h
    obtain ⟨form, split, -⟩ := (MessagePack.readItem_eq_ok_iff part).1 read
    have count : Safe 20 (toString trailing.length) := by
      refine safe_nat ?_
      rw [split, List.length_append] at few
      omega
    exact ((by decide : Safe 32 "trailing bytes after fields: ").append count).mono (by decide)

theorem safe_message_of_recordOf (few : limit < 2 ^ 64)
    (held : (Item.array fields).Inside limit)
    (h : recordOf scheme acceptText tag fields = .error (.refused refusal)) :
    Safe 512 refusal.message := by
  obtain shape | ⟨record, -, -, -, ⟨⟩⟩ := recordOf_eq_error_iff.1 h
  · rw [recordOf_lenient_eq_error_iff, List.findSome?_eq_some_iff] at shape
    obtain ⟨before, check, after, split, fails, -⟩ := shape
    have member : check ∈ checks tag fields := by simp [split]
    exact Check.safe_message few held (under_of_mem_checks check member) fails
  · have signed : Safe 32 (Refusal.signatureName tag) := by
      unfold Refusal.signatureName
      split <;> decide
    exact (((tag.safe_sort.append (by decide : Safe 32 ": ")).append signed).append
      (by decide : Safe 32 " does not verify")).mono (by decide)

/-- The text of a refusal is safe, if sizes have 64 bits. -/
theorem safe_message_of_refused (few : message.length < 2 ^ 64)
    (positive : 0 < config.maxMessageBytes) (bounded : config.maxMessageBytes < 2 ^ 64)
    (h : decode scheme config message = .error (.refused refusal)) : Safe 512 refusal.message := by
  by_cases small : (message.length : Int) ≤ config.maxMessageBytes
  · obtain leading | ⟨tag, rest, leading, following⟩ | ⟨tag, fields, framed, building⟩ :=
      (decode_eq_error_iff small).1 h
    · exact safe_message_of_readTag leading
    · obtain ⟨item, form, split, -⟩ := readTag_eq_ok_iff.1 leading
      have shorter : rest.length ≤ message.length := by simp [split]
      exact safe_message_of_readFields (Nat.le_trans shorter (limitOf_le message)) (by omega)
        following
    · exact safe_message_of_recordOf few framed.inside building
  · rw [decode_of_too_large (by omega), Except.error.injEq, tooLarge_eq_refused_iff] at h
    obtain ⟨-, rfl⟩ := h
    have limit : Safe 21 (toString config.maxMessageBytes) := safe_int (by omega) bounded
    exact ((((by decide : Safe 32 "message too large: ").append (safe_nat few)).append
      (by decide : Safe 32 " > ")).append limit).mono (by decide)

end Message

/-! ## What is told -/

/-- A report is a text with nothing after it, unless that says that a part cannot be read. -/
theorem Refusal.report_cases (refusal : Refusal) :
    refusal.report = refusal.message ∨ ∃ (part : Part) (detail : String),
      refusal.message = "invalid " ++ part.title ∧ refusal.report = refusal.message ++ detail := by
  cases refusal with
  | unreadable part limit fault =>
      refine .inr ⟨part, ": " ++ fault.text limit, rfl, ?_⟩
      rw [← String.append_assoc]
      rfl
  | _ => exact .inl rfl

namespace Node

/-- The text of a refusal is of 512 characters at most and printable, and it is all that is reported
but for what makes a part of the message unreadable. -/
theorem refusals_safe_to_log (scheme : Scheme) {config : Config} {message : Octets} {node : Node}
    {refusal : Refusal} (few : message.length < 2 ^ 64) (positive : 0 < config.maxMessageBytes)
    (bounded : config.maxMessageBytes < 2 ^ 64)
    (ended : ending scheme config message node = .error (.refused refusal)) :
    refusal.message.length ≤ 512 ∧
      (∀ c ∈ refusal.message.toList, Text.isPrintable c = true) ∧
      (refusal.report = refusal.message ∨ ∃ (part : Part) (detail : String),
        refusal.message = "invalid " ++ part.title ∧
          refusal.report = refusal.message ++ detail) := by
  have safe : Safe 512 refusal.message :=
    Message.safe_message_of_refused few positive bounded (ending_eq_refused_iff.1 ended)
  exact ⟨safe.length_le, safe.printable, refusal.report_cases⟩

/-- A message whose tag is a line break and a mark that turns the direction of text. -/
def turningTag : Octets := [0xA4] ++ "\n\u202E".toUTF8.data.toList ++ [0x90]

theorem ending_turningTag :
    ending .lenient {} turningTag {} =
      .error (.refused (.leadingTag (.notNumeric "\n\u202E"))) := by
  have lead : Item.Form maxDepth (.str "\n\u202E") ([0xA4] ++ "\n\u202E".toUTF8.data.toList) :=
    .str (.shortStr (by decide))
  have found := (MessagePack.readItem_eq_ok_iff (Message.limitOf_le turningTag)).2
    ⟨_, rfl, lead⟩
  have leading : Message.readTag true turningTag =
      .error (.refused (.leadingTag (.notNumeric "\n\u202E"))) := by
    rw [Message.readTag, found]
    rfl
  exact ending_eq_refused_iff.2
    ((Message.decode_eq_error_iff (by decide)).2 (.inl leading))

/-- The report shows neither of the two as it is. -/
theorem refusals_safe_to_log_turningTag :
    ending .lenient {} turningTag {} =
        .error (.refused (.leadingTag (.notNumeric "\n\u202E"))) ∧
      ∀ c ∈ (Refusal.message (.leadingTag (.notNumeric "\n\u202E"))).toList,
        Text.isPrintable c = true := by
  obtain ⟨-, printable, -⟩ := refusals_safe_to_log .lenient (by decide) (by decide) (by decide)
    ending_turningTag
  exact ⟨ending_turningTag, printable⟩

end Node

end Overlay
