/-
# Overlay.Proofs.Message.Grammar -- the messages that are decoded

`Message.Written` is the grammar of messages: a form of an item that spells the tag of a
record, and then a form of an array of items that describe the record, with nothing after
it.

`Message.decode` takes the messages of this grammar that are not too large and whose
record verifies, and gives the record (`decode_eq_record_iff`).  A message of the grammar
whose record does not verify is refused for its signature, and no other message is
(`decode_eq_badSignature_iff`).  The one way to end that is neither a result nor a refusal,
at a number of too many digits, is told by `Message.Unconvertible`
(`decode_eq_oversized_iff`).
-/
import Overlay.Message.Decode
import Overlay.Proofs.Message.ShapeFailure
import Overlay.Proofs.MessagePack.Reading

namespace Overlay.Message

set_option autoImplicit false

open MessagePack (Item maxDepth readItem_eq_ok_iff)

/-! ## The two parts of a message -/

section Parts

variable {acceptText : Bool} {message rest : Octets} {number limit : Nat}

theorem limitOf_le (message : Octets) : message.length ≤ limitOf message :=
  Nat.le_max_left _ _

/-- A tag number is read off the front of a message in any form of any spelling. -/
theorem readTag_eq_ok_iff :
    readTag acceptText message = .ok (number, rest) ↔
      ∃ item form, message = form ++ rest ∧ Item.Form maxDepth item form ∧
        number < Tag.bound ∧ Tag.Spelling acceptText number item := by
  simp only [readTag, ← Tag.read_eq_ok_iff]
  constructor
  · intro h
    split at h
    · cases h
    · cases h
    · cases h
    · next item after read =>
      split at h
      · next spelled =>
        cases h
        obtain ⟨form, split, h⟩ := (readItem_eq_ok_iff (limitOf_le message)).1 read
        exact ⟨item, form, split, h, spelled⟩
      · cases h
  · rintro ⟨item, form, split, h, spelled⟩
    rw [(readItem_eq_ok_iff (limitOf_le message)).2 ⟨form, split, h⟩]
    simp only [spelled]

theorem readTag_eq_oversized_iff :
    readTag acceptText message = .error .oversizedNumeral ↔
      acceptText = true ∧ ∃ item form rest, message = form ++ rest ∧
        Item.Form maxDepth item form ∧ Tag.LongNumeral item := by
  simp only [readTag]
  constructor
  · intro h
    split at h
    · cases h
    · cases h
    · cases h
    · next item after read =>
      obtain ⟨form, split, h'⟩ := (readItem_eq_ok_iff (limitOf_le message)).1 read
      split at h
      · cases h
      · next problem found =>
        cases problem with
        | refused fault => cases h
        | oversized =>
            obtain ⟨accepted, long⟩ := Tag.read_eq_oversized_iff.1 found
            exact ⟨accepted, item, form, after, split, h', long⟩
  · rintro ⟨accepted, item, form, rest, split, h, long⟩
    rw [(readItem_eq_ok_iff (limitOf_le message)).2 ⟨form, split, h⟩]
    simp only [Tag.read_eq_oversized_iff.2 ⟨accepted, long⟩]
    rfl

/-- The rest of a message is read as fields where it is a form of one array. -/
theorem readFields_eq_ok_iff {fields : List Item} (part : rest.length ≤ limit) :
    readFields limit rest = .ok fields ↔ Item.Form maxDepth (.array fields) rest := by
  unfold readFields
  constructor
  · intro h
    split at h
    · cases h
    · cases h
    · next item read =>
      obtain ⟨form, split, h'⟩ := (readItem_eq_ok_iff part).1 read
      rw [List.append_nil] at split
      split at h
      · cases h
        rwa [split]
      · cases h
    · cases h
  · intro h
    rw [(readItem_eq_ok_iff part).2 ⟨rest, (List.append_nil rest).symm, h⟩]

/-- A refusal of a part of a message is attributed to no sort of record. -/
theorem variant_of_readTag {refusal : Refusal}
    (h : readTag acceptText message = .error (.refused refusal)) : refusal.variant = none := by
  unfold readTag at h
  split at h
  · cases h
    rfl
  · cases h
    rfl
  · cases h
    rfl
  · split at h
    · cases h
    · next problem _ =>
      cases problem with
      | refused fault =>
          cases h
          rfl
      | oversized => cases h

/-- Fields that cannot be read are malformed. -/
theorem readFields_error {failure : Failure} (h : readFields limit rest = .error failure) :
    ∃ refusal, failure = .refused refusal ∧ refusal.variant = none ∧
      refusal.kind = .malformed := by
  unfold readFields at h
  split at h
  · cases h
    exact ⟨_, rfl, rfl, rfl⟩
  · cases h
    exact ⟨_, rfl, rfl, rfl⟩
  · split at h
    · cases h
    · cases h
      exact ⟨_, rfl, rfl, rfl⟩
  · cases h
    exact ⟨_, rfl, rfl, rfl⟩

/-- The message is a form of a spelling of the tag, and then a form of the array of the fields. -/
inductive Framed (acceptText : Bool) (tag : Tag) (fields : List Item) : Octets → Prop where
  | mk {number : Item} {front back : Octets} (lead : Item.Form maxDepth number front)
      (spelled : Tag.Spelling acceptText tag.number number)
      (body : Item.Form maxDepth (.array fields) back) :
      Framed acceptText tag fields (front ++ back)

theorem framed_iff {tag : Tag} {fields : List Item} :
    Framed acceptText tag fields message ↔
      ∃ rest, readTag acceptText message = .ok (tag.number, rest) ∧
        readFields (limitOf message) rest = .ok fields := by
  constructor
  · rintro ⟨lead, spelled, body⟩
    refine ⟨_, readTag_eq_ok_iff.2 ⟨_, _, rfl, lead, tag.number_lt_bound, spelled⟩, ?_⟩
    refine (readFields_eq_ok_iff ?_).2 body
    have := limitOf_le
    simp only [limitOf, List.length_append]
    omega
  · rintro ⟨rest, leading, following⟩
    obtain ⟨number, form, rfl, lead, -, spelled⟩ := readTag_eq_ok_iff.1 leading
    refine .mk lead spelled ((readFields_eq_ok_iff ?_).1 following)
    simp only [limitOf, List.length_append]
    omega

end Parts

/-! ## A limit that is exceeded -/

/-- The limit is negative and has more digits than are written. -/
def UnwrittenLimit (limit : Int) : Prop := limit ≤ -(10 ^ 4300)

section Limit

variable {limit : Int} {size : Nat}

theorem tooLarge_eq_oversized_iff :
    tooLarge limit size = .oversizedNumeral ↔ UnwrittenLimit limit := by
  change _ ↔ limit ≤ -(10 ^ Text.maxDigits)
  unfold tooLarge
  split
  · next long => simp [long]
  · next short => simp [short]

theorem tooLarge_eq_refused_iff {refusal : Refusal} :
    tooLarge limit size = .refused refusal ↔
      ¬ UnwrittenLimit limit ∧ refusal = .tooLarge size (toString limit) := by
  change _ ↔ ¬ limit ≤ -(10 ^ Text.maxDigits) ∧ _
  unfold tooLarge
  split
  · next long => simp [long]
  · next short => simp [short, eq_comm]

theorem UnwrittenLimit.neg (unwritten : UnwrittenLimit limit) : limit < 0 :=
  Int.lt_of_le_of_lt unwritten (Int.neg_neg_of_pos (Int.pow_pos (by decide)))

theorem tooLarge_of_nonneg (nonneg : 0 ≤ limit) (size : Nat) :
    tooLarge limit size = .refused (.tooLarge size (toString limit)) :=
  tooLarge_eq_refused_iff.2 ⟨fun unwritten => Int.not_lt.2 nonneg unwritten.neg, rfl⟩

end Limit

/-! ## Decoding, step by step -/

section Decoding

variable {scheme : Scheme} {config : Config} {message : Octets}

/-- A message of the allowed size is decoded by its tag and, where that is registered, by its
fields. -/
theorem decode_of_size (small : (message.length : Int) ≤ config.maxMessageBytes) :
    decode scheme config message =
      readTag config.acceptTextTags message >>= fun (number, rest) =>
        match Tag.ofNumber? number with
        | none => .ok (.unknown number)
        | some tag =>
          readFields (limitOf message) rest >>= fun fields =>
            recordOf scheme config.acceptTextTags tag fields >>= fun record =>
              .ok (.record record) := by
  unfold decode
  rw [if_neg (by omega)]
  rfl

theorem decode_of_too_large (large : config.maxMessageBytes < message.length) :
    decode scheme config message =
      .error (tooLarge config.maxMessageBytes message.length) := by
  unfold decode
  rw [if_pos large]
  rfl

/-- A record is decoded from the fields under its tag. -/
theorem decode_eq_record_iff_recordOf {record : Record} :
    decode scheme config message = .ok (.record record) ↔
      (message.length : Int) ≤ config.maxMessageBytes ∧
        ∃ tag fields, Framed config.acceptTextTags tag fields message ∧
          recordOf scheme config.acceptTextTags tag fields = .ok record := by
  by_cases small : (message.length : Int) ≤ config.maxMessageBytes
  · simp only [small, true_and, decode_of_size small, bind_eq_ok_iff, framed_iff]
    constructor
    · rintro ⟨⟨number, rest⟩, leading, h⟩
      dsimp only at h
      split at h
      · cases h
      · next tag known =>
        simp only [bind_eq_ok_iff] at h
        obtain ⟨fields, following, _, built, ⟨⟩⟩ := h
        rw [← Tag.number_of_ofNumber? known] at leading
        exact ⟨tag, fields, ⟨rest, leading, following⟩, built⟩
    · rintro ⟨tag, fields, ⟨rest, leading, following⟩, built⟩
      refine ⟨_, leading, ?_⟩
      simp only [Tag.ofNumber?_number, bind_eq_ok_iff]
      exact ⟨fields, following, record, built, rfl⟩
  · rw [decode_of_too_large (by omega)]
    simp [small]

/-- A failure is one of the size, of the leading tag, of the array of fields, or of the fields. -/
theorem decode_eq_error_iff {failure : Failure}
    (small : (message.length : Int) ≤ config.maxMessageBytes) :
    decode scheme config message = .error failure ↔
      readTag config.acceptTextTags message = .error failure ∨
      (∃ tag rest, readTag config.acceptTextTags message = .ok (Tag.number tag, rest) ∧
        readFields (limitOf message) rest = .error failure) ∨
      ∃ tag fields, Framed config.acceptTextTags tag fields message ∧
        recordOf scheme config.acceptTextTags tag fields = .error failure := by
  simp only [decode_of_size small, bind_eq_error_iff, framed_iff]
  refine or_congr_right ?_
  constructor
  · rintro ⟨⟨number, rest⟩, leading, h⟩
    dsimp only at h
    split at h
    · cases h
    · next tag known =>
      rw [← Tag.number_of_ofNumber? known] at leading
      simp only [bind_eq_error_iff] at h
      obtain h | ⟨fields, following, h | ⟨_, _, ⟨⟩⟩⟩ := h
      · exact .inl ⟨tag, rest, leading, h⟩
      · exact .inr ⟨tag, fields, ⟨rest, leading, following⟩, h⟩
  · rintro (⟨tag, rest, leading, h⟩ | ⟨tag, fields, ⟨rest, leading, following⟩, h⟩)
    · refine ⟨_, leading, ?_⟩
      simp only [Tag.ofNumber?_number, bind_eq_error_iff]
      exact .inl h
    · refine ⟨_, leading, ?_⟩
      simp only [Tag.ofNumber?_number, bind_eq_error_iff]
      exact .inr ⟨fields, following, .inl h⟩

end Decoding

/-! ## The grammar -/

/-- The message is one of the record. -/
def Written (acceptText : Bool) (record : Record) (message : Octets) : Prop :=
  ∃ fields, Framed acceptText record.tag fields message ∧ record.Described acceptText fields

/-- The message leads to a numeral that is too long, as its tag or among its fields. -/
inductive Oversized (acceptText : Bool) : Octets → Prop where
  | lead {item : Item} {front back : Octets} (lead : Item.Form maxDepth item front)
      (long : Tag.LongNumeral item) : Oversized acceptText (front ++ back)
  | inside {tag : Tag} {fields : List Item} {message : Octets}
      (framed : Framed acceptText tag fields message) (long : LongInside acceptText tag fields) :
      Oversized acceptText message

/-- The message is looked at under the configuration, text is accepted for tags, and the message
leads to a numeral that is too long. -/
def LongNumbered (config : Config) (message : Octets) : Prop :=
  (message.length : Int) ≤ config.maxMessageBytes ∧ config.acceptTextTags = true ∧
    Oversized config.acceptTextTags message

/-- Decoding the message under the configuration ends at a number of too many digits: at the limit,
which is then negative and below the size of any message, or at a numeral in the message. -/
def Unconvertible (config : Config) (message : Octets) : Prop :=
  UnwrittenLimit config.maxMessageBytes ∨ LongNumbered config message

section Grammar

variable {scheme : Scheme} {config : Config} {message : Octets}

theorem decode_eq_record_iff {record : Record} :
    decode scheme config message = .ok (.record record) ↔
      (message.length : Int) ≤ config.maxMessageBytes ∧
        Written config.acceptTextTags record message ∧ record.verifies scheme = true := by
  rw [decode_eq_record_iff_recordOf]
  refine and_congr_right fun _ => ?_
  simp only [recordOf_eq_ok_iff, Written]
  constructor
  · rintro ⟨tag, fields, framed, rfl, described, verifies⟩
    exact ⟨⟨fields, framed, described⟩, verifies⟩
  · rintro ⟨⟨fields, framed, described⟩, verifies⟩
    exact ⟨_, fields, framed, rfl, described, verifies⟩

/-- A refusal of a signature is attributed to the sort of record that was signed. -/
theorem variant_of_badSignature {refusal : Refusal} (kind : refusal.kind = .badSignature) :
    refusal.variant ≠ none := by
  cases refusal with
  | badSignature tag => simp [Refusal.variant]
  | _ => cases kind

theorem decode_eq_badSignature_iff {refusal : Refusal} (kind : refusal.kind = .badSignature) :
    decode scheme config message = .error (.refused refusal) ↔
      (message.length : Int) ≤ config.maxMessageBytes ∧
        ∃ record, Written config.acceptTextTags record message ∧
          record.verifies scheme = false ∧ refusal = .badSignature record.tag := by
  by_cases small : (message.length : Int) ≤ config.maxMessageBytes
  · simp only [decode_eq_error_iff small, recordOf_eq_badSignature_iff kind, small, true_and,
      Written]
    constructor
    · rintro (leading | ⟨_, _, _, following⟩ |
        ⟨tag, fields, framed, same, record, rfl, described, fails⟩)
      · exact absurd (variant_of_readTag leading) (variant_of_badSignature kind)
      · obtain ⟨_, ⟨⟩, unattributed, -⟩ := readFields_error following
        exact absurd unattributed (variant_of_badSignature kind)
      · exact ⟨record, ⟨fields, framed, described⟩, fails, same⟩
    · rintro ⟨record, ⟨fields, framed, described⟩, fails, same⟩
      exact .inr (.inr ⟨_, fields, framed, same, record, rfl, described, fails⟩)
  · rw [decode_of_too_large (by omega)]
    simp only [small, false_and, iff_false, Except.error.injEq, tooLarge_eq_refused_iff]
    rintro ⟨-, rfl⟩
    cases kind

theorem unconvertible_of_size (small : (message.length : Int) ≤ config.maxMessageBytes) :
    Unconvertible config message ↔
      config.acceptTextTags = true ∧ Oversized config.acceptTextTags message := by
  have written : ¬ UnwrittenLimit config.maxMessageBytes := fun unwritten => by
    have := unwritten.neg
    omega
  simp only [Unconvertible, LongNumbered, written, small, true_and, false_or]

theorem decode_eq_oversized_iff :
    decode scheme config message = .error .oversizedNumeral ↔ Unconvertible config message := by
  by_cases small : (message.length : Int) ≤ config.maxMessageBytes
  · simp only [decode_eq_error_iff small, readTag_eq_oversized_iff, recordOf_eq_oversized_iff,
      unconvertible_of_size small]
    constructor
    · rintro (⟨accepted, _, _, _, rfl, lead, long⟩ | ⟨_, _, _, following⟩ |
        ⟨tag, fields, framed, accepted, long⟩)
      · exact ⟨accepted, .lead lead long⟩
      · obtain ⟨_, ⟨⟩, -, -⟩ := readFields_error following
      · exact ⟨accepted, .inside framed long⟩
    · rintro ⟨accepted, h⟩
      cases h with
      | lead lead long => exact .inl ⟨accepted, _, _, _, rfl, lead, long⟩
      | inside framed long => exact .inr (.inr ⟨_, _, framed, accepted, long⟩)
  · rw [decode_of_too_large (by omega)]
    simp [Unconvertible, LongNumbered, small, tooLarge_eq_oversized_iff]

/-- A message of the allowed size is decoded to a registered record exactly if it is one of that
record and the record verifies, and is refused for its signature exactly if it is one of a record
that does not. -/
theorem decodes_exactly_the_grammar (scheme : Scheme) (config : Config) (message : Octets) :
    (∀ record, decode scheme config message = .ok (.record record) ↔
      (message.length : Int) ≤ config.maxMessageBytes ∧
        Written config.acceptTextTags record message ∧ record.verifies scheme = true) ∧
    ((∃ refusal, refusal.kind = .badSignature ∧
        decode scheme config message = .error (.refused refusal)) ↔
      (message.length : Int) ≤ config.maxMessageBytes ∧
        ∃ record, Written config.acceptTextTags record message ∧
          record.verifies scheme = false) := by
  refine ⟨fun record => decode_eq_record_iff, ?_⟩
  constructor
  · rintro ⟨refusal, kind, refused⟩
    obtain ⟨small, record, written, fails, -⟩ := (decode_eq_badSignature_iff kind).1 refused
    exact ⟨small, record, written, fails⟩
  · rintro ⟨small, record, written, fails⟩
    exact ⟨_, rfl, (decode_eq_badSignature_iff rfl).2 ⟨small, record, written, fails, rfl⟩⟩

end Grammar

end Overlay.Message
