/-
# Overlay.Proofs.Message.RoundTrip -- a record, its message, and the record again

The message of a record is one of the grammar, its own fields being the items that
describe it in their shortest forms.  So what is encoded is decoded to the record
(`decode_encode?`).

Decoding accepts more than encoding gives: longer forms, and numbers as text.  Whatever a
message of a record looks like, the record can be encoded, in no more octets
(`encode?_of_written`).  And a message says where it ends and which record it is one of,
without regard to what follows it or whether the record verifies
(`Framed.eq_of_append_eq`, `Written.eq_of_append_eq`).
-/
import Mathlib.Tactic.SplitIfs
import Overlay.Proofs.Message.Grammar

namespace Overlay

set_option autoImplicit false

open MessagePack (Item maxDepth)

/-! ## The fields of a record -/

namespace Record

/-- The fields of a record describe it. -/
theorem described_fields (acceptText : Bool) (record : Record) :
    record.Described acceptText record.fields := by
  cases record with
  | name name => exact .name name
  | payload payload => exact .payload .int
  | block block => exact .block block
  | table table => exact .table table
  | coin coin => exact .coin coin
  | revocationKey key =>
      refine .revocationKey ?_
      rw [List.forall₂_map_right_iff, List.forall₂_same]
      exact fun number _ => .int
  | identity identity => exact .identity identity
  | publicIdentity identity => exact .publicIdentity identity
  | publicRevocation revocation => exact .publicRevocation revocation

/-- Where no numbers are among them, only the fields of a record describe it. -/
theorem Described.fields_eq {acceptText : Bool} {record : Record} {items : List Item}
    (h : record.Described acceptText items) (flat : record.tag.holdsNumbers = false) :
    items = record.fields := by
  cases h with
  | payload spelled => cases flat
  | revocationKey spelled => cases flat
  | _ => rfl

/-- Containers of fields are open in two others at most. -/
theorem readable_fields (record : Record) (depth : Nat) :
    (Item.array record.fields).readable (depth + 3) = true := by
  cases record <;> simp [fields, Item.readable, nameItem, namesItem, fixedItem]

/-- Are all fields of the record of fixed length? -/
def isFixed : Record → Bool
  | .name _ | .revocationKey _ | .identity _ | .publicIdentity _ | .publicRevocation _ => true
  | _ => false

theorem fits_fixedItem {size : Nat} (content : Fixed size) (small : size < 2 ^ 32) (depth : Nat) :
    (fixedItem content).fits depth = true := by
  rw [fixedItem, Item.fits]
  simpa only [MessagePack.Head.fits, decide_eq_true_eq, content.length_eq] using small

/-- Fields of fixed length can always be written. -/
theorem fits_fields (record : Record) (fixed : record.isFixed = true) (depth : Nat) :
    (Item.array record.fields).fits (depth + 2) = true := by
  have key : ∀ key : Key, (fixedItem key).fits (depth + 1) = true :=
    fun key => fits_fixedItem key (by decide) _
  have signature : ∀ signature : Signature, (fixedItem signature).fits (depth + 1) = true :=
    fun signature => fits_fixedItem signature (by decide) _
  cases record with
  | name n =>
      have name : (nameItem n).fits (depth + 1) = true := fits_fixedItem n.id (by decide) _
      exact MessagePack.Item.fits_array_of_forall rfl (by simp [fields, name])
  | revocationKey k =>
      have numbers : (Item.array (k.family.triple.map fun (number : Nat) => .int number)).fits
          (depth + 1) = true := by
        refine MessagePack.Item.fits_array_of_forall (by cases k.family <;> rfl) ?_
        intro item member
        obtain ⟨number, known, rfl⟩ := List.mem_map.1 member
        rw [Item.fits]
        exact MessagePack.Head.fits_nat (Message.triple_lt_bound known)
      exact MessagePack.Item.fits_array_of_forall rfl (by simp [fields, key, numbers])
  | identity i => exact MessagePack.Item.fits_array_of_forall rfl (by simp [fields, key])
  | publicIdentity i =>
      exact MessagePack.Item.fits_array_of_forall rfl (by simp [fields, key, signature])
  | publicRevocation r =>
      exact MessagePack.Item.fits_array_of_forall rfl (by simp [fields, key, signature])
  | _ => cases fixed

/-- However the fields were spelled, those of the record are no longer. -/
theorem Described.abridges {acceptText : Bool} {record : Record} {items : List Item}
    (h : record.Described acceptText items) (depth : Nat) :
    Item.Abridges (depth + 3) (.array record.fields) (.array items) := by
  have bins : ∀ {α : Type} (octets : α → Octets) (things : List α) (depth : Nat),
      Item.Abridges (depth + 1) (.array (things.map fun thing => .bin (octets thing)))
        (.array (things.map fun thing => .bin (octets thing))) := by
    intro α octets things depth
    refine MessagePack.Item.abridges_array_self fun item member => ?_
    obtain ⟨thing, -, rfl⟩ := List.mem_map.1 member
    exact MessagePack.Item.abridges_bin _
  have bin : ∀ octets, Item.Abridges (depth + 2) (.bin octets) (.bin octets) :=
    fun octets => MessagePack.Item.abridges_bin octets
  refine MessagePack.Item.abridges_array ?_
  cases h with
  | name name => exact .cons (bin _) .nil
  | @payload payload inner spelled =>
      exact .cons (spelled.abridges payload.inner_lt _) (.cons (bin _) .nil)
  | block block => exact .cons (bin _) .nil
  | table table =>
      refine .cons (bin _) (.cons (bin _) (.cons ?_ .nil))
      refine MessagePack.Item.abridges_array_self fun row member => ?_
      obtain ⟨names, -, rfl⟩ := List.mem_map.1 member
      exact bins Name.octets names _
  | coin coin =>
      exact .cons (bin _) (.cons (bins Name.octets _ _) (.cons (bins Name.octets _ _)
        (.cons (bins Fixed.octets _ _) .nil)))
  | @revocationKey key numbers spelled =>
      refine .cons (MessagePack.Item.abridges_array ?_) (.cons (bin _) (.cons (bin _) .nil))
      rw [List.forall₂_map_left_iff]
      have below : ∀ number ∈ key.family.triple, number < Tag.bound := fun number =>
        Message.triple_lt_bound
      exact ((List.forall₂_and_left _ _).2 ⟨below, spelled⟩).imp fun number item h =>
        h.2.abridges h.1 _
  | identity identity | publicIdentity identity =>
      exact .cons (bin _) (.cons (bin _) (.cons (bin _) (.cons (bin _) .nil)))
  | publicRevocation revocation => exact .cons (bin _) (.cons (bin _) .nil)

end Record

namespace Message

/-! ## Encoding -/

theorem write?_eq_some_iff {depth : Nat} {item : Item} {octets : Octets} :
    item.write? depth = some octets ↔ item.fits depth = true ∧ octets = item.write := by
  unfold Item.write?
  split_ifs with fits
  · simp [fits, eq_comm]
  · simp [fits]

theorem frame?_eq_some_iff {number : Nat} {fields : List Item} {message : Octets} :
    frame? number fields = some message ↔
      ∃ front back, (Item.int number).write? maxDepth = some front ∧
        (Item.array fields).write? maxDepth = some back ∧ message = front ++ back := by
  simp only [frame?, Option.bind_eq_bind, Option.bind_eq_some_iff, Option.pure_def,
    Option.some.injEq]
  constructor
  · rintro ⟨front, lead, back, body, rfl⟩
    exact ⟨front, back, lead, body, rfl⟩
  · rintro ⟨front, back, lead, body, rfl⟩
    exact ⟨front, lead, back, body, rfl⟩

section

variable {acceptText : Bool} {tag : Tag} {fields : List Item} {record : Record} {message : Octets}

/-- What is framed is a message of the tag and the fields. -/
theorem framed_of_frame? (readable : (Item.array fields).readable maxDepth = true)
    (framed : frame? tag.number fields = some message) :
    Framed acceptText tag fields message := by
  obtain ⟨front, back, lead, body, rfl⟩ := frame?_eq_some_iff.1 framed
  obtain ⟨tagFits, rfl⟩ := write?_eq_some_iff.1 lead
  obtain ⟨fieldsFit, rfl⟩ := write?_eq_some_iff.1 body
  have plain : (Item.int tag.number).readable maxDepth = true := rfl
  exact .mk (MessagePack.Item.form_write tagFits plain) .int
    (MessagePack.Item.form_write fieldsFit readable)

/-- Where a message ends, its tag and its fields do not depend on what follows it. -/
theorem Framed.eq_of_append_eq {tag' : Tag} {fields' : List Item} {message' after rest : Octets}
    (first : Framed acceptText tag fields message)
    (second : Framed acceptText tag' fields' message') (same : message ++ after = message' ++ rest) :
    tag = tag' ∧ fields = fields' ∧ message = message' ∧ after = rest := by
  obtain ⟨lead, spelled, body⟩ := first
  obtain ⟨lead', spelled', body'⟩ := second
  rw [List.append_assoc, List.append_assoc] at same
  obtain ⟨rfl, rfl, following⟩ := lead.eq_of_append_eq lead' same
  obtain ⟨arrays, rfl, rfl⟩ := body.eq_of_append_eq body' following
  have numbers := spelled.unique spelled' tag.number_lt_bound tag'.number_lt_bound
  exact ⟨Tag.number_injective numbers, Item.array.inj arrays, rfl, rfl⟩

/-- A message has one tag and one list of fields. -/
theorem Framed.unique {tag' : Tag} {fields' : List Item}
    (first : Framed acceptText tag fields message)
    (second : Framed acceptText tag' fields' message) : tag = tag' ∧ fields = fields' := by
  have same : message ++ [] = message ++ [] := rfl
  obtain ⟨tags, arrays, -, -⟩ := first.eq_of_append_eq second same
  exact ⟨tags, arrays⟩

/-- Where a message ends and of which record it is one do not depend on what follows it. -/
theorem Written.eq_of_append_eq {record' : Record} {message' after rest : Octets}
    (first : Written acceptText record message) (second : Written acceptText record' message')
    (same : message ++ after = message' ++ rest) :
    record = record' ∧ message = message' ∧ after = rest := by
  obtain ⟨fields, framed, described⟩ := first
  obtain ⟨fields', framed', described'⟩ := second
  obtain ⟨tags, rfl, messages, rests⟩ := framed.eq_of_append_eq framed' same
  have built := recordOf_of_described described
  rw [tags, recordOf_of_described described'] at built
  cases built
  exact ⟨rfl, messages, rests⟩

/-- A message is one of a single record. -/
theorem Written.unique {record' : Record} (first : Written acceptText record message)
    (second : Written acceptText record' message) : record = record' := by
  have same : message ++ [] = message ++ [] := rfl
  exact (first.eq_of_append_eq second same).1

/-- A record is encoded as a message of it, without any text. -/
theorem written_of_encode? (encoded : encode? record = some message) :
    Written acceptText record message :=
  -- `1021 + 3` is the depth that a message may have
  ⟨record.fields, framed_of_frame? (record.readable_fields 1021) encoded,
    record.described_fields acceptText⟩

/-- A tag and fields that can be written can be framed. -/
theorem exists_frame? {number : Nat} (below : number < Tag.bound)
    (fits : (Item.array fields).fits maxDepth = true) :
    ∃ message, frame? number fields = some message := by
  have tagFits : (Item.int number).fits maxDepth = true := MessagePack.Head.fits_nat below
  exact ⟨_, frame?_eq_some_iff.2 ⟨_, _, write?_eq_some_iff.2 ⟨tagFits, rfl⟩,
    write?_eq_some_iff.2 ⟨fits, rfl⟩, rfl⟩⟩

/-- A record can be encoded where its fields can be written. -/
theorem exists_encode? (fits : (Item.array record.fields).fits maxDepth = true) :
    ∃ message, encode? record = some message :=
  exists_frame? record.tag.number_lt_bound fits

/-- A record all of whose fields are of fixed length can always be encoded. -/
theorem exists_encode?_of_isFixed (fixed : record.isFixed = true) :
    ∃ message, encode? record = some message :=
  -- `1022 + 2` is the depth that a message may have
  exists_encode? (record.fits_fields fixed 1022)

/-- A record that has a message can be encoded, in no more octets. -/
theorem encode?_of_written (written : Written acceptText record message) :
    ∃ shortest, encode? record = some shortest ∧ shortest.length ≤ message.length := by
  obtain ⟨fields, ⟨lead, spelled, body⟩, described⟩ := written
  obtain ⟨tagFits, tagShort⟩ := spelled.abridges record.tag.number_lt_bound maxDepth _ lead
  obtain ⟨fieldsFit, fieldsShort⟩ := described.abridges 1021 _ body
  refine ⟨_, frame?_eq_some_iff.2 ⟨_, _, write?_eq_some_iff.2 ⟨tagFits, rfl⟩,
    write?_eq_some_iff.2 ⟨fieldsFit, rfl⟩, rfl⟩, ?_⟩
  simp only [List.length_append]
  omega

end

/-! ## Decoding what was encoded -/

section

variable {scheme : Scheme} {config : Config} {record : Record} {message : Octets}

theorem decode_encode? (encoded : encode? record = some message)
    (small : (message.length : Int) ≤ config.maxMessageBytes)
    (verifies : record.verifies scheme = true) :
    decode scheme config message = .ok (.record record) :=
  decode_eq_record_iff.2 ⟨small, written_of_encode? encoded, verifies⟩

theorem decode_encode?_of_not_verifies (encoded : encode? record = some message)
    (small : (message.length : Int) ≤ config.maxMessageBytes)
    (fails : record.verifies scheme = false) :
    decode scheme config message = .error (.refused (.badSignature record.tag)) :=
  (decode_eq_badSignature_iff rfl).2 ⟨small, record, written_of_encode? encoded, fails, rfl⟩

end

/-! ## A block, in the shortest form and in a longer one -/

/-- A block of two octets. -/
def exampleBlock : Record := .block ⟨.primary, [0x6F, 0x6B]⟩

/-- The message of the block. -/
def exampleMessage : Octets := [0xCE, 0x00, 0x53, 0xAA, 0x5C, 0x91, 0xC4, 0x02, 0x6F, 0x6B]

theorem encode?_exampleBlock : encode? exampleBlock = some exampleMessage := by
  refine frame?_eq_some_iff.2 ⟨[0xCE, 0x00, 0x53, 0xAA, 0x5C], [0x91, 0xC4, 0x02, 0x6F, 0x6B],
    write?_eq_some_iff.2 ⟨?_, ?_⟩, write?_eq_some_iff.2 ⟨?_, ?_⟩, rfl⟩
  · rw [Item.fits]
    decide
  · rw [Item.write]
    decide
  · show Item.fits (1023 + 1) (.array [.bin [0x6F, 0x6B]]) = true
    simp only [Item.fits]
    decide
  · show _ = Item.write (.array [.bin [0x6F, 0x6B]])
    rw [Item.write]
    simp only [List.flatMap_cons, List.flatMap_nil, Item.write]
    decide

/-- The same block with every size in more octets than needed and its tag in text. -/
def exampleLongMessage : Octets :=
  [0xD9, 0x07, 0x35, 0x34, 0x38, 0x33, 0x31, 0x30, 0x30,
    0xDC, 0x00, 0x01, 0xC5, 0x00, 0x02, 0x6F, 0x6B]

theorem written_exampleLongMessage : Written true exampleBlock exampleLongMessage := by
  have text : ((0xD9 : UInt8), 1) ∈ MessagePack.Head.strForms := by decide
  have octets : ((0xC5 : UInt8), 2) ∈ MessagePack.Head.binForms := by decide
  have array : ((0xDC : UInt8), 2) ∈ MessagePack.Head.arrayForms := by decide
  have lead : Item.Form maxDepth (.str "5483100")
      ([0xD9, 0x07] ++ "5483100".toUTF8.data.toList) := .str (.str text (by decide))
  have value : Item.Form 1023 (.bin [0x6F, 0x6B]) ([0xC5, 0x00, 0x02] ++ [0x6F, 0x6B]) :=
    .bin (.bin octets (by decide))
  have body : Item.Form maxDepth (.array [.bin [0x6F, 0x6B]])
      ([0xDC, 0x00, 0x01] ++ ([0xC5, 0x00, 0x02] ++ [0x6F, 0x6B] ++ [])) :=
    .array rfl (.array array (by decide)) (.cons value .nil)
  have numeral : Tag.Numeral [5, 4, 8, 3, 1, 0, 0] (.str "5483100") := .str (by decide)
  have spelled : Tag.Spelling true exampleBlock.tag.number (.str "5483100") :=
    .numeral rfl numeral (by decide) (by decide) (by decide)
  exact ⟨_, .mk lead spelled body, .block _⟩

end Message

end Overlay
