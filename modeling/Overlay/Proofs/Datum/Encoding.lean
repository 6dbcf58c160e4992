/-
# Overlay.Proofs.Datum.Encoding -- values that are encoded, and what is decoded from them

A value is encoded as the record that it is, or else as the fields that a draft has
(`encode_cases`).

* `encode_append_injective`: what a record is encoded as identifies the record and says where it
  ends.  That is so of published records that do not verify too, which are never decoded.
* `decode_encode`: what a record is encoded as is decoded to that record, and encoded to the
  same octets again, unless the record is published and does not verify: then its signature
  is refused.
* `encode_decoded`: every record that was decoded can be encoded, in no more octets than it
  was decoded from, and is decoded again, even where text is not accepted for tags; and what
  was encoded by anybody is encoded alike.
-/
import Overlay.Datum.Writing
import Overlay.Proofs.Message.RoundTrip

namespace Overlay.Datum

set_option autoImplicit false

open MessagePack (Item)

/-! ## Records -/

theorem encode_eq_ok_iff {value : Datum} {record : Record} {message : Octets}
    (recorded : value.record? = some record) :
    value.encode = .ok message ↔ Message.encode? record = some message := by
  simp only [encode, recorded]
  cases Message.encode? record <;> simp [orFault]

/-- Values that are one record are the same. -/
theorem same_of_record? {value other : Datum} {record : Record}
    (recorded : value.record? = some record) (recorded' : other.record? = some record) :
    value.same other = true := by
  have same : value.sameRecord other = true := by simp [sameRecord, recorded, recorded']
  cases value with
  | record r => cases other <;> simp [Datum.same, same]
  | tagPayload inner content => cases other <;> simp [Datum.same, same]
  | _ => cases recorded

/-! ## Drafts -/

/-- What identifies a value holds no container. -/
theorem readable_identifier {datum identifier : Datum} (h : datum.identifier = .ok identifier)
    (depth : Nat) : identifier.toItem.readable depth = true := by
  unfold Datum.identifier at h
  split at h
  · cases h
    simp [ofOctets, toItem, Item.readable]
  · cases h
    simp [toItem, Item.readable]
  · cases h

theorem readable_identifiers {data identifiers : List Datum}
    (h : List.Forall₂ (fun datum identifier => datum.identifier = .ok identifier) data identifiers)
    (depth : Nat) : (Item.array (identifiers.map toItem)).readable (depth + 1) = true := by
  induction h with
  | nil => simp [Item.readable]
  | cons first _ ih =>
      simp only [Item.readable, List.map_cons, List.all_cons, Bool.and_eq_true] at ih ⊢
      exact ⟨readable_identifier first depth, ih⟩

theorem ofItems_eq_map (items : List Item) : ofItems items = items.map ofItem := by
  induction items with
  | nil => rfl
  | cons item items ih => rw [ofItems, ih, List.map_cons]

/-- An array as a value means the array, if its items do. -/
theorem toItem_ofItem_array {items : List Item}
    (each : ∀ item ∈ items, (ofItem item).toItem = item) :
    (ofItem (.array items)).toItem = .array items := by
  rw [ofItem, toItem, ofItems_eq_map, List.map_map]
  congr 1
  exact (List.map_congr_left each).trans (List.map_id items)

/-- A message is framed from the number of its tag and the items that its fields mean. -/
theorem frame_eq_ok_iff {tag : Datum} {number : Nat} {data : List Datum} {message : Octets}
    (numbered : tag.int? = some (number : Int)) :
    frame tag (.list data) = .ok message ↔
      number < Tag.bound ∧ (Datum.list data).isPlain MessagePack.maxDepth = true ∧
        Message.frame? number (data.map toItem) = some message := by
  simp only [frame, numbered, Int.toNat_natCast, fields?, Datum.items]
  constructor
  · intro h
    split_ifs at h with range plain
    · simp only [Bool.and_eq_true, decide_eq_true_eq] at range
      rw [Option.bind_some] at h
      split at h
      · next framed =>
        cases h
        exact ⟨by omega, plain, framed⟩
      · cases h
    · cases h
  · rintro ⟨below, plain, framed⟩
    rw [if_pos (by simpa using below), if_pos plain, Option.bind_some, framed]

/-- The fields of a draft nest no deeper than those of a record. -/
theorem readable_fields {value : Datum} {data : List Datum} (draft : value.record? = Option.none)
    (h : value.fields = .ok data) (depth : Nat) :
    (Item.array (data.map toItem)).readable (depth + 3) = true := by
  have bins : ∀ {α : Type} (octets : α → Octets) (things : List α),
      (ofItem (.array (things.map fun thing => .bin (octets thing)))).toItem =
        .array (things.map fun thing => .bin (octets thing)) := by
    intro α octets things
    refine toItem_ofItem_array fun item member => ?_
    obtain ⟨thing, -, rfl⟩ := List.mem_map.1 member
    simp [ofItem, toItem]
  cases value with
  | draftTable name owner rows =>
      simp only [fields, bind_eq_ok_iff] at h
      obtain ⟨name, nameRead, owner, ownerRead, ⟨⟩⟩ := h
      have table : (ofItem (.array (rows.map Record.namesItem))).toItem =
          .array (rows.map Record.namesItem) := by
        refine toItem_ofItem_array fun item member => ?_
        obtain ⟨names, -, rfl⟩ := List.mem_map.1 member
        exact bins Name.octets names
      simp [Item.readable, readable_identifier nameRead, readable_identifier ownerRead, table,
        Record.namesItem, Record.nameItem]
  | draftCoin name owners previous signatures =>
      simp only [fields, bind_eq_ok_iff, mapM_eq_ok_iff] at h
      obtain ⟨name, nameRead, owners, ownersRead, previous, previousRead, ⟨⟩⟩ := h
      have signed := bins Fixed.octets signatures
      have held := readable_identifiers ownersRead (depth + 1)
      have formerly := readable_identifiers previousRead (depth + 1)
      rw [Item.readable]
      simp only [List.map_cons, List.map_nil, toItem, List.all_cons, List.all_nil,
        Bool.and_eq_true]
      refine ⟨readable_identifier nameRead _, held, formerly, ?_, trivial⟩
      rw [show Record.fixedItem = fun signature : Signature => Item.bin signature.octets from rfl,
        signed]
      simp [Item.readable]
  | record r => cases draft
  | tagPayload inner content => cases draft
  | _ => cases h

/-- A value is encoded as the record that it is, or as a draft of a table or a coin. -/
theorem encode_cases {value : Datum} {message : Octets} (h : value.encode = .ok message) :
    (∃ record, value.record? = some record ∧ Message.encode? record = some message) ∨
      ∃ (tag : Tag) (fields : List Item), tag.holdsNumbers = false ∧
        (Item.array fields).readable MessagePack.maxDepth = true ∧
        Message.frame? tag.number fields = some message := by
  cases found : value.record? with
  | some record => exact .inl ⟨record, rfl, (encode_eq_ok_iff found).1 h⟩
  | none =>
      right
      have drafted : ∀ tag : Tag, value.tag? = some tag → ∃ fields,
          (Item.array fields).readable MessagePack.maxDepth = true ∧
            Message.frame? tag.number fields = some message := by
        intro tag tagged
        simp only [encode, found, tagged, bind_eq_ok_iff] at h
        obtain ⟨data, read, framed⟩ := h
        -- `1021 + 3` is the depth that a message may have
        exact ⟨_, readable_fields found read 1021, ((frame_eq_ok_iff rfl).1 framed).2.2⟩
      cases value with
      | draftTable name owner rows =>
          obtain ⟨fields, drafted⟩ := drafted .table rfl
          exact ⟨.table, fields, rfl, drafted⟩
      | draftCoin name owners previous signatures =>
          obtain ⟨fields, drafted⟩ := drafted .coin rfl
          exact ⟨.coin, fields, rfl, drafted⟩
      | record r => cases found
      | tagPayload inner content => cases found
      | _ => cases h

/-! ## Encoding and decoding -/

/-- Values that are records and whose messages are the start of one string are the same record, and
what follows their messages is the same, whether or not the records verify. -/
theorem encode_append_injective {value other : Datum} {record record' : Record}
    {message message' after rest : Octets} (recorded : value.record? = some record)
    (recorded' : other.record? = some record') (encoded : value.encode = .ok message)
    (encoded' : other.encode = .ok message') (same : message ++ after = message' ++ rest) :
    record = record' ∧ value.same other = true ∧ after = rest := by
  -- there is no text in the messages, so either setting for text would do
  have written : Message.Written false record message :=
    Message.written_of_encode? ((encode_eq_ok_iff recorded).1 encoded)
  have written' : Message.Written false record' message' :=
    Message.written_of_encode? ((encode_eq_ok_iff recorded').1 encoded')
  obtain ⟨rfl, -, rests⟩ := written.eq_of_append_eq written' same
  exact ⟨rfl, same_of_record? recorded recorded', rests⟩

/-- A payload of one octet under the tag of blocks. -/
def examplePayload : Payload := ⟨(Tag.block .primary).number, [0x6F], Tag.number_lt_bound _⟩

/-- The payload with its tag as a registered one and as a number, an octet after each message. -/
theorem encode_append_injective_payload :
    ∃ message, (Datum.tagPayload (.block .primary) [0x6F]).encode = .ok message ∧
      (Datum.record (.payload examplePayload)).encode = .ok message ∧
      (Datum.tagPayload (.block .primary) [0x6F]).same (.record (.payload examplePayload)) =
        true := by
  have tagged : (Datum.tagPayload (.block .primary) [0x6F]).record? =
      some (.payload examplePayload) := rfl
  have plain : (Datum.record (.payload examplePayload)).record? =
      some (.payload examplePayload) := rfl
  have fits : (Item.array (Record.payload examplePayload).fields).fits (1023 + 1) = true :=
    MessagePack.Item.fits_array_of_forall rfl
      (by simp [examplePayload, Record.fields, Item.fits, MessagePack.Head.fits, Tag.number,
        Tag.base])
  obtain ⟨message, written⟩ := Message.exists_encode? fits
  have encoded := (encode_eq_ok_iff tagged).2 written
  have encoded' := (encode_eq_ok_iff plain).2 written
  have same : message ++ [0xC1] = message ++ [0xC1] := rfl
  exact ⟨message, encoded, encoded',
    (encode_append_injective tagged plain encoded encoded' same).2.1⟩

/-- What was encoded is the message of the record that is decoded from it. -/
theorem encode?_of_decoded {acceptText : Bool} {value : Datum} {record : Record} {message : Octets}
    (encoded : value.encode = .ok message) (written : Message.Written acceptText record message) :
    Message.encode? record = some message := by
  obtain ⟨original, -, encoded⟩ | ⟨tag, fields, flat, readable, framed⟩ := encode_cases encoded
  · rwa [written.unique (Message.written_of_encode? encoded)]
  · obtain ⟨items, framed', described⟩ := written
    obtain ⟨rfl, rfl⟩ := framed'.unique (Message.framed_of_frame? readable framed)
    rwa [described.fields_eq flat] at framed

/-- What a record is encoded as is decoded to the record, or refused for its signature.  Of the
values that are encoded only drafts are no record, those in which something else stands for a
name. -/
theorem decode_encode (scheme : Scheme) (config : Config) {value : Datum} {record : Record}
    {message : Octets} (recorded : value.record? = some record)
    (encoded : value.encode = .ok message)
    (small : (message.length : Int) ≤ config.maxMessageBytes) :
    (record.verifies scheme = true →
      Message.decode scheme config message = .ok (.record record) ∧
        value.same (.ofDecoded (.record record)) = true ∧
        (ofDecoded (.record record)).encode = .ok message) ∧
      (record.verifies scheme = false →
        Message.decode scheme config message = .error (.refused (.badSignature record.tag))) := by
  have written := (encode_eq_ok_iff recorded).1 encoded
  constructor
  · intro verifies
    refine ⟨Message.decode_encode? written small verifies, same_of_record? recorded rfl, ?_⟩
    exact (encode_eq_ok_iff rfl).2 written
  · intro fails
    exact Message.decode_encode?_of_not_verifies written small fails

theorem decode_encode_block :
    (Datum.record Message.exampleBlock).encode = .ok Message.exampleMessage ∧
      Message.decode .lenient {} Message.exampleMessage = .ok (.record Message.exampleBlock) := by
  have encoded : (Datum.record Message.exampleBlock).encode = .ok Message.exampleMessage :=
    (encode_eq_ok_iff rfl).2 Message.encode?_exampleBlock
  obtain ⟨accepted, -⟩ := decode_encode .lenient {} rfl encoded (by decide)
  exact ⟨encoded, (accepted rfl).1⟩

/-- A record that was decoded is encoded in no more octets, and decoded again, with or without text
for tags; and what was encoded is encoded alike. -/
theorem encode_decoded (scheme : Scheme) (config : Config) {message : Octets} {record : Record}
    (decoded : Message.decode scheme config message = .ok (.record record)) :
    ∃ shortest, (ofDecoded (.record record)).encode = .ok shortest ∧
      shortest.length ≤ message.length ∧
      Message.decode scheme config shortest = .ok (.record record) ∧
      Message.decode scheme { config with acceptTextTags := false } shortest =
        .ok (.record record) ∧
      ∀ value : Datum, value.encode = .ok message → shortest = message := by
  obtain ⟨small, written, verifies⟩ := Message.decode_eq_record_iff.1 decoded
  obtain ⟨shortest, encoded, short⟩ := Message.encode?_of_written written
  have within : (shortest.length : Int) ≤ config.maxMessageBytes := by omega
  refine ⟨shortest, (encode_eq_ok_iff rfl).2 encoded, short, ?_, ?_, ?_⟩
  · exact Message.decode_encode? encoded within verifies
  · exact Message.decode_encode? encoded within verifies
  · intro value same
    rw [encode?_of_decoded same written] at encoded
    exact (Option.some.inj encoded).symm

theorem encode_decoded_block :
    Message.decode .lenient {} Message.exampleLongMessage = .ok (.record Message.exampleBlock) ∧
      ∃ shortest, (ofDecoded (.record Message.exampleBlock)).encode = .ok shortest ∧
        shortest.length ≤ Message.exampleLongMessage.length ∧
        Message.decode .lenient { acceptTextTags := false } shortest =
          .ok (.record Message.exampleBlock) := by
  have decoded : Message.decode .lenient {} Message.exampleLongMessage =
      .ok (.record Message.exampleBlock) :=
    Message.decode_eq_record_iff.2 ⟨by decide, Message.written_exampleLongMessage, rfl⟩
  obtain ⟨shortest, encoded, short, -, again, -⟩ := encode_decoded .lenient {} decoded
  exact ⟨decoded, shortest, encoded, short, again⟩

end Overlay.Datum
