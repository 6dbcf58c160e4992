/-
# Overlay.Proofs.Message.Strictness -- tags as text, taken or refused

What one configuration decodes, every configuration decodes to the same result that allows
messages as large and takes text for tags if the first one does (`decode_relaxed`).

The other way round it matters how the tags of a message are written.  A message has a tag
at its front, a payload has one more and a revocation key three: `TagItems` gives the items
in these places.  Where they are integers the result is the same without text
(`decode_of_integers`); where one of them is text a configuration that takes none refuses
the message, and says that it is for a tag (`decode_strict_of_text`).

Both go through `Accepted`, which puts what is decoded beside the tags that it has: every
step is a case for messages of a record and one for messages under an unregistered tag.
-/
import Overlay.Proofs.Message.Unregistered

namespace Overlay

set_option autoImplicit false

open MessagePack (Item maxDepth)

/-- Is the item an integer? -/
def MessagePack.Item.isInteger : Item → Bool
  | .int _ => true
  | _ => false

/-- Is the item text, or octets that may be read as text? -/
def MessagePack.Item.isText : Item → Bool
  | .str _ | .bin _ => true
  | _ => false

/-! ## One tag -/

namespace Tag

variable {acceptText acceptText' : Bool} {number : Nat} {item : Item}

theorem Spelling.relaxed (h : Spelling acceptText number item)
    (text : acceptText = true → acceptText' = true) : Spelling acceptText' number item := by
  cases h with
  | int => exact .int
  | numeral accepted written some short value =>
      exact .numeral (text accepted) written some short value

/-- An integer spells its number, whether or not text is taken. -/
theorem Spelling.of_isInteger (h : Spelling acceptText number item)
    (integer : item.isInteger = true) : Spelling acceptText' number item := by
  cases h with
  | int => exact .int
  | numeral _ written _ _ _ => cases written <;> cases integer

/-- A number is spelled as an integer or in text. -/
theorem Spelling.isInteger_or_isText (h : Spelling acceptText number item) :
    item.isInteger = true ∨ item.isText = true := by
  cases h with
  | int => exact .inl rfl
  | numeral _ written _ _ _ => cases written <;> exact .inr rfl

theorem read_strict_of_isText (text : item.isText = true) :
    ∃ fault, read false (.ofItem item) = .error (.refused fault) := by
  refine read_of_refused ?_
  rintro value rfl
  cases text

/-- The items among the fields under a tag that stand for tags themselves. -/
def numbersAmong : Tag → List Item → List Item
  | .payload, inner :: _ => [inner]
  | .revocationKey _, .array numbers :: _ => numbers
  | _, _ => []

end Tag

/-! ## The tags among the fields -/

namespace Record

variable {acceptText acceptText' : Bool} {record : Record} {fields : List Item}

theorem Described.relaxed (h : record.Described acceptText fields)
    (text : acceptText = true → acceptText' = true) : record.Described acceptText' fields := by
  cases h with
  | name name => exact .name name
  | payload spelled => exact .payload (spelled.relaxed text)
  | block block => exact .block block
  | table table => exact .table table
  | coin coin => exact .coin coin
  | revocationKey spelled =>
      exact .revocationKey (spelled.imp fun number item h => h.relaxed text)
  | identity identity => exact .identity identity
  | publicIdentity identity => exact .publicIdentity identity
  | publicRevocation revocation => exact .publicRevocation revocation

theorem Described.of_integers (h : record.Described acceptText fields)
    (integers : ∀ item ∈ record.tag.numbersAmong fields, item.isInteger = true) :
    record.Described acceptText' fields := by
  cases h with
  | name name => exact .name name
  | @payload payload inner spelled =>
      have integer : inner.isInteger = true := integers inner (List.mem_singleton_self inner)
      exact .payload (spelled.of_isInteger integer)
  | block block => exact .block block
  | table table => exact .table table
  | coin coin => exact .coin coin
  | @revocationKey key numbers spelled =>
      have each : List.Forall₂ (fun number item =>
          item.isInteger = true ∧ Tag.Spelling acceptText number item) key.family.triple numbers :=
        ((List.forall₂_and_left _ _).2 ⟨integers, spelled.flip⟩).flip
      exact .revocationKey (each.imp fun number item h => h.2.of_isInteger h.1)
  | identity identity => exact .identity identity
  | publicIdentity identity => exact .publicIdentity identity
  | publicRevocation revocation => exact .publicRevocation revocation

theorem Described.isInteger_or_isText (h : record.Described acceptText fields) :
    ∀ item ∈ record.tag.numbersAmong fields, item.isInteger = true ∨ item.isText = true := by
  cases h with
  | @payload payload inner spelled =>
      intro item member
      obtain rfl : item = inner := List.mem_singleton.1 member
      exact spelled.isInteger_or_isText
  | @revocationKey key numbers spelled =>
      have each : List.Forall₂ (fun item number =>
          (item.isInteger = true ∨ item.isText = true) ∧ Tag.Spelling acceptText number item)
          numbers key.family.triple :=
        spelled.flip.imp fun item number h => ⟨h.isInteger_or_isText, h⟩
      exact ((List.forall₂_and_left _ _).1 each).1
  | _ =>
      intro item member
      cases member

end Record

namespace Message

section

variable {acceptText : Bool} {items : List Item}

theorem tagField_strict_of_isText (tag : Tag) {item : Item} (text : item.isText = true) :
    ∃ fault, tagField tag false item = .error (.refused (.innerTag tag fault)) := by
  obtain ⟨fault, refused⟩ := Tag.read_strict_of_isText text
  refine ⟨fault, ?_⟩
  unfold tagField
  rw [refused]
  rfl

/-- The first text among several tags is refused. -/
theorem tagFields_strict_of_text (tag : Tag) {numbers : List Nat}
    (below : ∀ number ∈ numbers, number < Tag.bound)
    (spelled : List.Forall₂ (Tag.Spelling acceptText) numbers items)
    (text : ∃ item ∈ items, item.isText = true) :
    ∃ fault, items.mapM (tagField tag false) = .error (.refused (.innerTag tag fault)) := by
  induction spelled with
  | nil => simp at text
  | @cons number item numbers items first rest ih =>
      simp only [List.mem_cons, forall_eq_or_imp] at below
      cases first with
      | numeral accepted written some short value =>
          have isText : item.isText = true := by cases written <;> rfl
          obtain ⟨fault, refused⟩ := tagField_strict_of_isText tag isText
          refine ⟨fault, ?_⟩
          rw [List.mapM_cons, refused]
          rfl
      | int =>
          have later : ∃ item ∈ items, item.isText = true := by
            simpa [MessagePack.Item.isText] using text
          obtain ⟨fault, refused⟩ := ih below.2 later
          have read : tagField tag false (.int number) = .ok number :=
            tagField_eq_ok_iff.2 ⟨below.1, .int⟩
          refine ⟨fault, ?_⟩
          rw [List.mapM_cons, read, refused]
          rfl

/-- Fields that describe a record, with text for one of the tags among them. -/
theorem recordOf_strict_of_text (scheme : Scheme) {record : Record}
    (described : record.Described acceptText items)
    (text : ∃ item ∈ record.tag.numbersAmong items, item.isText = true) :
    ∃ fault, recordOf scheme false record.tag items =
      .error (.refused (.innerTag record.tag fault)) := by
  cases described with
  | @payload payload inner spelled =>
      obtain ⟨item, member, isText⟩ := text
      obtain rfl : item = inner := List.mem_singleton.1 member
      obtain ⟨fault, refused⟩ := tagField_strict_of_isText .payload isText
      exact ⟨fault, bind_eq_error_iff.2 (.inl refused)⟩
  | @revocationKey key numbers spelled =>
      obtain ⟨fault, refused⟩ := tagFields_strict_of_text (.revocationKey key.family)
        (fun number => triple_lt_bound) spelled text
      have three : numbers.length = 3 := spelled.length_eq.symm
      have family : familyField (.revocationKey key.family) key.family false (.array numbers) =
          .error (.refused (.innerTag (.revocationKey key.family) fault)) := by
        refine bind_eq_error_iff.2 (.inr ⟨numbers, rfl, ?_⟩)
        rw [if_neg (by simp [three])]
        exact bind_eq_error_iff.2 (.inl refused)
      exact ⟨fault, bind_eq_error_iff.2 (.inl family)⟩
  | _ =>
      obtain ⟨item, member, -⟩ := text
      cases member

end

/-! ## The tags of a message -/

/-- The items that stand for tags in a message: the one at its front, and those among its fields if
that one is registered. -/
inductive TagItems (acceptText : Bool) : Octets → List Item → Prop where
  | unregistered {item : Item} {front rest : Octets} {number : Nat}
      (lead : Item.Form maxDepth item front) (below : number < Tag.bound)
      (spelled : Tag.Spelling acceptText number item) (unknown : Tag.ofNumber? number = none) :
      TagItems acceptText (front ++ rest) [item]
  | registered {item : Item} {front rest : Octets} {tag : Tag} {fields : List Item}
      (lead : Item.Form maxDepth item front) (spelled : Tag.Spelling acceptText tag.number item)
      (body : Item.Form maxDepth (.array fields) rest) :
      TagItems acceptText (front ++ rest) (item :: tag.numbersAmong fields)

/-- A message has its tags in one place each. -/
theorem TagItems.unique {acceptText : Bool} {message : Octets} {items others : List Item}
    (first : TagItems acceptText message items) (second : TagItems acceptText message others) :
    items = others := by
  generalize same : message = octets at second
  cases first with
  | unregistered lead below spelled unknown =>
      cases second with
      | unregistered lead' below' spelled' unknown' =>
          obtain ⟨rfl, -, -⟩ := lead.eq_of_append_eq lead' same
          rfl
      | @registered _ _ _ tag _ lead' spelled' body' =>
          obtain ⟨rfl, -, -⟩ := lead.eq_of_append_eq lead' same
          obtain rfl := spelled.unique spelled' below tag.number_lt_bound
          simp at unknown
  | @registered _ _ _ tag _ lead spelled body =>
      cases second with
      | unregistered lead' below' spelled' unknown' =>
          obtain ⟨rfl, -, -⟩ := lead.eq_of_append_eq lead' same
          obtain rfl := spelled'.unique spelled below' tag.number_lt_bound
          simp at unknown'
      | @registered _ _ _ tag' _ lead' spelled' body' =>
          obtain ⟨rfl, -, rfl⟩ := lead.eq_of_append_eq lead' same
          have number := spelled.unique spelled' tag.number_lt_bound tag'.number_lt_bound
          obtain rfl := Tag.number_injective number
          cases body.unique body'
          rfl

/-! ## Whole messages -/

/-- The message, whose tags are the given items, stands for what it is decoded to.  Nothing is said
of its size, the one thing that decoding looks at besides. -/
inductive Accepted (scheme : Scheme) (acceptText : Bool) : Octets → List Item → Decoded → Prop where
  | record {item : Item} {front back : Octets} {record : Record} {fields : List Item}
      (lead : Item.Form maxDepth item front)
      (spelled : Tag.Spelling acceptText record.tag.number item)
      (body : Item.Form maxDepth (.array fields) back)
      (described : record.Described acceptText fields) (verifies : record.verifies scheme = true) :
      Accepted scheme acceptText (front ++ back) (item :: record.tag.numbersAmong fields)
        (.record record)
  | unknown {item : Item} {front rest : Octets} {number : Nat}
      (lead : Item.Form maxDepth item front) (below : number < Tag.bound)
      (spelled : Tag.Spelling acceptText number item) (unregistered : Tag.ofNumber? number = none) :
      Accepted scheme acceptText (front ++ rest) [item] (.unknown number)

namespace Accepted

variable {scheme : Scheme} {acceptText acceptText' : Bool} {message : Octets} {items : List Item}
  {decoded : Decoded}

theorem tagItems (h : Accepted scheme acceptText message items decoded) :
    TagItems acceptText message items := by
  cases h with
  | record lead spelled body described verifies => exact .registered lead spelled body
  | unknown lead below spelled unregistered => exact .unregistered lead below spelled unregistered

theorem isInteger_or_isText (h : Accepted scheme acceptText message items decoded) :
    ∀ item ∈ items, item.isInteger = true ∨ item.isText = true := by
  cases h with
  | record lead spelled body described verifies =>
      rw [List.forall_mem_cons]
      exact ⟨spelled.isInteger_or_isText, described.isInteger_or_isText⟩
  | unknown lead below spelled unregistered =>
      rw [List.forall_mem_singleton]
      exact spelled.isInteger_or_isText

theorem relaxed (h : Accepted scheme acceptText message items decoded)
    (text : acceptText = true → acceptText' = true) :
    Accepted scheme acceptText' message items decoded := by
  cases h with
  | record lead spelled body described verifies =>
      exact .record lead (spelled.relaxed text) body (described.relaxed text) verifies
  | unknown lead below spelled unregistered =>
      exact .unknown lead below (spelled.relaxed text) unregistered

theorem of_integers (h : Accepted scheme acceptText message items decoded)
    (integers : ∀ item ∈ items, item.isInteger = true) :
    Accepted scheme acceptText' message items decoded := by
  cases h with
  | record lead spelled body described verifies =>
      rw [List.forall_mem_cons] at integers
      obtain ⟨leading, inner⟩ := integers
      exact .record lead (spelled.of_isInteger leading) body (described.of_integers inner) verifies
  | unknown lead below spelled unregistered =>
      rw [List.forall_mem_singleton] at integers
      exact .unknown lead below (spelled.of_isInteger integers) unregistered

end Accepted

section

variable {scheme : Scheme} {config other : Config} {message : Octets} {decoded : Decoded}
  {items : List Item}

theorem decode_eq_ok_iff :
    decode scheme config message = .ok decoded ↔
      (message.length : Int) ≤ config.maxMessageBytes ∧
        ∃ items, Accepted scheme config.acceptTextTags message items decoded := by
  constructor
  · intro h
    cases decoded with
    | record record =>
        obtain ⟨small, ⟨fields, ⟨lead, spelled, body⟩, described⟩, verifies⟩ :=
          decode_eq_record_iff.1 h
        exact ⟨small, _, .record lead spelled body described verifies⟩
    | unknown number =>
        obtain ⟨small, ⟨item, front, rest, rfl, lead, below, spelled⟩, unregistered⟩ :=
          decode_eq_unknown_iff.1 h
        exact ⟨small, _, .unknown lead below spelled unregistered⟩
  · rintro ⟨small, items, accepted⟩
    cases accepted with
    | record lead spelled body described verifies =>
        exact decode_eq_record_iff.2
          ⟨small, ⟨_, .mk lead spelled body, described⟩, verifies⟩
    | unknown lead below spelled unregistered =>
        exact decode_eq_unknown_iff.2
          ⟨small, ⟨_, _, _, rfl, lead, below, spelled⟩, unregistered⟩

/-- A message that is decoded is accepted with the tags that it has. -/
theorem TagItems.accepted (tags : TagItems config.acceptTextTags message items)
    (h : decode scheme config message = .ok decoded) :
    Accepted scheme config.acceptTextTags message items decoded := by
  obtain ⟨-, others, accepted⟩ := decode_eq_ok_iff.1 h
  rw [tags.unique accepted.tagItems]
  exact accepted

theorem exists_tagItems (h : decode scheme config message = .ok decoded) :
    ∃ items, TagItems config.acceptTextTags message items := by
  obtain ⟨-, items, accepted⟩ := decode_eq_ok_iff.1 h
  exact ⟨items, accepted.tagItems⟩

/-- A configuration that takes more decodes the same. -/
theorem decode_relaxed (larger : config.maxMessageBytes ≤ other.maxMessageBytes)
    (text : config.acceptTextTags = true → other.acceptTextTags = true)
    (h : decode scheme config message = .ok decoded) :
    decode scheme other message = .ok decoded := by
  obtain ⟨small, items, accepted⟩ := decode_eq_ok_iff.1 h
  exact decode_eq_ok_iff.2 ⟨by omega, items, accepted.relaxed text⟩

/-- Where all tags are integers nothing depends on whether text is taken. -/
theorem decode_of_integers (larger : config.maxMessageBytes ≤ other.maxMessageBytes)
    (h : decode scheme config message = .ok decoded)
    (tags : TagItems config.acceptTextTags message items)
    (integers : ∀ item ∈ items, item.isInteger = true) :
    decode scheme other message = .ok decoded := by
  obtain ⟨small, -⟩ := decode_eq_ok_iff.1 h
  exact decode_eq_ok_iff.2 ⟨by omega, items, (tags.accepted h).of_integers integers⟩

/-- A leading tag in text is refused where no text is taken. -/
theorem readTag_strict_of_text {item : Item} {front : Octets} (lead : Item.Form maxDepth item front)
    (text : item.isText = true) (rest : Octets) :
    ∃ fault, readTag false (front ++ rest) = .error (.refused (.leadingTag fault)) := by
  obtain ⟨fault, refused⟩ := Tag.read_strict_of_isText text
  refine ⟨fault, ?_⟩
  unfold readTag
  rw [(MessagePack.readItem_eq_ok_iff (limitOf_le _)).2 ⟨front, rfl, lead⟩]
  dsimp only
  rw [refused]
  rfl

/-- Where a tag is text, a configuration that takes none refuses the message for it. -/
theorem decode_strict_of_text (same : other.maxMessageBytes = config.maxMessageBytes)
    (strict : other.acceptTextTags = false) (h : decode scheme config message = .ok decoded)
    (tags : TagItems config.acceptTextTags message items)
    (text : ∃ item ∈ items, item.isText = true) :
    ∃ refusal, decode scheme other message = .error (.refused refusal) ∧
      refusal.kind = .badTag := by
  obtain ⟨small, -⟩ := decode_eq_ok_iff.1 h
  rw [← same] at small
  -- the first tag that is text is the one refused: the leading one, or else one of the fields
  cases tags.accepted h with
  | @record item front back record fields lead spelled body described verifies =>
      cases spelled with
      | numeral accepted written some short value =>
          have isText : item.isText = true := by cases written <;> rfl
          obtain ⟨fault, refused⟩ := readTag_strict_of_text lead isText back
          rw [← strict] at refused
          exact ⟨_, (decode_eq_error_iff small).2 (.inl refused), rfl⟩
      | int =>
          have inner : ∃ item ∈ record.tag.numbersAmong fields, item.isText = true := by
            simpa [MessagePack.Item.isText] using text
          obtain ⟨fault, refused⟩ := recordOf_strict_of_text scheme described inner
          rw [← strict] at refused
          have framed : Framed other.acceptTextTags record.tag fields (front ++ back) :=
            .mk lead .int body
          exact ⟨_, (decode_eq_error_iff small).2 (.inr (.inr ⟨_, _, framed, refused⟩)), rfl⟩
  | @unknown item front rest number lead below spelled unregistered =>
      have isText : item.isText = true := by simpa using text
      obtain ⟨fault, refused⟩ := readTag_strict_of_text lead isText rest
      rw [← strict] at refused
      exact ⟨_, (decode_eq_error_iff small).2 (.inl refused), rfl⟩

end

end Message

end Overlay
