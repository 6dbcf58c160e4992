/-
# Overlay.Proofs.Node.Attribution -- what a refusal is attributed to

A refusal either comes before the fields of a message or is about them.  `Unopened` says of
a message that decoding does not get to its fields: it is too large, starts with no tag, or
has anything else than one array after a registered tag.  Refusals of exactly these messages
are attributed to nothing.

Every other refusal is attributed to the tag that the message starts with, by its registered
name or by the sort of record that it stands for, and no other tag has that name or another
sort that one (`Tag.title_injective`, `Tag.title_ne_sort`).  A field of the wrong size is
reported by the registered name whichever field of whichever record it is, and exactly if
nothing before it is wrong (`Message.MissizedFirst`).
-/
import Overlay.Proofs.Message.Checks
import Overlay.Proofs.Message.Unregistered
import Overlay.Proofs.Node.Ending

namespace Overlay

set_option autoImplicit false

open MessagePack (Item maxDepth)

/-! ## Names -/

namespace Tag

/-- No two tags have one registered name. -/
theorem title_injective {a b : Tag} (h : a.title = b.title) : a = b := by
  have apart : ∀ a ∈ all, ∀ b ∈ all, a.title = b.title → a = b := by decide
  exact apart a a.mem_all b b.mem_all h

/-- No registered name is that of a sort of record. -/
theorem title_ne_sort (a b : Tag) : a.title ≠ b.sort := by
  have apart : ∀ a ∈ all, ∀ b ∈ all, a.title ≠ b.sort := by decide
  exact apart a a.mem_all b b.mem_all

end Tag

/-- The name is the tag's own or that of its sort, and no other tag's or sort's. -/
def Tag.Names (tag : Tag) (name : String) : Prop :=
  (name = tag.title ∨ name = tag.sort) ∧
    (∀ other : Tag, name = other.title → other = tag) ∧
    ∀ other : Tag, name = other.sort → other.sort = tag.sort

theorem Tag.names_title (tag : Tag) : tag.Names tag.title :=
  ⟨.inl rfl, fun _ same => (title_injective same).symm,
    fun other same => absurd same (title_ne_sort tag other)⟩

theorem Tag.names_sort (tag : Tag) : tag.Names tag.sort :=
  ⟨.inr rfl, fun other same => absurd same.symm (title_ne_sort other tag),
    fun _ same => same.symm⟩

namespace Message

/-! ## Messages whose fields are not reached -/

/-- Decoding does not get to the fields of the message. -/
inductive Unopened (config : Config) (message : Octets) : Prop where
  | large (large : config.maxMessageBytes < message.length)
  | untagged (none : ∀ number, ¬ Leads config.acceptTextTags number message)
  /-- What follows the tag is not one array, with nothing after it. -/
  | unframed {tag : Tag} (leads : Leads config.acceptTextTags tag.number message)
      (none : ∀ fields, ¬ Framed config.acceptTextTags tag fields message)

section

variable {scheme : Scheme} {config : Config} {acceptText : Bool} {message : Octets} {tag : Tag}
  {fields : List Item} {refusal : Refusal}

theorem Framed.leads (framed : Framed acceptText tag fields message) :
    Leads acceptText tag.number message := by
  obtain ⟨lead, spelled, -⟩ := framed
  exact ⟨_, _, _, rfl, lead, tag.number_lt_bound, spelled⟩

/-- A message starts with one tag. -/
theorem Leads.unique {one other : Nat} (first : Leads acceptText one message)
    (second : Leads acceptText other message) : one = other := by
  obtain ⟨rest, first⟩ := leads_iff.1 first
  obtain ⟨rest', second⟩ := leads_iff.1 second
  rw [first] at second
  cases second
  rfl

theorem Framed.not_unopened (framed : Framed config.acceptTextTags tag fields message)
    (small : (message.length : Int) ≤ config.maxMessageBytes) : ¬ Unopened config message := by
  rintro (large | untagged | ⟨leads, unframed⟩)
  · omega
  · exact untagged _ framed.leads
  · obtain rfl := Tag.number_injective (leads.unique framed.leads)
    exact unframed fields framed

/-- A refusal precedes the fields, or else is one of the fields under the leading tag. -/
theorem decode_refused_cases (h : decode scheme config message = .error (.refused refusal)) :
    (Unopened config message ∧ refusal.variant = none) ∨
      ∃ tag fields, (message.length : Int) ≤ config.maxMessageBytes ∧
        Framed config.acceptTextTags tag fields message ∧
        recordOf scheme config.acceptTextTags tag fields = .error (.refused refusal) := by
  by_cases small : (message.length : Int) ≤ config.maxMessageBytes
  · obtain leading | ⟨tag, rest, leading, following⟩ | ⟨tag, fields, framed, building⟩ :=
      (decode_eq_error_iff small).1 h
    · left
      refine ⟨.untagged fun number leads => ?_, variant_of_readTag leading⟩
      obtain ⟨rest, read⟩ := leads_iff.1 leads
      rw [leading] at read
      cases read
    · left
      obtain ⟨_, ⟨⟩, unattributed, -⟩ := readFields_error following
      refine ⟨.unframed (leads_iff.2 ⟨rest, leading⟩) fun fields framed => ?_, unattributed⟩
      obtain ⟨rest', leading', read⟩ := framed_iff.1 framed
      rw [leading] at leading'
      cases leading'
      rw [following] at read
      cases read
    · exact .inr ⟨tag, fields, small, framed, building⟩
  · rw [decode_of_too_large (by omega), Except.error.injEq, tooLarge_eq_refused_iff] at h
    obtain ⟨-, rfl⟩ := h
    exact .inl ⟨.large (by omega), rfl⟩

/-! ## Refusals of the fields -/

/-- What a refusal of the fields under a tag is attributed to, and what it says. -/
structure Attributed (tag : Tag) (refusal : Refusal) : Prop where
  variant : ∃ name, refusal.variant = some name ∧ tag.Names name
  badSize : refusal.kind = .badSize → refusal.variant = some tag.title ∧
    ∃ detail, refusal.message = tag.title ++ ": " ++ detail
  badSignature : refusal.kind = .badSignature → refusal.variant = some tag.sort

theorem recordOf_attributed
    (h : recordOf scheme acceptText tag fields = .error (.refused refusal)) :
    Attributed tag refusal := by
  obtain shape | ⟨record, -, -, -, ⟨⟩⟩ := recordOf_eq_error_iff.1 h
  · cases ofShape_of_recordOf shape with
    | fieldSize mismatch =>
        exact ⟨⟨_, rfl, tag.names_title⟩, fun _ => ⟨rfl, mismatch.message, rfl⟩, nofun⟩
    | innerTag numbered fault => exact ⟨⟨_, rfl, tag.names_title⟩, nofun, nofun⟩
    | fieldCount | fieldNotOctets | fieldNotArray | familyCount | familyMismatch =>
        exact ⟨⟨_, rfl, tag.names_sort⟩, nofun, nofun⟩
  · exact ⟨⟨_, rfl, tag.names_sort⟩, nofun, fun _ => rfl⟩

/-- Of all that is looked at in the fields, the first that is wrong is a field of the wrong size. -/
def MissizedFirst (acceptText : Bool) (tag : Tag) (fields : List Item) (mismatch : SizeMismatch) :
    Prop :=
  ∃ before size field item after, checks tag fields = before ++ .sized size field item :: after ∧
    (∀ check ∈ before, check.failure? tag acceptText = none) ∧
    mismatch? size field item = some mismatch

/-- Only a check of a size fails with a mismatch of sizes. -/
theorem failure?_eq_fieldSize_iff {check : Check} {mismatch : SizeMismatch} :
    check.failure? tag acceptText = some (.refused (.fieldSize tag mismatch)) ↔
      ∃ size field item, check = .sized size field item ∧
        mismatch? size field item = some mismatch := by
  cases check with
  | sized size field item => simp [Check.failure?]
  | count expected fields =>
      simp only [Check.failure?]
      split <;> simp
  | octets field item | array field item => cases item <;> simp [Check.failure?]
  | number item =>
      simp only [Check.failure?]
      split
      · simp
      · next problem _ => cases problem <;> simp [Failure.ofTag]
  | three items =>
      simp only [Check.failure?]
      split <;> simp
  | triple family items =>
      simp only [Check.failure?]
      split <;> simp

theorem recordOf_eq_fieldSize_iff {mismatch : SizeMismatch} :
    recordOf scheme acceptText tag fields = .error (.refused (.fieldSize tag mismatch)) ↔
      MissizedFirst acceptText tag fields mismatch := by
  have shape : recordOf scheme acceptText tag fields = .error (.refused (.fieldSize tag mismatch)) ↔
      recordOf .lenient acceptText tag fields = .error (.refused (.fieldSize tag mismatch)) := by
    rw [recordOf_eq_error_iff]
    simp
  rw [shape, recordOf_lenient_eq_error_iff, List.findSome?_eq_some_iff]
  constructor
  · rintro ⟨before, check, after, split, fails, passed⟩
    obtain ⟨size, field, item, rfl, found⟩ := failure?_eq_fieldSize_iff.1 fails
    exact ⟨before, size, field, item, after, split, passed, found⟩
  · rintro ⟨before, size, field, item, after, split, passed, found⟩
    exact ⟨before, _, after, split, failure?_eq_fieldSize_iff.2 ⟨_, _, _, rfl, found⟩, passed⟩

end

end Message

/-! ## Refusals of a call -/

namespace Node

open Message (Unopened Framed Attributed MissizedFirst)

variable {scheme : Scheme} {config : Config} {message : Octets} {node : Node} {refusal : Refusal}

theorem ending_eq_refused_iff :
    ending scheme config message node = .error (.refused refusal) ↔
      Message.decode scheme config message = .error (.refused refusal) := by
  rw [ending_eq_error_iff]
  constructor
  · rintro ⟨failure, failed, same⟩
    cases failure with
    | refused other =>
        cases same
        exact failed
    | oversizedNumeral => cases same
  · intro failed
    exact ⟨_, failed, rfl⟩

theorem ending_eq_fieldSize_iff {tag : Tag} {mismatch : SizeMismatch} :
    ending scheme config message node = .error (.refused (.fieldSize tag mismatch)) ↔
      (message.length : Int) ≤ config.maxMessageBytes ∧
        ∃ fields, Framed config.acceptTextTags tag fields message ∧
          MissizedFirst config.acceptTextTags tag fields mismatch := by
  rw [ending_eq_refused_iff]
  constructor
  · intro failed
    obtain ⟨-, ⟨⟩⟩ | ⟨other, fields, small, framed, building⟩ :=
      Message.decode_refused_cases failed
    obtain ⟨⟨name, titled, named⟩, -, -⟩ := Message.recordOf_attributed building
    have same : tag = other := by
      cases titled
      exact named.2.1 tag rfl
    subst same
    exact ⟨small, fields, framed, Message.recordOf_eq_fieldSize_iff.1 building⟩
  · rintro ⟨small, fields, framed, missized⟩
    exact (Message.decode_eq_error_iff small).2
      (.inr (.inr ⟨tag, fields, framed, Message.recordOf_eq_fieldSize_iff.2 missized⟩))

/-- Attributed to nothing are the refusals of messages whose fields are not reached.  Every other
refusal is attributed to the leading tag, by its name or its sort and no other's: by the name where a
field is of the wrong size, and the text starts with it, and by the sort where a signature fails.  A
size that does not fit is always reported as a refusal of that kind. -/
theorem refusals_attributed (scheme : Scheme) (config : Config) (message : Octets) (node : Node) :
    (∀ refusal, ending scheme config message node = .error (.refused refusal) →
      (refusal.variant = none ↔ Unopened config message) ∧
      (¬ Unopened config message → ∃ tag fields,
        Framed config.acceptTextTags tag fields message ∧ Attributed tag refusal) ∧
      (refusal.kind = .badSize ∨ refusal.kind = .badSignature → ¬ Unopened config message)) ∧
    (∀ tag mismatch,
      ending scheme config message node = .error (.refused (.fieldSize tag mismatch)) ↔
        (message.length : Int) ≤ config.maxMessageBytes ∧
          ∃ fields, Framed config.acceptTextTags tag fields message ∧
            MissizedFirst config.acceptTextTags tag fields mismatch) ∧
    ∀ mismatch, ending scheme config message node ≠ .error (.size mismatch) := by
  refine ⟨fun refusal ended => ?_, fun tag mismatch => ending_eq_fieldSize_iff, ?_⟩
  · obtain ⟨unopened, unattributed⟩ | ⟨tag, fields, small, framed, building⟩ :=
      Message.decode_refused_cases (ending_eq_refused_iff.1 ended)
    · refine ⟨⟨fun _ => unopened, fun _ => unattributed⟩, fun opened => absurd unopened opened, ?_⟩
      intro kind
      cases refusal <;> simp [Refusal.variant, Refusal.kind] at unattributed kind
    · have opened : ¬ Unopened config message := framed.not_unopened small
      have attributed : Attributed tag refusal := Message.recordOf_attributed building
      refine ⟨?_, fun _ => ⟨tag, fields, framed, attributed⟩, fun _ => opened⟩
      obtain ⟨name, named, -⟩ := attributed.variant
      rw [named]
      exact ⟨fun missing => absurd missing (Option.some_ne_none name),
        fun unopened => absurd unopened opened⟩
  · intro mismatch ended
    obtain ⟨failure, -, same⟩ := ending_eq_error_iff.1 ended
    cases failure <;> cases same

/-- The message of a name of one octet. -/
def shortName : Octets := [0xCE, 0x00, 0x53, 0xA9, 0xF8] ++ [0x91, 0xC4, 0x01, 0x07]

theorem framed_shortName : Framed true .name [.bin [0x07]] shortName := by
  have word : ((0xCE : UInt8), 4) ∈ MessagePack.Head.unsignedForms := by decide
  have octets : ((0xC4 : UInt8), 1) ∈ MessagePack.Head.binForms := by decide
  have lead : Item.Form maxDepth (.int Tag.name.number)
      (0xCE :: Octets.bigEndian 4 Tag.name.number) :=
    .int (.unsigned word (by decide))
  have id : Item.Form 1023 (.bin [0x07]) (0xC4 :: Octets.bigEndian 1 1 ++ [0x07]) :=
    .bin (.bin octets (by decide))
  exact .mk lead .int (.array rfl (.shortArray (by decide)) (.cons id .nil))

/-- The name is too short, and the report says so under the tag of names. -/
theorem refusals_attributed_shortName :
    ending .lenient {} shortName {} =
        .error (.refused (.fieldSize .name (.of 64 1 "NameType.id"))) ∧
      Refusal.variant (.fieldSize .name (.of 64 1 "NameType.id")) ≠ none := by
  obtain ⟨attributed, sized, -⟩ := refusals_attributed .lenient {} shortName {}
  have missized : MissizedFirst true .name [.bin [0x07]] (.of 64 1 "NameType.id") :=
    ⟨[.count 1 _], 64, "NameType.id", .bin [0x07], [], rfl, by simp [Message.Check.failure?], rfl⟩
  have ended := (sized .name (.of 64 1 "NameType.id")).2
    ⟨by decide, _, framed_shortName, missized⟩
  obtain ⟨unattributed, -, opened⟩ := attributed _ ended
  exact ⟨ended, fun none => opened (.inl rfl) (unattributed.1 none)⟩

end Node

end Overlay
