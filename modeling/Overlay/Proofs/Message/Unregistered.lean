/-
# Overlay.Proofs.Message.Unregistered -- messages under tags of later versions

A message whose tag is not registered is decoded to that tag and nothing else
(`decode_eq_unknown_iff`).  `Leads` says what such a message starts with, a form of an item
that spells the number; of what follows it says nothing, and nothing of it is looked at
(`leads_append_iff`), although the reader of the tag is told how long the whole message is.
-/
import Overlay.Datum.Registry
import Overlay.Proofs.Message.Grammar

namespace Overlay.Message

set_option autoImplicit false

open MessagePack (Item maxDepth)

/-- The message starts with a tag of the given number, in any form of any spelling. -/
def Leads (acceptText : Bool) (number : Nat) (message : Octets) : Prop :=
  ∃ item front rest, message = front ++ rest ∧ Item.Form maxDepth item front ∧
    number < Tag.bound ∧ Tag.Spelling acceptText number item

section

variable {acceptText : Bool} {number : Nat}

theorem leads_iff {message : Octets} :
    Leads acceptText number message ↔ ∃ rest, readTag acceptText message = .ok (number, rest) := by
  simp only [readTag_eq_ok_iff]
  constructor
  · rintro ⟨item, front, rest, leads⟩
    exact ⟨rest, item, front, leads⟩
  · rintro ⟨rest, item, front, leads⟩
    exact ⟨item, front, rest, leads⟩

/-- Whether a message starts with a tag is settled by the item at its front. -/
theorem leads_append_iff {item : Item} {front : Octets} (lead : Item.Form maxDepth item front)
    (rest : Octets) :
    Leads acceptText number (front ++ rest) ↔
      number < Tag.bound ∧ Tag.Spelling acceptText number item := by
  constructor
  · rintro ⟨other, start, after, same, form, below, spelled⟩
    obtain ⟨rfl, -, -⟩ := lead.eq_of_append_eq form same
    exact ⟨below, spelled⟩
  · rintro ⟨below, spelled⟩
    exact ⟨item, front, rest, rfl, lead, below, spelled⟩

end

section

variable {scheme : Scheme} {config : Config} {message : Octets} {number : Nat}

theorem decode_eq_unknown_iff :
    decode scheme config message = .ok (.unknown number) ↔
      (message.length : Int) ≤ config.maxMessageBytes ∧
        Leads config.acceptTextTags number message ∧ Tag.ofNumber? number = none := by
  by_cases small : (message.length : Int) ≤ config.maxMessageBytes
  · simp only [small, true_and, decode_of_size small, bind_eq_ok_iff, leads_iff]
    constructor
    · rintro ⟨⟨found, rest⟩, leading, h⟩
      dsimp only at h
      split at h
      · next unregistered =>
        cases h
        exact ⟨⟨rest, leading⟩, unregistered⟩
      · -- under a registered tag a record is decoded
        simp only [bind_eq_ok_iff] at h
        obtain ⟨_, _, _, _, ⟨⟩⟩ := h
    · rintro ⟨⟨rest, leading⟩, unregistered⟩
      refine ⟨_, leading, ?_⟩
      simp only [unregistered]
  · rw [decode_of_too_large (by omega)]
    simp [small]

theorem isRegistered_eq_false_iff :
    (Datum.int number).isRegistered = false ↔ Tag.ofNumber? number = none := by
  have registered : (Datum.int number).isRegistered = (Tag.ofNumber? number).isSome := rfl
  rw [registered, Option.isSome_eq_false_iff, Option.isNone_iff_eq_none]

/-- A message of the allowed size is unknown under exactly the number that it starts with, if that
is not registered; and with anything else after its tag it is unknown under the same number. -/
theorem unknown_exactly_under_unregistered_tags (scheme : Scheme) (config : Config)
    {message : Octets} (small : (message.length : Int) ≤ config.maxMessageBytes) :
    (∀ number, decode scheme config message = .ok (.unknown number) ↔
      Leads config.acceptTextTags number message ∧ (Datum.int number).isRegistered = false) ∧
    ∀ item front rest, Item.Form maxDepth item front → message = front ++ rest →
      ∀ other, ((front ++ other).length : Int) ≤ config.maxMessageBytes → ∀ number,
        decode scheme config (front ++ other) = .ok (.unknown number) ↔
          decode scheme config message = .ok (.unknown number) := by
  constructor
  · intro number
    rw [decode_eq_unknown_iff, isRegistered_eq_false_iff]
    simp only [small, true_and]
  · rintro item front rest lead rfl other within number
    simp only [decode_eq_unknown_iff, leads_append_iff lead, small, within]

/-- The tag 42 in four digits, before an octet that starts no object and before nothing. -/
theorem unknown_forty_two :
    decode .lenient {} [0xA4, 0x30, 0x30, 0x34, 0x32, 0xC1] = .ok (.unknown 42) ∧
      decode .lenient {} [0xA4, 0x30, 0x30, 0x34, 0x32] = .ok (.unknown 42) := by
  have lead : Item.Form maxDepth (.str "0042") ([0xA4] ++ "0042".toUTF8.data.toList) :=
    .str (.shortStr (by decide))
  have numeral : Tag.Numeral [0, 0, 4, 2] (.str "0042") := .str (by decide)
  have spelled : Tag.Spelling true 42 (.str "0042") :=
    .numeral rfl numeral (by decide) (by decide) (by decide)
  have small : (([0xA4, 0x30, 0x30, 0x34, 0x32, 0xC1] : Octets).length : Int) ≤
      ({} : Config).maxMessageBytes := by decide
  obtain ⟨exactly, alike⟩ := unknown_exactly_under_unregistered_tags .lenient {} small
  have unknown := (exactly 42).2 ⟨⟨_, _, [0xC1], rfl, lead, by decide, spelled⟩, by decide⟩
  exact ⟨unknown, (alike _ _ [0xC1] lead rfl [] (by decide) 42).2 unknown⟩

end

end Overlay.Message
