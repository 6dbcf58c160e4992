/-
# Overlay.Proofs.Message.PrefixFree -- no message is the start of another

A message under a registered tag says where it ends.  Cut short it is malformed, wherever
the cut is: in the tag (`readTag_front`) or in the fields (`readFields_front`).  With octets
after its fields it is malformed as well (`readFields_append`).  So no message that is
decoded to a record is the start of another (`registered_prefix_free`).

The bound on counts goes with the length of the message.  A cut can therefore show as a
count that is too high, before it shows as octets that are missing.
-/
import Overlay.Proofs.Message.RoundTrip
import Overlay.Proofs.MessagePack.Extension

namespace Overlay.Message

set_option autoImplicit false

open MessagePack (Item maxDepth readItem readItem_extends)

/-- The message is refused as malformed. -/
def Malformed (scheme : Scheme) (config : Config) (message : Octets) : Prop :=
  ∃ refusal, decode scheme config message = .error (.refused refusal) ∧ refusal.kind = .malformed

/-! ## The two parts of a message, cut or followed by more -/

section Parts

variable {acceptText : Bool} {front more message rest : Octets} {number limit limit' : Nat}
  {fields : List Item}

theorem limitOf_le_limitOf_append (front more : Octets) :
    limitOf front ≤ limitOf (front ++ more) := by
  simp only [limitOf, List.length_append]
  omega

/-- The tag stays what it is, whatever follows. -/
theorem readTag_append (h : readTag acceptText message = .ok (number, rest)) (more : Octets) :
    readTag acceptText (message ++ more) = .ok (number, rest ++ more) := by
  obtain ⟨item, form, rfl, lead, spelled⟩ := readTag_eq_ok_iff.1 h
  exact readTag_eq_ok_iff.2 ⟨item, form, List.append_assoc .., lead, spelled⟩

/-- The front of a message either holds the whole tag or ends within it. -/
theorem readTag_front (h : readTag acceptText (front ++ more) = .ok (number, rest)) :
    (∃ after, rest = after ++ more ∧ readTag acceptText front = .ok (number, after)) ∨
      ∃ refusal, readTag acceptText front = .error (.refused refusal) ∧
        refusal.kind = .malformed := by
  have step := readItem_extends (limitOf_le_limitOf_append front more) maxDepth front more
  unfold readTag at h ⊢
  generalize readItem (limitOf front) maxDepth front = before at step ⊢
  generalize readItem (limitOf (front ++ more)) maxDepth (front ++ more) = whole at step h
  cases step with
  | @read item after =>
      left
      dsimp only at h ⊢
      split at h
      · next spelled =>
        cases h
        exact ⟨after, rfl, rfl⟩
      · cases h
  | refused closed =>
      -- what is refused here is refused in the whole message, whose tag was read
      split at h
      · cases h
      · cases h
      · cases h
      · next read => cases read
  | @waiting fault opened _ =>
      right
      cases fault with
      | truncated => exact ⟨_, rfl, rfl⟩
      | tooManyItems count => exact ⟨_, rfl, rfl⟩
      | tooManyPairs count => exact ⟨_, rfl, rfl⟩
      | oversizedExt => exact ⟨_, rfl, rfl⟩
      | _ => cases opened

/-- The front of the fields is no array of fields. -/
theorem readFields_front (higher : limit ≤ limit') (cut : more ≠ [])
    (h : readFields limit' (front ++ more) = .ok fields) :
    ∃ refusal, readFields limit front = .error (.refused refusal) ∧
      refusal.kind = .malformed := by
  cases found : readFields limit front with
  | error failure =>
      obtain ⟨refusal, rfl, -, kind⟩ := readFields_error found
      exact ⟨refusal, rfl, kind⟩
  | ok others =>
      exfalso
      have step := readItem_extends higher maxDepth front more
      unfold readFields at h found
      generalize readItem limit maxDepth front = before at step found
      generalize readItem limit' maxDepth (front ++ more) = whole at step h
      cases step with
      | @read item after =>
          cases after with
          | nil =>
              obtain ⟨first, others, rfl⟩ := List.exists_cons_of_ne_nil cut
              cases h
          | cons first after => cases found
      | @refused fault closed => cases fault <;> cases found
      | @waiting fault opened _ => cases fault <;> cases found

/-- Octets after the fields are too many. -/
theorem readFields_append (higher : limit ≤ limit') (some : more ≠ [])
    (h : readFields limit rest = .ok fields) :
    readFields limit' (rest ++ more) = .error (.refused (.trailing more.length)) := by
  have step := readItem_extends higher maxDepth rest more
  unfold readFields at h ⊢
  generalize readItem limit maxDepth rest = before at step h
  generalize readItem limit' maxDepth (rest ++ more) = whole at step ⊢
  cases step with
  | @read item after =>
      cases after with
      | nil =>
          obtain ⟨first, others, rfl⟩ := List.exists_cons_of_ne_nil some
          rfl
      | cons first after => cases h
  | @refused fault closed => cases fault <;> cases h
  | @waiting fault opened _ => cases fault <;> cases h

end Parts

/-! ## Whole messages -/

section

variable {scheme : Scheme} {config : Config} {front more message : Octets} {tag : Tag}
  {fields : List Item}

theorem malformed_of_too_large (nonneg : 0 ≤ config.maxMessageBytes)
    (large : config.maxMessageBytes < message.length) : Malformed scheme config message :=
  ⟨_, (decode_of_too_large large).trans (congrArg Except.error (tooLarge_of_nonneg nonneg _)), rfl⟩

theorem malformed_of_cut (nonneg : 0 ≤ config.maxMessageBytes)
    (framed : Framed config.acceptTextTags tag fields (front ++ more)) (cut : more ≠ []) :
    Malformed scheme config front := by
  by_cases small : (front.length : Int) ≤ config.maxMessageBytes
  · obtain ⟨rest, leading, following⟩ := framed_iff.1 framed
    obtain ⟨after, rfl, lead⟩ | ⟨refusal, refused, kind⟩ := readTag_front leading
    · obtain ⟨refusal, refused, kind⟩ :=
        readFields_front (limitOf_le_limitOf_append front more) cut following
      exact ⟨refusal, (decode_eq_error_iff small).2 (.inr (.inl ⟨tag, after, lead, refused⟩)), kind⟩
    · exact ⟨refusal, (decode_eq_error_iff small).2 (.inl refused), kind⟩
  · exact malformed_of_too_large nonneg (by omega)

theorem malformed_of_append (nonneg : 0 ≤ config.maxMessageBytes)
    (framed : Framed config.acceptTextTags tag fields message) (some : more ≠ []) :
    Malformed scheme config (message ++ more) := by
  by_cases small : ((message ++ more).length : Int) ≤ config.maxMessageBytes
  · obtain ⟨rest, leading, following⟩ := framed_iff.1 framed
    have lead := readTag_append leading more
    have refused := readFields_append (limitOf_le_limitOf_append message more) some following
    exact ⟨_, (decode_eq_error_iff small).2 (.inr (.inl ⟨tag, rest ++ more, lead, refused⟩)), rfl⟩
  · exact malformed_of_too_large nonneg (by omega)

/-- A message that is decoded to a record is malformed when it is cut short anywhere, and when
anything follows it. -/
theorem registered_prefix_free (scheme : Scheme) (config : Config) {message : Octets}
    {record : Record} (decoded : decode scheme config message = .ok (.record record)) :
    (∀ front more, message = front ++ more → more ≠ [] → Malformed scheme config front) ∧
      ∀ more, more ≠ [] → Malformed scheme config (message ++ more) := by
  obtain ⟨small, tag, fields, framed, -⟩ := decode_eq_record_iff_recordOf.1 decoded
  have nonneg : 0 ≤ config.maxMessageBytes := by omega
  constructor
  · intro front more split cut
    rw [split] at framed
    exact malformed_of_cut nonneg framed cut
  · intro more some
    exact malformed_of_append nonneg framed some

/-- A message in its longer forms, cut at every place and with one octet more. -/
theorem registered_prefix_free_block :
    decode .lenient {} exampleLongMessage = .ok (.record exampleBlock) ∧
      (∀ n < exampleLongMessage.length, Malformed .lenient {} (exampleLongMessage.take n)) ∧
      Malformed .lenient {} (exampleLongMessage ++ [0x6F]) := by
  have decoded : decode .lenient {} exampleLongMessage = .ok (.record exampleBlock) :=
    decode_eq_record_iff.2 ⟨by decide, written_exampleLongMessage, rfl⟩
  obtain ⟨cut, followed⟩ := registered_prefix_free .lenient {} decoded
  refine ⟨decoded, fun n inside => ?_, followed _ (by decide)⟩
  have some : exampleLongMessage.drop n ≠ [] := by
    rw [Ne, List.drop_eq_nil_iff]
    omega
  exact cut _ _ (List.take_append_drop n exampleLongMessage).symm some

end

end Overlay.Message
