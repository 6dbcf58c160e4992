/-
# Overlay.Proofs.Message.ShapeFailure -- what can be wrong with the fields

A record that the fields describe fails by its signature or not at all
(`recordOf_eq_badSignature_iff`).  Fields that describe none fail in one of the few ways
that the shape under their tag can (`Failure.OfShape`), and of these only a numeral that
is too long is no refusal.  `LongInside` says where it must stand for that: everything
that is read before it must be in order (`recordOf_eq_oversized_iff`).
-/
import Mathlib.Tactic.SplitIfs
import Overlay.Proofs.Message.Checks

namespace Overlay

set_option autoImplicit false

open MessagePack (Item)

/-! ## Failures of a shape -/

/-- What can be wrong with the shape of the fields under a tag. -/
inductive Failure.OfShape (tag : Tag) : Failure → Prop where
  | fieldCount (expected actual : Nat) : OfShape tag (.refused (.fieldCount tag expected actual))
  | fieldNotOctets (field typeName : String) :
      OfShape tag (.refused (.fieldNotOctets tag field typeName))
  | fieldNotArray (field typeName : String) :
      OfShape tag (.refused (.fieldNotArray tag field typeName))
  | fieldSize (mismatch : SizeMismatch) : OfShape tag (.refused (.fieldSize tag mismatch))
  | innerTag (numbered : tag.holdsNumbers = true) (fault : TagFault) :
      OfShape tag (.refused (.innerTag tag fault))
  | oversized (numbered : tag.holdsNumbers = true) : OfShape tag .oversizedNumeral
  | familyCount (numbered : tag.holdsNumbers = true) (count : Nat) :
      OfShape tag (.refused (.familyCount tag count))
  | familyMismatch (numbered : tag.holdsNumbers = true) (numbers : List Nat) :
      OfShape tag (.refused (.familyMismatch tag numbers))

namespace Message

/-- A check fails in one of the ways of a shape. -/
theorem Check.ofShape {tag : Tag} {acceptText : Bool} {fields : List Item} {check : Check}
    {failure : Failure} (under : check.Under tag fields)
    (fails : check.failure? tag acceptText = some failure) : failure.OfShape tag := by
  cases under with
  | count =>
      simp only [Check.failure?, Option.ite_none_left_eq_some, Option.some.injEq] at fails
      obtain ⟨-, rfl⟩ := fails
      exact .fieldCount _ _
  | sized =>
      obtain ⟨mismatch, -, rfl⟩ := Option.map_eq_some_iff.1 fails
      exact .fieldSize mismatch
  | @octets field item =>
      cases item <;> cases fails <;> exact .fieldNotOctets _ _
  | @array field item =>
      cases item <;> cases fails <;> exact .fieldNotArray _ _
  | @number item numbered =>
      simp only [Check.failure?] at fails
      split at fails
      · cases fails
      · next problem _ =>
        cases fails
        cases problem with
        | refused fault => exact .innerTag numbered fault
        | oversized => exact .oversized numbered
  | three numbered =>
      simp only [Check.failure?, Option.ite_none_left_eq_some, Option.some.injEq] at fails
      obtain ⟨-, rfl⟩ := fails
      exact .familyCount numbered _
  | triple numbered =>
      simp only [Check.failure?, Option.ite_none_left_eq_some, Option.some.injEq] at fails
      obtain ⟨-, rfl⟩ := fails
      exact .familyMismatch numbered _

theorem ofShape_of_recordOf {acceptText : Bool} {tag : Tag} {fields : List Item}
    {failure : Failure} (h : recordOf .lenient acceptText tag fields = .error failure) :
    failure.OfShape tag := by
  rw [recordOf_lenient_eq_error_iff, List.findSome?_eq_some_iff] at h
  obtain ⟨before, check, after, split, fails, -⟩ := h
  have member : check ∈ checks tag fields := by simp [split]
  exact Check.ofShape (under_of_mem_checks check member) fails

/-! ## What becomes of the fields -/

section

variable {scheme : Scheme} {acceptText : Bool} {tag : Tag} {fields : List Item}

/-- A record is read from the items that describe it, if it verifies, and from no others. -/
theorem recordOf_eq_ok_iff {record : Record} :
    recordOf scheme acceptText tag fields = .ok record ↔
      record.tag = tag ∧ Record.Described acceptText record fields ∧
        record.verifies scheme = true := by
  rw [recordOf_eq_bind, bind_eq_ok_iff]
  simp only [recordOf_lenient_eq_ok_iff, verified]
  constructor
  · rintro ⟨shaped, ⟨same, described⟩, h⟩
    split_ifs at h with verifies
    · cases h
      exact ⟨same, described, verifies⟩
    · cases h
  · rintro ⟨same, described, verifies⟩
    exact ⟨record, ⟨same, described⟩, if_pos verifies⟩

/-- A failure is of the shape of the fields, or else of the signature of the record that they
describe. -/
theorem recordOf_eq_error_iff {failure : Failure} :
    recordOf scheme acceptText tag fields = .error failure ↔
      recordOf .lenient acceptText tag fields = .error failure ∨
        ∃ record, record.tag = tag ∧ Record.Described acceptText record fields ∧
          record.verifies scheme = false ∧ failure = .refused (.badSignature tag) := by
  rw [recordOf_eq_bind, bind_eq_error_iff]
  simp only [recordOf_lenient_eq_ok_iff, verified]
  refine or_congr_right ?_
  constructor
  · rintro ⟨record, ⟨rfl, described⟩, h⟩
    split_ifs at h with verifies
    · cases h
      exact ⟨record, rfl, described, by simpa using verifies, rfl⟩
  · rintro ⟨record, rfl, described, fails, rfl⟩
    exact ⟨record, ⟨rfl, described⟩, by simp [fails, Message.refuse]⟩

/-- A signature is refused exactly on items that describe a record. -/
theorem recordOf_eq_badSignature_iff {refusal : Refusal} (kind : refusal.kind = .badSignature) :
    recordOf scheme acceptText tag fields = .error (.refused refusal) ↔
      refusal = .badSignature tag ∧ ∃ record, record.tag = tag ∧
        Record.Described acceptText record fields ∧ record.verifies scheme = false := by
  rw [recordOf_eq_error_iff]
  constructor
  · rintro (shape | ⟨record, same, described, fails, ⟨⟩⟩)
    · have ofShape := ofShape_of_recordOf shape
      cases ofShape <;> cases kind
    · exact ⟨rfl, record, same, described, fails⟩
  · rintro ⟨rfl, record, same, described, fails⟩
    exact .inr ⟨record, same, described, fails, rfl⟩

/-! ### Numerals that are too long -/

/-- Among the fields under the tag there is a numeral that is too long, and everything that is read
before it can be read. -/
inductive LongInside (acceptText : Bool) : Tag → List Item → Prop where
  | payload {inner octets : Item} (long : Tag.LongNumeral inner) :
      LongInside acceptText .payload [inner, octets]
  | revocationKey {family : Family} {before after : List Item} {item publicKey secretKey : Item}
      (three : before.length + 1 + after.length = 3)
      (read : ∀ earlier ∈ before, ∃ number, number < Tag.bound ∧
        Tag.Spelling acceptText number earlier)
      (long : Tag.LongNumeral item) :
      LongInside acceptText (.revocationKey family)
        [.array (before ++ item :: after), publicKey, secretKey]

theorem tagField_eq_oversized_iff {item : Item} :
    tagField tag acceptText item = .error .oversizedNumeral ↔
      acceptText = true ∧ Tag.LongNumeral item := by
  rw [← Tag.read_eq_oversized_iff, tagField]
  cases Tag.read acceptText (.ofItem item) with
  | ok number => simp
  | error problem => cases problem <;> simp [Failure.ofTag]

theorem fixedField_ne_oversized {size : Nat} {field : String} {item : Item} :
    fixedField tag size field item ≠ .error .oversizedNumeral := by
  unfold fixedField
  split
  · split <;> rintro ⟨⟩
  · rintro ⟨⟩

theorem octetsField_ne_oversized {field : String} {item : Item} :
    octetsField tag field item ≠ .error .oversizedNumeral := by
  unfold octetsField
  split <;> rintro ⟨⟩

theorem arrayField_ne_oversized {field : String} {item : Item} :
    arrayField tag field item ≠ .error .oversizedNumeral := by
  unfold arrayField
  split <;> rintro ⟨⟩

theorem familyField_eq_oversized_iff {family : Family} {item : Item} :
    familyField tag family acceptText item = .error .oversizedNumeral ↔
      ∃ before long after, item = .array (before ++ long :: after) ∧
        before.length + 1 + after.length = 3 ∧
        (∀ earlier ∈ before, ∃ number, number < Tag.bound ∧
          Tag.Spelling acceptText number earlier) ∧
        acceptText = true ∧ Tag.LongNumeral long := by
  simp only [familyField, bind_eq_error_iff, arrayField_ne_oversized, arrayField_eq_ok_iff,
    false_or]
  constructor
  · rintro ⟨items, rfl, h⟩
    split_ifs at h with count
    · cases h
    · simp only [pure, Except.pure, bind_eq_error_iff, mapM_eq_error_iff, tagField_eq_ok_iff,
        tagField_eq_oversized_iff] at h
      obtain ⟨before, long, after, rfl, read, oversized⟩ | ⟨numbers, -, h⟩ := h
      · refine ⟨before, long, after, rfl, ?_, read, oversized⟩
        simp only [List.length_append, List.length_cons] at count
        omega
      · split_ifs at h
        cases h
  · rintro ⟨before, long, after, rfl, three, read, oversized⟩
    refine ⟨_, rfl, ?_⟩
    rw [if_neg (by simp only [List.length_append, List.length_cons]; omega)]
    simp only [pure, Except.pure, bind_eq_error_iff, mapM_eq_error_iff, tagField_eq_ok_iff,
      tagField_eq_oversized_iff]
    exact .inl ⟨before, long, after, rfl, read, oversized⟩

/-- Reading the fields ends at a numeral that is too long exactly where there is one and nothing
before it ends the reading. -/
theorem recordOf_eq_oversized_iff :
    recordOf scheme acceptText tag fields = .error .oversizedNumeral ↔
      acceptText = true ∧ LongInside acceptText tag fields := by
  rw [recordOf_eq_error_iff]
  constructor
  · rintro (shape | ⟨_, _, _, _, ⟨⟩⟩)
    have ofShape := ofShape_of_recordOf shape
    cases ofShape with
    | oversized numbered =>
      cases tag with
      | payload =>
          simp only [recordOf] at shape
          split at shape
          · simp only [bind_eq_error_iff, tagField_eq_oversized_iff, octetsField_ne_oversized,
              false_or] at shape
            obtain ⟨accepted, long⟩ | ⟨number, -, octets, -, h⟩ := shape
            · exact ⟨accepted, .payload long⟩
            · split at h <;> cases h
          · cases shape
      | revocationKey family =>
          simp only [recordOf] at shape
          split at shape
          · simp only [bind_eq_error_iff, familyField_eq_oversized_iff, fixedField_ne_oversized,
              false_or] at shape
            obtain ⟨before, long, after, rfl, three, read, accepted, oversized⟩ |
              ⟨-, -, -, -, -, -, ⟨⟩⟩ := shape
            exact ⟨accepted, .revocationKey three read oversized⟩
          · cases shape
      | _ => cases numbered
  · rintro ⟨accepted, h⟩
    left
    cases h with
    | payload long =>
        simp only [recordOf, bind_eq_error_iff, tagField_eq_oversized_iff]
        exact .inl ⟨accepted, long⟩
    | revocationKey three read long =>
        simp only [recordOf, bind_eq_error_iff, familyField_eq_oversized_iff]
        exact .inl ⟨_, _, _, rfl, three, read, accepted, long⟩

end

end Message

end Overlay
