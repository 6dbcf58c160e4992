/-
# Overlay.Proofs.Message.Secrecy -- what of a message depends on its secret keys

Two records hold secret keys: a revocation key and an identity.  Two lists of fields that
differ in these alone (`AgreeBut`), whatever else is in them, are written in as many octets,
read back alike, and make records that differ in these alone, or fail alike
(`recordOf_concealed`): the fields before the secret ones are the same, and of a secret
one only its length is looked at.

`decode_concealed` says so of whole messages, with anything after them.
-/
import Overlay.Proofs.MessagePack.Rereading
import Overlay.Proofs.Message.RoundTrip
import Overlay.Record.Text

namespace Overlay

set_option autoImplicit false

open MessagePack (Item maxDepth)

/-! ## Lists that agree but at some positions -/

/-- The lists are of one length and hold the same but at some positions, where what they hold is
related. -/
structure AgreeBut {α : Type} (positions : List Nat) (related : α → α → Prop) (a b : List α) :
    Prop where
  length_eq : a.length = b.length
  elsewhere : ∀ i, i ∉ positions → a[i]? = b[i]?
  inside : ∀ i ∈ positions, ∀ x y, a[i]? = some x → b[i]? = some y → related x y

namespace AgreeBut

variable {α β : Type} {positions : List Nat} {related : α → α → Prop} {a b : List α}

theorem map {relatedTo : β → β → Prop} {f : α → β} (h : AgreeBut positions related a b)
    (image : ∀ x y, related x y → relatedTo (f x) (f y)) :
    AgreeBut positions relatedTo (a.map f) (b.map f) where
  length_eq := by simpa using h.length_eq
  elsewhere i outside := by rw [List.getElem?_map, List.getElem?_map, h.elsewhere i outside]
  inside i member x y hx hy := by
    rw [List.getElem?_map, Option.map_eq_some_iff] at hx hy
    obtain ⟨x, hx, rfl⟩ := hx
    obtain ⟨y, hy, rfl⟩ := hy
    exact image x y (h.inside i member x y hx hy)

/-- Item by item the lists hold the same or what is related. -/
theorem forall₂ (h : AgreeBut positions related a b) :
    List.Forall₂ (fun x y => x = y ∨ related x y) a b := by
  rw [List.forall₂_iff_get]
  refine ⟨h.length_eq, fun i inA inB => ?_⟩
  by_cases member : i ∈ positions
  · exact .inr (h.inside i member _ _ (by simp) (by simp))
  · have same := h.elsewhere i member
    rw [List.getElem?_eq_getElem inA, List.getElem?_eq_getElem inB] at same
    exact .inl (Option.some.inj same)

/-- What does not tell related things apart is the same of both lists, item by item. -/
theorem map_eq {f : α → β} (h : AgreeBut positions related a b)
    (same : ∀ x y, related x y → f x = f y) : a.map f = b.map f := by
  rw [← List.forall₂_eq_eq_eq, List.forall₂_map_left_iff, List.forall₂_map_right_iff]
  exact h.forall₂.imp fun x y pair => pair.elim (congrArg f) (same x y)

theorem all_eq {f : α → Bool} (h : AgreeBut positions related a b)
    (same : ∀ x y, related x y → f x = f y) : a.all f = b.all f := by
  have whole := congrArg (fun flags => flags.all id) (h.map_eq same)
  simpa only [List.all_map, Function.id_comp] using whole

theorem findSome?_eq {f : α → Option β} (h : AgreeBut positions related a b)
    (same : ∀ x y, related x y → f x = f y) : a.findSome? f = b.findSome? f := by
  have whole := congrArg (fun found => found.findSome? id) (h.map_eq same)
  simpa only [List.findSome?_map, Function.id_comp] using whole

theorem eq_of_nil (h : AgreeBut [] related a b) : a = b :=
  List.ext_getElem? fun i => h.elsewhere i List.not_mem_nil

/-- Lists of three that agree but at the last position. -/
theorem of_three {x y z : α} (h : AgreeBut [2] related [x, y, z] b) :
    ∃ z', b = [x, y, z'] ∧ related z z' := by
  obtain ⟨x', y', z', rfl⟩ := List.length_eq_three.1 h.length_eq.symm
  have first : some x = some x' := h.elsewhere 0 (by decide)
  have second : some y = some y' := h.elsewhere 1 (by decide)
  cases first
  cases second
  exact ⟨z', rfl, h.inside 2 (by decide) z z' rfl rfl⟩

/-- Lists of four that agree but at the last two positions. -/
theorem of_four {w x y z : α} (h : AgreeBut [2, 3] related [w, x, y, z] b) :
    ∃ y' z', b = [w, x, y', z'] ∧ related y y' ∧ related z z' := by
  obtain ⟨w', x', y', z', rfl⟩ := length_eq_four h.length_eq.symm
  have first : some w = some w' := h.elsewhere 0 (by decide)
  have second : some x = some x' := h.elsewhere 1 (by decide)
  cases first
  cases second
  exact ⟨y', z', rfl, h.inside 2 (by decide) y y' rfl rfl, h.inside 3 (by decide) z z' rfl rfl⟩

end AgreeBut

/-! ## Results that match -/

/-- The results fail alike, or what they give is related. -/
inductive Matching {ε α : Type} (related : α → α → Prop) : Except ε α → Except ε α → Prop
  | failed (e : ε) : Matching related (.error e) (.error e)
  | given {x y : α} (pair : related x y) : Matching related (.ok x) (.ok y)

namespace Matching

variable {ε α β : Type} {related : α → α → Prop} {relatedTo : β → β → Prop}

theorem refl (same : ∀ x, related x x) (result : Except ε α) : Matching related result result := by
  cases result with
  | ok x => exact .given (same x)
  | error e => exact .failed e

theorem bind {first second : Except ε α} {next next' : α → Except ε β}
    (h : Matching related first second)
    (each : ∀ x y, related x y → Matching relatedTo (next x) (next' y)) :
    Matching relatedTo (first >>= next) (second >>= next') := by
  cases h with
  | failed e => exact .failed e
  | given pair => exact each _ _ pair

/-- One step, and then steps that match. -/
theorem after (first : Except ε α) {next next' : α → Except ε β}
    (each : ∀ x, Matching relatedTo (next x) (next' x)) :
    Matching relatedTo (first >>= next) (first >>= next') := by
  have same : Matching Eq first first := refl (fun _ => rfl) first
  refine same.bind ?_
  rintro x _ rfl
  exact each x

end Matching

/-! ## Secret keys -/

/-- The fields under a tag that are secret keys. -/
def Tag.secretFields : Tag → List Nat
  | .revocationKey _ => [2]
  | .identity _ => [2, 3]
  | _ => []

/-- The record without its secret keys. -/
def Record.concealed : Record → Record
  | .revocationKey k => .revocationKey { k with secretKey := .zero 32 }
  | .identity i => .identity { i with secretKeys := ⟨.zero 32, .zero 32⟩ }
  | r => r

/-- Secret keys are not shown. -/
theorem Record.text_concealed (record : Record) : record.concealed.text = record.text := by
  cases record <;> rfl

/-- Both items are octets, and as many. -/
def MessagePack.Item.Alike (a b : Item) : Prop :=
  ∃ octets octets', a = .bin octets ∧ b = .bin octets' ∧ octets.length = octets'.length

namespace Message

variable {scheme : Scheme} {acceptText : Bool} {tag : Tag} {items items' : List Item}

/-- Of a field of fixed length that is octets only the length decides whether it is read. -/
theorem fixedField_alike {item item' : Item} (alike : item.Alike item') (tag : Tag) (size : Nat)
    (field : String) :
    Matching (fun _ _ => True) (fixedField tag size field item)
      (fixedField tag size field item') := by
  obtain ⟨octets, octets', rfl, rfl, same⟩ := alike
  by_cases sized : octets.length = size
  · have read : fixedField tag size field (.bin octets) = .ok ⟨octets, sized⟩ :=
      fixedField_eq_ok_iff.2 rfl
    have read' : fixedField tag size field (.bin octets') = .ok ⟨octets', same.symm.trans sized⟩ :=
      fixedField_eq_ok_iff.2 rfl
    rw [read, read']
    exact .given trivial
  · have sized' : octets'.length ≠ size := same ▸ sized
    simp only [fixedField, Fixed.ofField, Fixed.of?_eq_none_iff.2 sized,
      Fixed.of?_eq_none_iff.2 sized', same]
    exact .failed _

theorem recordOf_revocationKey_of_length_ne {family : Family} (other : items.length ≠ 3) :
    recordOf scheme acceptText (.revocationKey family) items =
      refuse (.fieldCount (.revocationKey family) 3 items.length) := by
  simp only [recordOf]
  split
  · exact absurd rfl other
  · rfl

theorem recordOf_identity_of_length_ne {family : Family} (other : items.length ≠ 4) :
    recordOf scheme acceptText (.identity family) items =
      refuse (.fieldCount (.identity family) 4 items.length) := by
  simp only [recordOf]
  split
  · exact absurd rfl other
  · rfl

/-- The records differ in secret keys only. -/
def Concealing (record record' : Record) : Prop := record.concealed = record'.concealed

theorem recordOf_revocationKey_concealed (scheme : Scheme) (acceptText : Bool) {family : Family}
    (alike : AgreeBut [2] Item.Alike items items') :
    Matching Concealing (recordOf scheme acceptText (.revocationKey family) items)
      (recordOf scheme acceptText (.revocationKey family) items') := by
  by_cases three : items.length = 3
  · obtain ⟨numbers, publicKey, secretKey, rfl⟩ := List.length_eq_three.1 three
    obtain ⟨secretKey', rfl, secret⟩ := alike.of_three
    refine .after _ fun _ => .after _ fun _ => ?_
    exact (fixedField_alike secret _ 32 "secret_key").bind fun _ _ _ => .given rfl
  · have three' : items'.length ≠ 3 := alike.length_eq ▸ three
    rw [recordOf_revocationKey_of_length_ne three, recordOf_revocationKey_of_length_ne three',
      alike.length_eq]
    exact .failed _

theorem recordOf_identity_concealed (scheme : Scheme) (acceptText : Bool) {family : Family}
    (alike : AgreeBut [2, 3] Item.Alike items items') :
    Matching Concealing (recordOf scheme acceptText (.identity family) items)
      (recordOf scheme acceptText (.identity family) items') := by
  by_cases four : items.length = 4
  · obtain ⟨signPublic, boxPublic, signSecret, boxSecret, rfl⟩ := length_eq_four four
    obtain ⟨signSecret', boxSecret', rfl, sign, box⟩ := alike.of_four
    refine .after _ fun _ => .after _ fun _ => ?_
    refine (fixedField_alike sign _ 32 "secret_keys.sign").bind fun _ _ _ => ?_
    exact (fixedField_alike box _ 32 "secret_keys.box").bind fun _ _ _ => .given rfl
  · have four' : items'.length ≠ 4 := alike.length_eq ▸ four
    rw [recordOf_identity_of_length_ne four, recordOf_identity_of_length_ne four',
      alike.length_eq]
    exact .failed _

/-- Fields that agree but in the secret ones make records that do, or fail alike. -/
theorem recordOf_concealed (scheme : Scheme) (acceptText : Bool)
    (alike : AgreeBut tag.secretFields Item.Alike items items') :
    Matching Concealing (recordOf scheme acceptText tag items)
      (recordOf scheme acceptText tag items') := by
  cases tag with
  | revocationKey family => exact recordOf_revocationKey_concealed scheme acceptText alike
  | identity family => exact recordOf_identity_concealed scheme acceptText alike
  | _ =>
      rw [alike.eq_of_nil]
      exact .refl (fun record => (rfl : Concealing record record)) _

end Message

/-! ## Writing and reading back -/

section

variable {positions : List Nat} {items items' : List Item}
  (alike : AgreeBut positions Item.Alike items items')

include alike

theorem fits_array_alike (depth : Nat) :
    (Item.array items).fits depth = (Item.array items').fits depth := by
  have all : ∀ depth, items.all (Item.fits depth) = items'.all (Item.fits depth) := by
    intro depth
    refine alike.all_eq ?_
    rintro _ _ ⟨octets, octets', rfl, rfl, same⟩
    rw [Item.fits, Item.fits, same]
  have length := alike.length_eq
  cases items with
  | nil =>
      obtain rfl := List.eq_nil_of_length_eq_zero length.symm
      rfl
  | cons item others =>
      cases items' with
      | nil => cases length
      | cons item' others' =>
          cases depth with
          | zero => rfl
          | succ depth => simp only [Item.fits, length, all depth]

theorem length_write_array_alike :
    (Item.array items).write.length = (Item.array items').write.length := by
  have same : items.map (fun item => item.write.length) =
      items'.map fun item => item.write.length := by
    refine alike.map_eq ?_
    rintro _ _ ⟨octets, octets', rfl, rfl, same⟩
    rw [Item.write, Item.write, List.length_append, List.length_append, same]
  rw [Item.write, Item.write, List.length_append, List.length_append, alike.length_eq,
    List.length_flatMap, List.length_flatMap, same]

theorem fault?_array_alike (depth : Nat) :
    (Item.array items).fault? depth = (Item.array items').fault? depth := by
  cases depth with
  | zero => rfl
  | succ depth =>
      rw [Item.fault?, Item.fault?]
      refine alike.findSome?_eq ?_
      rintro _ _ ⟨octets, octets', rfl, rfl, same⟩
      rw [Item.fault?_of_flat rfl, Item.fault?_of_flat rfl]

end

namespace Message

section

variable {tag : Tag} {items items' : List Item} {message message' : Octets}

/-- Whether fields can be framed, and in how many octets, does not depend on the secret ones. -/
theorem length_frame?_alike {positions : List Nat}
    (alike : AgreeBut positions Item.Alike items items') (number : Nat) :
    (frame? number items).map List.length = (frame? number items').map List.length := by
  have fits := fits_array_alike alike maxDepth
  have length := length_write_array_alike alike
  unfold frame? Item.write?
  rw [← fits]
  split_ifs <;> simp [length]

/-- The array of fields is read back, or refused for the same, whatever the secret ones are. -/
theorem readFields_alike {positions : List Nat} {limit : Nat} {rest : Octets}
    (alike : AgreeBut positions Item.Alike items items')
    (fits : (Item.array items).fits maxDepth = true)
    (part : ((Item.array items).write ++ rest).length ≤ limit) :
    Matching (fun read read' => read = items ∧ read' = items')
      (readFields limit ((Item.array items).write ++ rest))
      (readFields limit ((Item.array items').write ++ rest)) := by
  have fits' : (Item.array items').fits maxDepth = true := fits_array_alike alike _ ▸ fits
  have part' : ((Item.array items').write ++ rest).length ≤ limit := by
    rwa [List.length_append, ← length_write_array_alike alike, ← List.length_append]
  have read := MessagePack.Item.readItem_write fits maxDepth rest part
  have read' := MessagePack.Item.readItem_write fits' maxDepth rest part'
  rw [← fault?_array_alike alike] at read'
  cases met : (Item.array items).fault? maxDepth with
  | some fault =>
      rw [met] at read read'
      simp only [readFields, read, read', Option.elim_some]
      cases fault <;> exact .failed _
  | none =>
      rw [met] at read read'
      simp only [readFields, read, read', Option.elim_none]
      cases rest with
      | nil => exact .given ⟨rfl, rfl⟩
      | cons first others => exact .failed _

/-- What is framed is its tag as it is written and then its fields. -/
theorem readTag_append_of_frame? (acceptText : Bool)
    (framed : frame? tag.number items = some message) (suffix : Octets) :
    (Item.array items).fits maxDepth = true ∧
      message = (Item.int tag.number).write ++ (Item.array items).write ∧
      readTag acceptText (message ++ suffix) =
        .ok (tag.number, (Item.array items).write ++ suffix) := by
  obtain ⟨front, back, lead, body, rfl⟩ := frame?_eq_some_iff.1 framed
  obtain ⟨tagFits, rfl⟩ := write?_eq_some_iff.1 lead
  obtain ⟨fits, rfl⟩ := write?_eq_some_iff.1 body
  have plain : (Item.int tag.number).readable maxDepth = true := rfl
  exact ⟨fits, rfl, readTag_eq_ok_iff.2 ⟨_, _, List.append_assoc ..,
    MessagePack.Item.form_write tagFits plain, tag.number_lt_bound, .int⟩⟩

/-- What is decoded differs in secret keys only. -/
def ConcealingDecoded (decoded decoded' : Decoded) : Prop :=
  ∃ record record', decoded = .record record ∧ decoded' = .record record' ∧
    Concealing record record'

/-- Messages framed from fields that agree but in the secret ones are decoded, whatever follows them,
to records that agree but in secret keys, or fail alike. -/
theorem decode_concealed (scheme : Scheme) (config : Config)
    (alike : AgreeBut tag.secretFields Item.Alike items items')
    (framed : frame? tag.number items = some message)
    (framed' : frame? tag.number items' = some message') (suffix : Octets) :
    Matching ConcealingDecoded (decode scheme config (message ++ suffix))
      (decode scheme config (message' ++ suffix)) := by
  obtain ⟨fits, whole, leading⟩ := readTag_append_of_frame? config.acceptTextTags framed suffix
  obtain ⟨-, whole', leading'⟩ := readTag_append_of_frame? config.acceptTextTags framed' suffix
  have length : (message ++ suffix).length = (message' ++ suffix).length := by
    rw [whole, whole']
    simp only [List.length_append, length_write_array_alike alike]
  have limit : limitOf (message ++ suffix) = limitOf (message' ++ suffix) := by
    rw [limitOf, limitOf, length]
  by_cases small : ((message ++ suffix).length : Int) ≤ config.maxMessageBytes
  · have part : ((Item.array items).write ++ suffix).length ≤ limitOf (message ++ suffix) := by
      have within := limitOf_le (message ++ suffix)
      rw [whole] at within ⊢
      simp only [List.length_append] at within ⊢
      omega
    have leads : Matching
        (fun read read' => read = (tag.number, (Item.array items).write ++ suffix) ∧
          read' = (tag.number, (Item.array items').write ++ suffix))
        (readTag config.acceptTextTags (message ++ suffix))
        (readTag config.acceptTextTags (message' ++ suffix)) := by
      rw [leading, leading']
      exact .given ⟨rfl, rfl⟩
    rw [decode_of_size small, decode_of_size (length ▸ small), ← limit]
    refine leads.bind ?_
    rintro _ _ ⟨rfl, rfl⟩
    simp only [Tag.ofNumber?_number]
    refine (readFields_alike alike fits part).bind ?_
    rintro _ _ ⟨rfl, rfl⟩
    refine (recordOf_concealed scheme config.acceptTextTags alike).bind fun record record' same => ?_
    exact .given ⟨record, record', rfl, rfl, same⟩
  · rw [decode_of_too_large (by omega), decode_of_too_large (by omega), length]
    exact .failed _

end

end Message

end Overlay
