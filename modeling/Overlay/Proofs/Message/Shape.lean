/-
# Overlay.Proofs.Message.Shape -- the items that are the fields of a record

`Record.Described` says of a record which items are its fields, row by row and octet by
octet; the only freedom is in how a number among them is spelled.

`Message.recordOf` builds a record from the items that describe it and from no others
(`recordOf_lenient_eq_ok_iff`).  The signature of a published record is looked at last:
whatever the scheme, the shape of the fields is judged as under `Scheme.lenient`, which
accepts every signature (`recordOf_eq_bind`).
-/
import Mathlib.Data.List.Forall2
import Overlay.Message.Shape
import Overlay.Proofs.Sequencing
import Overlay.Proofs.Tag.Spelling

namespace Overlay

set_option autoImplicit false

open MessagePack (Item)

/-! ## The fields of each sort of record -/

namespace Record

/-- Names as a field. -/
def namesField (names : List Name) : Item := .array (names.map fun name => .bin name.octets)

/-- The items are the fields of the record; numbers among them may be spelled in any way. -/
inductive Described (acceptText : Bool) : Record → List Item → Prop where
  | name (name : Name) : Described acceptText (.name name) [.bin name.octets]
  | payload {payload : Payload} {inner : Item}
      (spelled : Tag.Spelling acceptText payload.inner inner) :
      Described acceptText (.payload payload) [inner, .bin payload.octets]
  | block (block : Block) : Described acceptText (.block block) [.bin block.value]
  | table (table : Table) :
      Described acceptText (.table table)
        [.bin table.name.octets, .bin table.owner.octets, .array (table.rows.map namesField)]
  | coin (coin : Coin) :
      Described acceptText (.coin coin)
        [.bin coin.name.octets, namesField coin.owners, namesField coin.previousOwners,
          .array (coin.signatures.map fun signature => .bin signature.octets)]
  /-- The numbers are those of the family, in order. -/
  | revocationKey {key : RevocationKey} {numbers : List Item}
      (spelled : List.Forall₂ (Tag.Spelling acceptText) key.family.triple numbers) :
      Described acceptText (.revocationKey key)
        [.array numbers, .bin key.publicKey.octets, .bin key.secretKey.octets]
  | identity (identity : Identity) :
      Described acceptText (.identity identity)
        [.bin identity.publicKeys.sign.octets, .bin identity.publicKeys.box.octets,
          .bin identity.secretKeys.sign.octets, .bin identity.secretKeys.box.octets]
  | publicIdentity (identity : PublicIdentity) :
      Described acceptText (.publicIdentity identity)
        [.bin identity.publicKeys.sign.octets, .bin identity.publicKeys.box.octets,
          .bin identity.revocationKey.octets, .bin identity.signature.octets]
  | publicRevocation (revocation : PublicRevocation) :
      Described acceptText (.publicRevocation revocation)
        [.bin revocation.publicKey.octets, .bin revocation.signature.octets]

end Record

/-- The scheme under which everything is signed by everybody. -/
def Scheme.lenient : Scheme := ⟨id, fun _ _ => default, fun _ _ _ => true⟩

theorem Record.verifies_lenient (record : Record) : record.verifies .lenient = true := by
  cases record <;> rfl

namespace Message

/-! ## Single fields -/

theorem fixedField_eq_ok_iff {tag : Tag} {size : Nat} {field : String} {item : Item}
    {fixed : Fixed size} :
    fixedField tag size field item = .ok fixed ↔ item = .bin fixed.octets := by
  cases item with
  | bin octets =>
      have whole : Fixed.ofField size field octets = .ok fixed ↔ octets = fixed.octets :=
        Fixed.ofField_eq_ok_iff
      simp only [fixedField, Item.bin.injEq, ← whole]
      cases Fixed.ofField size field octets <;> simp [refuse]
  | _ => simp [fixedField, refuse]

theorem octetsField_eq_ok_iff {tag : Tag} {field : String} {item : Item} {octets : Octets} :
    octetsField tag field item = .ok octets ↔ item = .bin octets := by
  cases item <;> simp [octetsField, refuse]

theorem arrayField_eq_ok_iff {tag : Tag} {field : String} {item : Item} {items : List Item} :
    arrayField tag field item = .ok items ↔ item = .array items := by
  cases item <;> simp [arrayField, refuse]

theorem tagField_eq_ok_iff {tag : Tag} {acceptText : Bool} {item : Item} {number : Nat} :
    tagField tag acceptText item = .ok number ↔
      number < Tag.bound ∧ Tag.Spelling acceptText number item := by
  rw [← Tag.read_eq_ok_iff, tagField]
  cases Tag.read acceptText (.ofItem item) <;> simp

theorem nameField_eq_ok_iff {tag : Tag} {field : String} {item : Item} {name : Name} :
    nameField tag field item = .ok name ↔ item = .bin name.octets := by
  have whole : nameField tag field item = .ok name ↔
      fixedField tag 64 field item = .ok name.id := by
    unfold nameField
    cases fixedField tag 64 field item with
    | ok fixed =>
        constructor
        · rintro ⟨⟩
          rfl
        · intro h
          injection h with h
          subst h
          rfl
    | error failure => simp [Except.map]
  rw [whole, fixedField_eq_ok_iff]
  rfl

/-- A list of fields that are each read by what they are. -/
theorem forall₂_eq_iff {α β : Type} {f : α → β} {things : List β} {results : List α} :
    List.Forall₂ (fun thing result => thing = f result) things results ↔
      things = results.map f := by
  rw [← List.forall₂_eq_eq_eq, List.forall₂_map_right_iff]

theorem namesField_eq_ok_iff {tag : Tag} {field element : String} {item : Item}
    {names : List Name} :
    namesField tag field element item = .ok names ↔ item = Record.namesField names := by
  simp only [namesField, bind_eq_ok_iff, arrayField_eq_ok_iff, mapM_eq_ok_iff,
    nameField_eq_ok_iff, forall₂_eq_iff, Record.namesField]
  constructor
  · rintro ⟨items, rfl, rfl⟩
    rfl
  · rintro rfl
    exact ⟨_, rfl, rfl⟩

theorem rowsField_eq_ok_iff {tag : Tag} {item : Item} {rows : List (List Name)} :
    rowsField tag item = .ok rows ↔ item = .array (rows.map Record.namesField) := by
  simp only [rowsField, bind_eq_ok_iff, arrayField_eq_ok_iff, mapM_eq_ok_iff,
    namesField_eq_ok_iff]
  -- the index is only told in refusals
  have each : ∀ items : List Item,
      List.Forall₂ (fun row names => row.1 = Record.namesField names) items.zipIdx rows ↔
        items = rows.map Record.namesField := by
    intro items
    rw [← forall₂_eq_iff, ← List.zipIdx_map_fst 0 items, List.forall₂_map_left_iff,
      List.zipIdx_map_fst]
  simp only [each]
  constructor
  · rintro ⟨items, rfl, rfl⟩
    rfl
  · rintro rfl
    exact ⟨_, rfl, rfl⟩

theorem triple_lt_bound {family : Family} {number : Nat} (h : number ∈ family.triple) :
    number < Tag.bound := by
  simp only [Family.triple, List.mem_cons, List.not_mem_nil, or_false] at h
  obtain rfl | rfl | rfl := h <;> exact Tag.number_lt_bound _

theorem tagFields_eq_ok_iff {tag : Tag} {family : Family} {acceptText : Bool} {items : List Item} :
    items.mapM (tagField tag acceptText) = .ok family.triple ↔
      List.Forall₂ (Tag.Spelling acceptText) family.triple items := by
  simp only [mapM_eq_ok_iff, tagField_eq_ok_iff]
  constructor
  · intro h
    exact h.flip.imp fun number item spelled => spelled.2
  · intro h
    have below : ∀ number ∈ family.triple, number < Tag.bound := fun number => triple_lt_bound
    exact ((List.forall₂_and_left _ _).2 ⟨below, h⟩).flip

theorem familyField_eq_ok_iff {tag : Tag} {family : Family} {acceptText : Bool} {item : Item}
    {checked : Unit} :
    familyField tag family acceptText item = .ok checked ↔
      ∃ numbers, item = .array numbers ∧
        List.Forall₂ (Tag.Spelling acceptText) family.triple numbers := by
  simp only [familyField, bind_eq_ok_iff, arrayField_eq_ok_iff]
  refine exists_congr fun items => and_congr_right fun _ => ?_
  constructor
  · intro h
    split_ifs at h
    · cases h
    · simp only [pure, Except.pure, bind_eq_ok_iff] at h
      obtain ⟨numbers, read, h⟩ := h
      split_ifs at h with mismatch
      · cases h
      · rw [not_not] at mismatch
        rw [← Family.triple_of_ofTriple? mismatch] at read
        exact tagFields_eq_ok_iff.1 read
  · intro spelled
    have three : items.length = 3 := spelled.length_eq.symm
    have read : items.mapM (tagField tag acceptText) = .ok family.triple :=
      tagFields_eq_ok_iff.2 spelled
    rw [if_neg (by simp [three])]
    simp only [pure, Except.pure, bind_eq_ok_iff]
    exact ⟨family.triple, read, by simp⟩

/-! ## Whole records -/

theorem verified_lenient (record : Record) : verified .lenient record = .ok record := by
  rw [verified, if_pos record.verifies_lenient]

/-- The shape of the fields is judged first, and alike under every scheme. -/
theorem recordOf_eq_bind (scheme : Scheme) (acceptText : Bool) (tag : Tag) (fields : List Item) :
    recordOf scheme acceptText tag fields =
      recordOf .lenient acceptText tag fields >>= verified scheme := by
  cases tag with
  | publicIdentity family | publicRevocation family =>
      simp only [recordOf]
      split
      · simp only [verified_lenient, bind_assoc]
        rfl
      · rfl
  | payload =>
      simp only [recordOf]
      split
      · simp only [bind_assoc]
        refine bind_congr fun number => bind_congr fun octets => ?_
        split
        · rfl
        · rfl
      · rfl
  | name | block copy | table | coin | revocationKey family | identity family =>
      simp only [recordOf]
      split
      · simp only [bind_assoc]
        rfl
      · rfl

theorem payloadOf_eq_some_iff {number : Nat} {octets : Octets} {payload : Payload} :
    payloadOf number octets = some payload ↔ payload.inner = number ∧ payload.octets = octets := by
  unfold payloadOf
  split
  · next below =>
    simp only [Option.some.injEq]
    constructor
    · rintro rfl
      exact ⟨rfl, rfl⟩
    · rintro ⟨rfl, rfl⟩
      rfl
  · next beyond =>
    constructor
    · rintro ⟨⟩
    · rintro ⟨rfl, -⟩
      exact absurd payload.inner_lt beyond

/-- A payload may declare every number that is read as a tag. -/
theorem exists_payloadOf {tag : Tag} {acceptText : Bool} {item : Item} {number : Nat}
    (read : tagField tag acceptText item = .ok number) (octets : Octets) :
    ∃ payload, payloadOf number octets = some payload := by
  obtain ⟨below, -⟩ := tagField_eq_ok_iff.1 read
  exact ⟨⟨number, octets, below⟩, payloadOf_eq_some_iff.2 ⟨rfl, rfl⟩⟩

/-- Items of a shape describe the record that is built from them. -/
theorem described_of_recordOf {acceptText : Bool} {tag : Tag} {fields : List Item}
    {record : Record} (h : recordOf .lenient acceptText tag fields = .ok record) :
    record.tag = tag ∧ Record.Described acceptText record fields := by
  cases tag with
  | name =>
      simp only [recordOf] at h
      split at h
      · simp only [bind_eq_ok_iff, nameField_eq_ok_iff] at h
        obtain ⟨name, rfl, ⟨⟩⟩ := h
        exact ⟨rfl, .name name⟩
      · cases h
  | payload =>
      simp only [recordOf] at h
      split at h
      · simp only [bind_eq_ok_iff, tagField_eq_ok_iff, octetsField_eq_ok_iff] at h
        obtain ⟨number, ⟨below, spelled⟩, octets, rfl, h⟩ := h
        split at h
        · next payload built =>
          obtain ⟨rfl, rfl⟩ := payloadOf_eq_some_iff.1 built
          cases h
          exact ⟨rfl, .payload spelled⟩
        · cases h
      · cases h
  | block copy =>
      simp only [recordOf] at h
      split at h
      · simp only [bind_eq_ok_iff, octetsField_eq_ok_iff] at h
        obtain ⟨octets, rfl, ⟨⟩⟩ := h
        exact ⟨rfl, .block ⟨copy, octets⟩⟩
      · cases h
  | table =>
      simp only [recordOf] at h
      split at h
      · simp only [bind_eq_ok_iff, rowsField_eq_ok_iff, nameField_eq_ok_iff] at h
        obtain ⟨rows, rfl, name, rfl, owner, rfl, ⟨⟩⟩ := h
        exact ⟨rfl, .table ⟨name, owner, rows⟩⟩
      · cases h
  | coin =>
      simp only [recordOf] at h
      split at h
      · simp only [bind_eq_ok_iff, nameField_eq_ok_iff, namesField_eq_ok_iff,
          arrayField_eq_ok_iff, mapM_eq_ok_iff, fixedField_eq_ok_iff, forall₂_eq_iff] at h
        obtain ⟨name, rfl, owners, rfl, previous, rfl, _, rfl, signatures, rfl, ⟨⟩⟩ := h
        exact ⟨rfl, .coin ⟨name, owners, previous, signatures⟩⟩
      · cases h
  | revocationKey family =>
      simp only [recordOf] at h
      split at h
      · simp only [bind_eq_ok_iff, familyField_eq_ok_iff, fixedField_eq_ok_iff] at h
        obtain ⟨-, ⟨numbers, rfl, spelled⟩, publicKey, rfl, secretKey, rfl, ⟨⟩⟩ := h
        exact ⟨rfl, .revocationKey spelled⟩
      · cases h
  | identity family =>
      simp only [recordOf] at h
      split at h
      · simp only [bind_eq_ok_iff, fixedField_eq_ok_iff] at h
        obtain ⟨signPublic, rfl, boxPublic, rfl, signSecret, rfl, boxSecret, rfl, ⟨⟩⟩ := h
        exact ⟨rfl, .identity ⟨family, ⟨signPublic, boxPublic⟩, ⟨signSecret, boxSecret⟩⟩⟩
      · cases h
  | publicIdentity family =>
      simp only [recordOf] at h
      split at h
      · simp only [bind_eq_ok_iff, fixedField_eq_ok_iff] at h
        obtain ⟨signPublic, rfl, boxPublic, rfl, revocationKey, rfl, signature, rfl, ⟨⟩⟩ := h
        exact ⟨rfl, .publicIdentity ⟨family, ⟨signPublic, boxPublic⟩, revocationKey, signature⟩⟩
      · cases h
  | publicRevocation family =>
      simp only [recordOf] at h
      split at h
      · simp only [bind_eq_ok_iff, fixedField_eq_ok_iff] at h
        obtain ⟨publicKey, rfl, signature, rfl, ⟨⟩⟩ := h
        exact ⟨rfl, .publicRevocation ⟨family, publicKey, signature⟩⟩
      · cases h

/-- A record is built from the items that describe it. -/
theorem recordOf_of_described {acceptText : Bool} {fields : List Item} {record : Record}
    (h : Record.Described acceptText record fields) :
    recordOf .lenient acceptText record.tag fields = .ok record := by
  cases h with
  | name name =>
      simp only [Record.tag, recordOf, bind_eq_ok_iff, nameField_eq_ok_iff]
      exact ⟨name, rfl, rfl⟩
  | @payload payload inner spelled =>
      simp only [Record.tag, recordOf, bind_eq_ok_iff, tagField_eq_ok_iff, octetsField_eq_ok_iff]
      refine ⟨payload.inner, ⟨payload.inner_lt, spelled⟩, payload.octets, rfl, ?_⟩
      rw [payloadOf_eq_some_iff.2 ⟨rfl, rfl⟩]
      rfl
  | block block =>
      simp only [Record.tag, recordOf, bind_eq_ok_iff, octetsField_eq_ok_iff]
      exact ⟨block.value, rfl, rfl⟩
  | table table =>
      simp only [Record.tag, recordOf, bind_eq_ok_iff, rowsField_eq_ok_iff, nameField_eq_ok_iff]
      exact ⟨table.rows, rfl, table.name, rfl, table.owner, rfl, rfl⟩
  | coin coin =>
      simp only [Record.tag, recordOf, bind_eq_ok_iff, nameField_eq_ok_iff, namesField_eq_ok_iff,
        arrayField_eq_ok_iff, mapM_eq_ok_iff, fixedField_eq_ok_iff, forall₂_eq_iff]
      exact ⟨coin.name, rfl, coin.owners, rfl, coin.previousOwners, rfl, _, rfl,
        coin.signatures, rfl, rfl⟩
  | @revocationKey key numbers spelled =>
      simp only [Record.tag, recordOf, bind_eq_ok_iff, familyField_eq_ok_iff, fixedField_eq_ok_iff]
      exact ⟨(), ⟨numbers, rfl, spelled⟩, key.publicKey, rfl, key.secretKey, rfl, rfl⟩
  | identity identity =>
      simp only [Record.tag, recordOf, bind_eq_ok_iff, fixedField_eq_ok_iff]
      exact ⟨_, rfl, _, rfl, _, rfl, _, rfl, rfl⟩
  | publicIdentity identity =>
      simp only [Record.tag, recordOf, bind_eq_ok_iff, fixedField_eq_ok_iff]
      exact ⟨_, rfl, _, rfl, _, rfl, _, rfl, rfl⟩
  | publicRevocation revocation =>
      simp only [Record.tag, recordOf, bind_eq_ok_iff, fixedField_eq_ok_iff]
      exact ⟨_, rfl, _, rfl, rfl⟩

/-- Exactly the items that describe a record under the tag have the shape that the tag asks for. -/
theorem recordOf_lenient_eq_ok_iff {acceptText : Bool} {tag : Tag} {fields : List Item}
    {record : Record} :
    recordOf .lenient acceptText tag fields = .ok record ↔
      record.tag = tag ∧ Record.Described acceptText record fields := by
  constructor
  · exact described_of_recordOf
  · rintro ⟨rfl, described⟩
    exact recordOf_of_described described

end Message

end Overlay
