/-
# Overlay.Proofs.Datum.Framing -- fields of any nesting, framed and read back

`frame` writes whatever has a MessagePack form, not only the fields of records.  A `Tree` is
made of plain values by lists, tuples and maps, with a bound on the containers that are open
at once; an empty one is counted like any other, since the reader opens it.

A tree has a form (`Tree.isPlain`), and what is written of it can be read
(`Tree.readable`).  The item that it means is the tree again, but that a tuple comes back
as a list (`Tree.ofItem_toItem`).  So a message framed from a tag and a tree is read as
that tag, up to the end of its form, and from there as that tree (`read_frame`).
-/
import Overlay.Proofs.Datum.Encoding

namespace Overlay.Datum

set_option autoImplicit false

open MessagePack (Item)

/-! ## Trees -/

/-- The value can be the key of a map in a tree. -/
inductive TreeKey : Datum → Prop where
  | text (text : String) : TreeKey (.text text)
  | octets (octets : Octets) : TreeKey (.octets .fixed octets)
  | int (value : Int) : TreeKey (.int value)

/-- The value is a tree with at most `depth` containers open at once.  No key stands in a map
twice. -/
inductive Tree : (depth : Nat) → Datum → Prop where
  | none {depth : Nat} : Tree depth .none
  | bool {depth : Nat} (value : Bool) : Tree depth (.bool value)
  | int {depth : Nat} (value : Int) : Tree depth (.int value)
  | float {depth : Nat} (bits : UInt64) (origin : Nat) : Tree depth (.float bits origin)
  | text {depth : Nat} (text : String) : Tree depth (.text text)
  | octets {depth : Nat} (octets : Octets) : Tree depth (.octets .fixed octets)
  | ext {depth : Nat} {code : UInt8} (own : code < 0x80) (data : Octets) :
      Tree depth (.ext code data)
  | list {depth : Nat} {items : List Datum} (each : ∀ item ∈ items, Tree depth item) :
      Tree (depth + 1) (.list items)
  | tuple {depth : Nat} {items : List Datum} (each : ∀ item ∈ items, Tree depth item) :
      Tree (depth + 1) (.tuple items)
  | mapping {depth : Nat} {entries : List (Datum × Datum)}
      (keys : ∀ entry ∈ entries, TreeKey entry.1) (distinct : (entries.map Prod.fst).Nodup)
      (each : ∀ entry ∈ entries, Tree depth entry.2) : Tree (depth + 1) (.mapping entries)

/-- The value with a list for every tuple in it.  Floating-point numbers are told apart by their
bits alone. -/
def untupled : Datum → Datum
  | .list items => .list (items.map untupled)
  | .tuple items => .list (items.map untupled)
  | .mapping entries => .mapping (entries.map fun entry => (entry.1, entry.2.untupled))
  | .float bits _ => .float bits 0
  | datum => datum
decreasing_by
  · next member =>
    have smaller := List.sizeOf_lt_of_mem member
    simp only [list.sizeOf_spec]; omega
  · next member =>
    have smaller := List.sizeOf_lt_of_mem member
    simp only [tuple.sizeOf_spec]; omega
  · next member =>
    have smaller := List.sizeOf_lt_of_mem member
    obtain ⟨key, value⟩ := entry
    simp only [mapping.sizeOf_spec, Prod.mk.sizeOf_spec] at smaller ⊢; omega

/-! ## The form of a tree -/

section

variable {depth : Nat} {datum : Datum}

theorem TreeKey.isPlain (h : TreeKey datum) : datum.isPlain depth = true := by
  cases h <;> rw [Datum.isPlain]

theorem TreeKey.isContainer (h : TreeKey datum) : datum.toItem.isContainer = false := by
  cases h <;> rw [toItem] <;> rfl

theorem TreeKey.readable (h : TreeKey datum) : datum.toItem.readable depth = true := by
  cases h <;> simp only [toItem, Item.readable]

/-- A list is plain where its items are, one container further in. -/
theorem isPlain_list {items : List Datum} (each : ∀ item ∈ items, item.isPlain depth = true) :
    (Datum.list items).isPlain (depth + 1) = true := by
  cases items with
  | nil => rfl
  | cons item items => simpa only [Datum.isPlain, List.all_eq_true] using each

/-- A tuple is plain where the list is. -/
theorem isPlain_tuple (items : List Datum) :
    (Datum.tuple items).isPlain depth = (Datum.list items).isPlain depth := by
  cases items <;> cases depth <;> rfl

theorem Tree.isPlain (h : Tree depth datum) : datum.isPlain depth = true := by
  induction h with
  | list each ih => exact isPlain_list ih
  | tuple each ih =>
      rw [isPlain_tuple]
      exact isPlain_list ih
  | @mapping depth entries keys distinct each ih =>
      cases entries with
      | nil => rfl
      | cons entry entries =>
          simp only [Datum.isPlain, List.all_eq_true, Bool.and_eq_true]
          exact fun entry member => ⟨(keys entry member).isPlain, ih entry member⟩
  | _ => rw [Datum.isPlain]

/-- An array is readable where its items are, one container further in. -/
theorem readable_array {items : List Datum}
    (each : ∀ item ∈ items, item.toItem.readable depth = true) :
    (Item.array (items.map toItem)).readable (depth + 1) = true := by
  simp only [Item.readable, List.all_eq_true, List.mem_map]
  rintro _ ⟨item, member, rfl⟩
  exact each item member

theorem Tree.readable (h : Tree depth datum) : datum.toItem.readable depth = true := by
  induction h with
  | list each ih =>
      rw [toItem]
      exact readable_array ih
  | tuple each ih =>
      rw [toItem]
      exact readable_array ih
  | mapping keys distinct each ih =>
      simp only [toItem, Item.readable, List.all_eq_true, List.mem_map, Bool.and_eq_true,
        Bool.not_eq_true']
      rintro _ ⟨entry, member, rfl⟩
      exact ⟨⟨(keys entry member).isContainer, (keys entry member).readable⟩, ih entry member⟩
  | _ => simp only [toItem, Item.readable]

/-! ## The meaning of a tree -/

theorem ofEntries_eq_map (entries : List (Item × Item)) :
    ofEntries entries = entries.map fun entry => (ofItem entry.1, ofItem entry.2) := by
  induction entries with
  | nil => rfl
  | cons entry entries ih => rw [ofEntries, ih, List.map_cons]

theorem TreeKey.ofItem_toItem (h : TreeKey datum) : ofItem datum.toItem = datum := by
  cases h <;> simp only [toItem, ofItem]

/-- The items of a list are the values again where each of them is. -/
theorem ofItems_map_toItem {items : List Datum}
    (each : ∀ item ∈ items, ofItem item.toItem = item.untupled) :
    ofItems (items.map toItem) = items.map untupled := by
  rw [ofItems_eq_map, List.map_map]
  exact List.map_congr_left each

/-- What is read of a tree is the tree, with lists for its tuples. -/
theorem Tree.ofItem_toItem (h : Tree depth datum) : ofItem datum.toItem = datum.untupled := by
  induction h with
  | list each ih => rw [toItem, ofItem, untupled, ofItems_map_toItem ih]
  | tuple each ih => rw [toItem, ofItem, untupled, ofItems_map_toItem ih]
  | mapping keys distinct each ih =>
      rw [toItem, ofItem, untupled, ofEntries_eq_map, List.map_map]
      refine congrArg Datum.mapping (List.map_congr_left fun entry member => ?_)
      exact Prod.ext (keys entry member).ofItem_toItem (ih entry member)
  | _ => simp only [toItem, ofItem, untupled]

end

/-! ## Framing and reading -/

/-- A message framed from a tag and a tree of fields is read as the tag, up to the end of its form,
and from there as the tree. -/
theorem read_frame {number : Nat} {fields : List Datum} {message : Octets} (acceptText : Bool)
    (tree : Tree MessagePack.maxDepth (.list fields))
    (framed : frame (.int number) (.list fields) = .ok message) :
    ∃ rest items, message = (Item.int number).write ++ rest ∧
      Message.readTag acceptText message = .ok (number, rest) ∧
      Message.readFields (Message.limitOf message) rest = .ok items ∧
      ofItems items = fields.map untupled := by
  obtain ⟨below, -, framed⟩ := (frame_eq_ok_iff rfl).1 framed
  obtain ⟨front, back, lead, body, rfl⟩ := Message.frame?_eq_some_iff.1 framed
  obtain ⟨tagFits, rfl⟩ := Message.write?_eq_some_iff.1 lead
  obtain ⟨fieldsFit, rfl⟩ := Message.write?_eq_some_iff.1 body
  have readable := tree.readable
  have meaning := tree.ofItem_toItem
  rw [toItem] at readable meaning
  rw [ofItem, untupled, list.injEq] at meaning
  have tagReadable : (Item.int number).readable MessagePack.maxDepth = true := rfl
  have tagForm := MessagePack.Item.form_write tagFits tagReadable
  have fieldsForm := MessagePack.Item.form_write fieldsFit readable
  refine ⟨_, fields.map toItem, rfl, ?_, ?_, meaning⟩
  · exact Message.readTag_eq_ok_iff.2 ⟨_, _, rfl, tagForm, below, .int⟩
  · refine (Message.readFields_eq_ok_iff ?_).2 fieldsForm
    simp only [Message.limitOf, List.length_append]
    omega

/-! ## Fields with a tuple and a map in them -/

/-- A tuple of a negative number and of one that is no number, and a map of two keys. -/
def exampleFields : List Datum := [
  .tuple [.int (-1), .float 0x7FF8000000000001 7],
  .mapping [(.text "a", .list []), (.octets .fixed [0x61], .ext 5 [0x01, 0x02])]]

theorem tree_exampleFields (depth : Nat) : Tree (depth + 3) (.list exampleFields) := by
  have pair : Tree (depth + 2) (.tuple [.int (-1), .float 0x7FF8000000000001 7]) :=
    .tuple (List.forall_mem_cons.2 ⟨.int _, List.forall_mem_singleton.2 (.float _ _)⟩)
  have empty : Tree (depth + 1) (.list []) := .list (List.forall_mem_nil _)
  have map : Tree (depth + 2)
      (.mapping [(.text "a", .list []), (.octets .fixed [0x61], .ext 5 [0x01, 0x02])]) := by
    refine .mapping ?_ (by simp) ?_
    · exact List.forall_mem_cons.2 ⟨.text _, List.forall_mem_singleton.2 (.octets _)⟩
    · exact List.forall_mem_cons.2 ⟨empty, List.forall_mem_singleton.2 (.ext (by decide) _)⟩
  exact .list (List.forall_mem_cons.2 ⟨pair, List.forall_mem_singleton.2 map⟩)

theorem fits_exampleFields (depth : Nat) :
    (Item.array (exampleFields.map toItem)).fits (depth + 3) = true := by
  have short : "a".utf8ByteSize < 2 ^ 32 := by decide
  simpa [exampleFields, toItem, Item.fits, MessagePack.Head.fits] using short

theorem read_frame_exampleFields :
    ∃ message, frame (.int 42) (.list exampleFields) = .ok message ∧
      ∃ rest items, Message.readTag true message = .ok (42, rest) ∧
        Message.readFields (Message.limitOf message) rest = .ok items ∧
        ofItems items = exampleFields.map untupled := by
  -- `1021 + 3` is the depth that a message may have
  have tree : Tree MessagePack.maxDepth (.list exampleFields) := tree_exampleFields 1021
  obtain ⟨message, framed⟩ := Message.exists_frame? (show 42 < Tag.bound by decide)
    (fits_exampleFields 1021)
  have framed : frame (.int (42 : Nat)) (.list exampleFields) = .ok message :=
    (frame_eq_ok_iff rfl).2 ⟨by decide, tree.isPlain, framed⟩
  obtain ⟨rest, items, -, tag, following, meaning⟩ := read_frame true tree framed
  exact ⟨message, framed, rest, items, tag, following, meaning⟩

end Overlay.Datum
