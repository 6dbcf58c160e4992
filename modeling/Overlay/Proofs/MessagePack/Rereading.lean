/-
# Overlay.Proofs.MessagePack.Rereading -- what the reader makes of what was written

The writer writes items that the reader refuses: a container as the key of a map, and an
empty container with too many others around it.  `Item.fault?` says what the reader refuses
in the octets of an item, if anything, and `readItem_write` that it reads the item or fails
in just this way, whatever follows the item.

So what follows an item has no part in what becomes of it, and neither has anything in an
item that `Item.fault?` does not look at.
-/
import Overlay.Proofs.MessagePack.Reading
import Overlay.Proofs.MessagePack.Shortest

namespace Overlay.MessagePack

set_option autoImplicit false

/-! ## Faults -/

namespace Item

/-- What the reader refuses in a pair, if anything: first in the key, then in the value, and last that
the key is a container. -/
def pairFault? (fault? : Item → Option Fault) (entry : Item × Item) : Option Fault :=
  (fault? entry.1).or ((fault? entry.2).or
    (if entry.1.isContainer then some (.containerKey entry.1.typeName) else none))

/-- What the reader refuses in what is written of the item, if anything, with at most `depth`
containers open at once. -/
def fault? (depth : Nat) : Item → Option Fault
  | .array items =>
    match depth with
    | 0 => some .tooDeep
    | depth + 1 => items.findSome? (fault? depth)
  | .map entries =>
    match depth with
    | 0 => some .tooDeep
    | depth + 1 => entries.findSome? (pairFault? (fault? depth))
  | _ => none
termination_by structural depth

theorem fault?_of_flat {item : Item} (flat : item.isContainer = false) (depth : Nat) :
    item.fault? depth = none := by
  cases item with
  | array items => cases flat
  | map entries => cases flat
  | _ => simp only [fault?]

end Item

/-! ## Reading what was written -/

/-- Off any part of a message of `limit` octets that starts with the thing as it is written, the thing
is read, or the fault is met. -/
def Rereads {α : Type} (limit : Nat) (readOne : Octets → Step α) (write : α → Octets)
    (fault? : α → Option Fault) (thing : α) : Prop :=
  ∀ rest, (write thing ++ rest).length ≤ limit →
    readOne (write thing ++ rest) = (fault? thing).elim (.ok (thing, rest)) .error

variable {limit : Nat}

theorem readMany_write {α : Type} {readOne : Octets → Step α} {write : α → Octets}
    {fault? : α → Option Fault} {things : List α}
    (each : ∀ thing ∈ things, Rereads limit readOne write fault? thing) (read : List α)
    {rest : Octets} (part : (things.flatMap write ++ rest).length ≤ limit) :
    readMany readOne things.length read (things.flatMap write ++ rest) =
      (things.findSome? fault?).elim (.ok (read.reverse ++ things, rest)) .error := by
  induction things generalizing read with
  | nil => simp [readMany]
  | cons thing things ih =>
      rw [List.flatMap_cons, List.append_assoc] at part ⊢
      have first := each thing (by simp) _ part
      have less : (things.flatMap write ++ rest).length ≤ limit := by
        rw [List.length_append] at part
        omega
      have others := ih (fun other member => each other (by simp [member])) (thing :: read) less
      rw [List.length_cons, readMany, first, List.findSome?_cons]
      cases fault? thing with
      | none => simpa using others
      | some fault => rfl

theorem readPair_write {readOne : Octets → Step Item} {fault? : Item → Option Fault}
    {entry : Item × Item} (key : Rereads limit readOne Item.write fault? entry.1)
    (value : Rereads limit readOne Item.write fault? entry.2) :
    Rereads limit (readPair readOne) (fun entry => entry.1.write ++ entry.2.write)
      (Item.pairFault? fault?) entry := by
  intro rest part
  rw [List.append_assoc] at part ⊢
  have less : (entry.2.write ++ rest).length ≤ limit := by
    rw [List.length_append] at part
    omega
  rw [readPair, key _ part, Item.pairFault?]
  cases fault? entry.1 with
  | some fault => rfl
  | none =>
      simp only [Option.elim_none, value _ less]
      cases fault? entry.2 with
      | some fault => rfl
      | none => cases container : entry.1.isContainer <;> simp

theorem length_mul_le_flatMap {α : Type} {write : α → Octets} {things : List α} {least : Nat}
    (long : ∀ thing ∈ things, least ≤ (write thing).length) :
    things.length * least ≤ (things.flatMap write).length := by
  induction things with
  | nil => simp
  | cons thing things ih =>
      have first := long thing (by simp)
      have others := ih fun other member => long other (by simp [member])
      simp only [List.length_cons, List.flatMap_cons, List.length_append, Nat.add_mul, Nat.one_mul]
      omega

namespace Item

variable {opens : Nat}

theorem length_write_pos {item : Item} (fits : item.fits opens) : 0 < item.write.length := by
  cases item with
  | array items =>
      have head := (Head.form_write (fits_array fits).1).length_pos
      rw [write, List.length_append]
      omega
  | map entries =>
      have head := (Head.form_write (fits_map fits).1).length_pos
      rw [write, List.length_append]
      omega
  | _ => exact (formOver_write rfl fits : FormOver none _ _).length_pos

/-- What is no container is read back. -/
theorem readItem_write_of_flat {item : Item} (flat : item.isContainer = false)
    (fits : item.fits opens) (depth : Nat) :
    Rereads limit (readItem limit depth) write (fault? depth) item := by
  intro rest part
  rw [fault?_of_flat flat]
  refine (readItem_eq_ok_iff part).2 ⟨_, rfl, ?_⟩
  cases depth <;> exact formOver_write flat fits

theorem readHead_write {head : Head} (fits : head.fits) (rest : Octets) :
    readHead (head.write ++ rest) = .ok (head, rest) :=
  readHead_eq_ok_iff.2 ⟨_, rfl, Head.form_write fits⟩

section

variable {readOne : Octets → Step Item} {fault? : Item → Option Fault} {rest : Octets}

theorem readWith_array {items : List Item} (fits : (array items).fits opens)
    (each : ∀ item ∈ items, Rereads limit readOne write fault? item)
    (part : ((array items).write ++ rest).length ≤ limit) :
    readWith limit (some readOne) ((array items).write ++ rest) =
      (items.findSome? fault?).elim (.ok (array items, rest)) .error := by
  obtain ⟨start, small⟩ := fits_array fits
  have counted : items.length * 1 ≤ (items.flatMap write).length :=
    length_mul_le_flatMap fun item member => (small item member).elim fun _ => length_write_pos
  rw [write, List.append_assoc] at part ⊢
  have less : (items.flatMap write ++ rest).length ≤ limit := by
    rw [List.length_append] at part
    omega
  rw [List.length_append] at less
  rw [readWith, readHead_write start]
  dsimp only
  rw [if_neg (by omega), readMany_write each [] (by rwa [List.length_append])]
  cases items.findSome? fault? <;> rfl

theorem readWith_map {entries : List (Item × Item)} (fits : (map entries).fits opens)
    (each : ∀ entry ∈ entries, Rereads limit (readPair readOne)
      (fun entry => entry.1.write ++ entry.2.write) (pairFault? fault?) entry)
    (part : ((map entries).write ++ rest).length ≤ limit) :
    readWith limit (some readOne) ((map entries).write ++ rest) =
      (entries.findSome? (pairFault? fault?)).elim (.ok (map entries, rest)) .error := by
  obtain ⟨start, small⟩ := fits_map fits
  have counted : entries.length * 2 ≤
      (entries.flatMap fun entry => entry.1.write ++ entry.2.write).length := by
    refine length_mul_le_flatMap fun entry member => ?_
    obtain ⟨fewer, key, value⟩ := small entry member
    have first := length_write_pos key
    have second := length_write_pos value
    rw [List.length_append]
    omega
  rw [write, List.append_assoc] at part ⊢
  have less : ((entries.flatMap fun entry => entry.1.write ++ entry.2.write) ++ rest).length ≤
      limit := by
    rw [List.length_append] at part
    omega
  rw [List.length_append] at less
  rw [readWith, readHead_write start]
  dsimp only
  rw [if_neg (by omega), readMany_write each [] (by rwa [List.length_append])]
  cases entries.findSome? (pairFault? fault?) <;> rfl

end

/-- What the reader makes of an item as it is written, whatever follows it. -/
theorem readItem_write {item : Item} (fits : item.fits opens) (depth : Nat) :
    Rereads limit (readItem limit depth) write (fault? depth) item := by
  induction depth generalizing item opens with
  | zero =>
      cases item with
      | array items =>
          intro rest part
          rw [write, List.append_assoc, readItem, readWith, readHead_write (fits_array fits).1]
          rfl
      | map entries =>
          intro rest part
          rw [write, List.append_assoc, readItem, readWith, readHead_write (fits_map fits).1]
          rfl
      | _ => exact readItem_write_of_flat rfl fits 0
  | succ depth ih =>
      cases item with
      | array items =>
          intro rest part
          rw [fault?]
          refine readWith_array fits (fun item member => ?_) part
          obtain ⟨fewer, small⟩ := (fits_array fits).2 item member
          exact ih small
      | map entries =>
          intro rest part
          rw [fault?]
          refine readWith_map fits (fun entry member => ?_) part
          obtain ⟨fewer, key, value⟩ := (fits_map fits).2 entry member
          exact readPair_write (ih key) (ih value)
      | _ => exact readItem_write_of_flat rfl fits (depth + 1)

end Item

end Overlay.MessagePack
