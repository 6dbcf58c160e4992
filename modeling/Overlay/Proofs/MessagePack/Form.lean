/-
# Overlay.Proofs.MessagePack.Form -- the forms in which an object can be written

A MessagePack object has more than one form.  A number may stand in more octets than
it needs, and so may the size of a text or the count of an array; only a reader that
takes every form reads what others write.  This module says which octets are a form of
which object, without a reader and without a writer:

* `Head.Form`: the forms of the start of an object.  Sized forms come in families, one
  first octet for each width, and a family is one constructor over a small table;
* `Sequence`: the forms of several things, one after another;
* `Item.Form`: the forms of a whole object in which at most `depth` containers are open
  at once.  What a container holds has one container less to open, so the recursion is
  on the depth.

No form is empty (`Item.Form.length_pos`), so a message holds no more objects than it
has octets (`Sequence.length_mul_le`).
-/
import Overlay.MessagePack.Reader

namespace Overlay.MessagePack

set_option autoImplicit false

open Overlay.Octets (bigEndian ofBigEndian)

/-! ## Heads -/

namespace Head

/-- Unsigned integers: the first octet and the width of the number after it. -/
def unsignedForms : List (UInt8 × Nat) := [(0xCC, 1), (0xCD, 2), (0xCE, 4), (0xCF, 8)]

/-- Signed integers. -/
def signedForms : List (UInt8 × Nat) := [(0xD0, 1), (0xD1, 2), (0xD2, 4), (0xD3, 8)]

/-- Text. -/
def strForms : List (UInt8 × Nat) := [(0xD9, 1), (0xDA, 2), (0xDB, 4)]

/-- Octets. -/
def binForms : List (UInt8 × Nat) := [(0xC4, 1), (0xC5, 2), (0xC6, 4)]

/-- Arrays. -/
def arrayForms : List (UInt8 × Nat) := [(0xDC, 2), (0xDD, 4)]

/-- Maps. -/
def mapForms : List (UInt8 × Nat) := [(0xDE, 2), (0xDF, 4)]

/-- Application data. -/
def extForms : List (UInt8 × Nat) := [(0xC7, 1), (0xC8, 2), (0xC9, 4)]

/-- Application data of a size that the first octet settles. -/
def fixedExtForms : List (UInt8 × Nat) := [(0xD4, 1), (0xD5, 2), (0xD6, 4), (0xD7, 8), (0xD8, 16)]

/-- The octets are a form of the head. -/
inductive Form : Head → Octets → Prop where
  | nil : Form .nil [0xC0]
  | no : Form (.bool false) [0xC2]
  | yes : Form (.bool true) [0xC3]
  | small {n : Nat} (bound : n < 0x80) : Form (.int n) [octet n]
  /-- The integers from -32 to -1. -/
  | smallNegative {n : Nat} (bound : n < 0x20) : Form (.int (Int.negSucc n)) [octet (0xFF - n)]
  | unsigned {first : UInt8} {width n : Nat} (known : (first, width) ∈ unsignedForms)
      (bound : n < 256 ^ width) : Form (.int n) (first :: bigEndian width n)
  /-- A number of `8 * width` bits read as two's complement. -/
  | signed {first : UInt8} {width n : Nat} (known : (first, width) ∈ signedForms)
      (bound : n < 256 ^ width) :
      Form (.int (Int.bmod n (256 ^ width))) (first :: bigEndian width n)
  | single {bits : Nat} (bound : bits < 256 ^ 4) :
      Form (.float (widen bits)) (0xCA :: bigEndian 4 bits)
  | double (bits : UInt64) : Form (.float bits) (0xCB :: bigEndian 8 bits.toNat)
  | shortStr {size : Nat} (bound : size < 32) : Form (.str size) [octet (0xA0 + size)]
  | str {first : UInt8} {width size : Nat} (known : (first, width) ∈ strForms)
      (bound : size < 256 ^ width) : Form (.str size) (first :: bigEndian width size)
  | bin {first : UInt8} {width size : Nat} (known : (first, width) ∈ binForms)
      (bound : size < 256 ^ width) : Form (.bin size) (first :: bigEndian width size)
  | shortArray {count : Nat} (bound : count < 16) : Form (.array count) [octet (0x90 + count)]
  | array {first : UInt8} {width count : Nat} (known : (first, width) ∈ arrayForms)
      (bound : count < 256 ^ width) : Form (.array count) (first :: bigEndian width count)
  | shortMap {count : Nat} (bound : count < 16) : Form (.map count) [octet (0x80 + count)]
  | map {first : UInt8} {width count : Nat} (known : (first, width) ∈ mapForms)
      (bound : count < 256 ^ width) : Form (.map count) (first :: bigEndian width count)
  | fixedExt {first : UInt8} {size : Nat} (known : (first, size) ∈ fixedExtForms) :
      Form (.ext size) [first]
  | ext {first : UInt8} {width size : Nat} (known : (first, width) ∈ extForms)
      (bound : size < 256 ^ width) : Form (.ext size) (first :: bigEndian width size)

theorem Form.length_pos {head : Head} {form : Octets} (h : Form head form) : 0 < form.length := by
  cases h <;> simp

end Head

/-! ## Several things, one after another -/

/-- The octets are forms of the things, in order and with nothing between them. -/
inductive Sequence {α : Type} (form : α → Octets → Prop) : List α → Octets → Prop where
  | nil : Sequence form [] []
  | cons {one : α} {others : List α} {front back : Octets} (first : form one front)
      (rest : Sequence form others back) : Sequence form (one :: others) (front ++ back)

namespace Sequence

variable {α : Type} {form : α → Octets → Prop}

/-- Things that take at least `least` octets each, `n` of them, take `n * least` at least. -/
theorem length_mul_le {things : List α} {octets : Octets} {least : Nat}
    (long : ∀ thing front, form thing front → least ≤ front.length)
    (h : Sequence form things octets) : things.length * least ≤ octets.length := by
  induction h with
  | nil => simp
  | cons first rest ih =>
      have := long _ _ first
      simp only [List.length_cons, List.length_append, Nat.add_mul, Nat.one_mul]
      omega

end Sequence

/-! ## Items -/

namespace Item

/-- The octets are a form of the pair; a container is no key. -/
inductive PairForm (contents : Item → Octets → Prop) : Item × Item → Octets → Prop where
  | mk {key value : Item} {front back : Octets} (plain : key.isContainer = false)
      (first : contents key front) (second : contents value back) :
      PairForm contents (key, value) (front ++ back)

/-- The octets are a form of the item.  What a container holds has the forms `inner`; without those
there are no containers. -/
inductive FormOver (inner : Option (Item → Octets → Prop)) : Item → Octets → Prop where
  | nil {head : Octets} (h : Head.Form .nil head) : FormOver inner .nil head
  | bool {value : Bool} {head : Octets} (h : Head.Form (.bool value) head) :
      FormOver inner (.bool value) head
  | int {value : Int} {head : Octets} (h : Head.Form (.int value) head) :
      FormOver inner (.int value) head
  | float {bits : UInt64} {head : Octets} (h : Head.Form (.float bits) head) :
      FormOver inner (.float bits) head
  | str {text : String} {head : Octets} (h : Head.Form (.str text.utf8ByteSize) head) :
      FormOver inner (.str text) (head ++ text.toUTF8.data.toList)
  | bin {data head : Octets} (h : Head.Form (.bin data.length) head) :
      FormOver inner (.bin data) (head ++ data)
  | ext {code : UInt8} {data head : Octets} (own : code < 0x80)
      (h : Head.Form (.ext data.length) head) :
      FormOver inner (.ext code data) (head ++ code :: data)
  /-- A point in time is application data under the code 255. -/
  | time {seconds : Int} {nanoseconds : Nat} {data head : Octets}
      (dated : timeOf data = .ok (.time seconds nanoseconds))
      (h : Head.Form (.ext data.length) head) :
      FormOver inner (.time seconds nanoseconds) (head ++ 0xFF :: data)
  | array {contents : Item → Octets → Prop} {items : List Item} {head body : Octets}
      (opens : inner = some contents) (h : Head.Form (.array items.length) head)
      (held : Sequence contents items body) : FormOver inner (.array items) (head ++ body)
  | map {contents : Item → Octets → Prop} {entries : List (Item × Item)} {head body : Octets}
      (opens : inner = some contents) (h : Head.Form (.map entries.length) head)
      (held : Sequence (PairForm contents) entries body) :
      FormOver inner (.map entries) (head ++ body)

/-- The octets are a form of the item, with at most `depth` containers open at once. -/
def Form : (depth : Nat) → Item → Octets → Prop
  | 0 => FormOver none
  | depth + 1 => FormOver (some (Form depth))

/-- A form starts with a head. -/
theorem FormOver.exists_head {inner : Option (Item → Octets → Prop)} {item : Item} {form : Octets}
    (h : FormOver inner item form) :
    ∃ head front back, Head.Form head front ∧ form = front ++ back := by
  cases h with
  | nil h | bool h | int h | float h => exact ⟨_, _, [], h, by simp⟩
  | str h | bin h | ext _ h | time _ h | array _ h _ | map _ h _ => exact ⟨_, _, _, h, rfl⟩

theorem FormOver.length_pos {inner : Option (Item → Octets → Prop)} {item : Item} {form : Octets}
    (h : FormOver inner item form) : 0 < form.length := by
  obtain ⟨head, front, back, start, rfl⟩ := h.exists_head
  have := start.length_pos
  simp only [List.length_append]
  omega

/-- An item takes at least one octet. -/
theorem Form.length_pos {depth : Nat} {item : Item} {form : Octets} (h : Form depth item form) :
    0 < form.length := by
  cases depth with
  | zero => exact FormOver.length_pos h
  | succ depth => exact FormOver.length_pos h

theorem PairForm.two_le_length {contents : Item → Octets → Prop} {pair : Item × Item}
    {form : Octets} (h : PairForm contents pair form)
    (long : ∀ item front, contents item front → 0 < front.length) : 2 ≤ form.length := by
  obtain ⟨-, first, second⟩ := h
  have key := long _ _ first
  have value := long _ _ second
  simp only [List.length_append]
  omega

end Item

end Overlay.MessagePack
