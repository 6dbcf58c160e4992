/-
# Overlay.Proofs.MessagePack.Reading -- the reader takes every form and nothing else

`readItem` reads an object off the front of a string exactly when the string starts with
a form of that object (`readItem_eq_ok_iff`), and it leaves what follows the form.  Since
the reader has one answer, a string starts with at most one form
(`Item.Form.eq_of_append_eq`).

The bound on counts does not show in this: a container of `n` items takes more than `n`
octets, so no count that its items bear out is above the length of the message, nor is a
size of application data that is there.  These are the places where the reader needs to
know that its octets are part of the message (`octets.length ≤ limit`).
-/
import Mathlib.Tactic.SplitIfs
import Overlay.Proofs.MessagePack.Form

namespace Overlay.MessagePack

set_option autoImplicit false

open Overlay.Octets (bigEndian ofBigEndian ofBigEndian_bigEndian_of_lt bigEndian_ofBigEndian
  length_bigEndian ofBigEndian_lt split?_append split?_eq_some_iff)

/-! ## Heads -/

/-- What the first octet settles is a form, alone or with the number after it. -/
def Lead.Sound (first : UInt8) : Lead → Prop
  | .alone head => Head.Form head [first]
  | .sized width head => ∀ n, n < 256 ^ width → Head.Form (head n) (first :: bigEndian width n)
  | .reserved => True

@[simp] theorem toNat_octet {n : Nat} (h : n < 256) : (octet n).toNat = n := by
  simpa [octet] using Nat.mod_eq_of_lt h

theorem octet_toNat (first : UInt8) : octet first.toNat = first := by
  simp [octet]

theorem Lead.sound_double : Lead.Sound 0xCB (.sized 8 (.float ∘ UInt64.ofNat)) := by
  intro n bound
  have form := Head.Form.double (UInt64.ofNat n)
  rwa [UInt64.toNat_ofNat_of_lt' (by simpa using bound)] at form

theorem lead_sound (first : UInt8) : (lead first).Sound first := by
  have whole := first.toNat_lt
  have named := octet_toNat first
  unfold lead
  generalize first.toNat = n at *
  subst named
  dsimp only
  split_ifs with int map array str negative
  · exact .small int
  · have form : Head.Form (.map (n - 0x80)) [octet (0x80 + (n - 0x80))] := .shortMap (by omega)
    rwa [Nat.add_sub_cancel' (by omega)] at form
  · have form : Head.Form (.array (n - 0x90)) [octet (0x90 + (n - 0x90))] := .shortArray (by omega)
    rwa [Nat.add_sub_cancel' (by omega)] at form
  · have form : Head.Form (.str (n - 0xA0)) [octet (0xA0 + (n - 0xA0))] := .shortStr (by omega)
    rwa [Nat.add_sub_cancel' (by omega)] at form
  · have form := Head.Form.smallNegative (n := 0xFF - n) (by omega)
    rw [Nat.sub_sub_self (by omega)] at form
    have value : Int.negSucc (0xFF - n) = (n : Int) - 256 := by omega
    rwa [value] at form
  -- The first octets with a meaning of their own, one row each.
  · split
    · exact .nil
    · exact .no
    · exact .yes
    iterate 3 · exact fun _ => .bin (by decide)
    iterate 3 · exact fun _ => .ext (by decide)
    · exact fun _ => .single
    · exact Lead.sound_double
    iterate 4 · exact fun _ => .unsigned (by decide)
    iterate 4 · exact fun _ => .signed (by decide)
    iterate 5 · exact .fixedExt (by decide)
    iterate 3 · exact fun _ => .str (by decide)
    iterate 2 · exact fun _ => .array (by decide)
    iterate 2 · exact fun _ => .map (by decide)
    · trivial

/-! ### The tables as the reader has them -/

theorem lead_unsigned {first : UInt8} {width : Nat} (known : (first, width) ∈ Head.unsignedForms) :
    lead first = .sized width fun n => .int n := by
  simp only [Head.unsignedForms, List.mem_cons, Prod.mk.injEq, List.not_mem_nil, or_false] at known
  obtain ⟨rfl, rfl⟩ | ⟨rfl, rfl⟩ | ⟨rfl, rfl⟩ | ⟨rfl, rfl⟩ := known <;> rfl

theorem lead_signed {first : UInt8} {width : Nat} (known : (first, width) ∈ Head.signedForms) :
    lead first = .sized width fun n => .int (signed width n) := by
  simp only [Head.signedForms, List.mem_cons, Prod.mk.injEq, List.not_mem_nil, or_false] at known
  obtain ⟨rfl, rfl⟩ | ⟨rfl, rfl⟩ | ⟨rfl, rfl⟩ | ⟨rfl, rfl⟩ := known <;> rfl

theorem lead_str {first : UInt8} {width : Nat} (known : (first, width) ∈ Head.strForms) :
    lead first = .sized width .str := by
  simp only [Head.strForms, List.mem_cons, Prod.mk.injEq, List.not_mem_nil, or_false] at known
  obtain ⟨rfl, rfl⟩ | ⟨rfl, rfl⟩ | ⟨rfl, rfl⟩ := known <;> rfl

theorem lead_bin {first : UInt8} {width : Nat} (known : (first, width) ∈ Head.binForms) :
    lead first = .sized width .bin := by
  simp only [Head.binForms, List.mem_cons, Prod.mk.injEq, List.not_mem_nil, or_false] at known
  obtain ⟨rfl, rfl⟩ | ⟨rfl, rfl⟩ | ⟨rfl, rfl⟩ := known <;> rfl

theorem lead_array {first : UInt8} {width : Nat} (known : (first, width) ∈ Head.arrayForms) :
    lead first = .sized width .array := by
  simp only [Head.arrayForms, List.mem_cons, Prod.mk.injEq, List.not_mem_nil, or_false] at known
  obtain ⟨rfl, rfl⟩ | ⟨rfl, rfl⟩ := known <;> rfl

theorem lead_map {first : UInt8} {width : Nat} (known : (first, width) ∈ Head.mapForms) :
    lead first = .sized width .map := by
  simp only [Head.mapForms, List.mem_cons, Prod.mk.injEq, List.not_mem_nil, or_false] at known
  obtain ⟨rfl, rfl⟩ | ⟨rfl, rfl⟩ := known <;> rfl

theorem lead_fixedExt {first : UInt8} {size : Nat} (known : (first, size) ∈ Head.fixedExtForms) :
    lead first = .alone (.ext size) := by
  simp only [Head.fixedExtForms, List.mem_cons, Prod.mk.injEq, List.not_mem_nil, or_false] at known
  obtain ⟨rfl, rfl⟩ | ⟨rfl, rfl⟩ | ⟨rfl, rfl⟩ | ⟨rfl, rfl⟩ | ⟨rfl, rfl⟩ := known <;> rfl

theorem lead_ext {first : UInt8} {width : Nat} (known : (first, width) ∈ Head.extForms) :
    lead first = .sized width .ext := by
  simp only [Head.extForms, List.mem_cons, Prod.mk.injEq, List.not_mem_nil, or_false] at known
  obtain ⟨rfl, rfl⟩ | ⟨rfl, rfl⟩ | ⟨rfl, rfl⟩ := known <;> rfl

/-! ### The heads that are one octet -/

theorem lead_small {n : Nat} (h : n < 0x80) : lead (octet n) = .alone (.int n) := by
  simp only [lead, toNat_octet (show n < 256 by omega), h, if_true]

theorem lead_shortMap {count : Nat} (h : count < 16) :
    lead (octet (0x80 + count)) = .alone (.map count) := by
  simp only [lead, toNat_octet (show 0x80 + count < 256 by omega), Nat.add_sub_cancel_left,
    show ¬ 0x80 + count < 0x80 by omega, show 0x80 + count < 0x90 by omega, if_true, if_false]

theorem lead_shortArray {count : Nat} (h : count < 16) :
    lead (octet (0x90 + count)) = .alone (.array count) := by
  simp only [lead, toNat_octet (show 0x90 + count < 256 by omega), Nat.add_sub_cancel_left,
    show ¬ 0x90 + count < 0x80 by omega, show ¬ 0x90 + count < 0x90 by omega,
    show 0x90 + count < 0xA0 by omega, if_true, if_false]

theorem lead_shortStr {size : Nat} (h : size < 32) :
    lead (octet (0xA0 + size)) = .alone (.str size) := by
  simp only [lead, toNat_octet (show 0xA0 + size < 256 by omega), Nat.add_sub_cancel_left,
    show ¬ 0xA0 + size < 0x80 by omega, show ¬ 0xA0 + size < 0x90 by omega,
    show ¬ 0xA0 + size < 0xA0 by omega, show 0xA0 + size < 0xC0 by omega, if_true, if_false]

theorem lead_smallNegative {n : Nat} (h : n < 0x20) :
    lead (octet (0xFF - n)) = .alone (.int (Int.negSucc n)) := by
  have value : ((0xFF - n : Nat) : Int) - 256 = Int.negSucc n := by omega
  simp only [lead, toNat_octet (show 0xFF - n < 256 by omega), value,
    show ¬ 0xFF - n < 0x80 by omega, show ¬ 0xFF - n < 0x90 by omega,
    show ¬ 0xFF - n < 0xA0 by omega, show ¬ 0xFF - n < 0xC0 by omega,
    show 0xE0 ≤ 0xFF - n by omega, if_true, if_false]

/-! ### Reading a head -/

/-- The first octet of a form settles the head, alone or with the number after it. -/
theorem Head.Form.lead_cases {head : Head} {form : Octets} (h : Head.Form head form) :
    (∃ first, form = [first] ∧ lead first = .alone head) ∨
      ∃ first width make n, form = first :: bigEndian width n ∧
        lead first = .sized width make ∧ n < 256 ^ width ∧ make n = head := by
  cases h with
  | nil | no | yes => exact .inl ⟨_, rfl, rfl⟩
  | small bound => exact .inl ⟨_, rfl, lead_small bound⟩
  | smallNegative bound => exact .inl ⟨_, rfl, lead_smallNegative bound⟩
  | shortStr bound => exact .inl ⟨_, rfl, lead_shortStr bound⟩
  | shortArray bound => exact .inl ⟨_, rfl, lead_shortArray bound⟩
  | shortMap bound => exact .inl ⟨_, rfl, lead_shortMap bound⟩
  | fixedExt known => exact .inl ⟨_, rfl, lead_fixedExt known⟩
  | unsigned known bound => exact .inr ⟨_, _, _, _, rfl, lead_unsigned known, bound, rfl⟩
  | signed known bound => exact .inr ⟨_, _, _, _, rfl, lead_signed known, bound, rfl⟩
  | single bound => exact .inr ⟨_, _, _, _, rfl, rfl, bound, rfl⟩
  | double bits => exact .inr ⟨_, _, _, _, rfl, rfl, bits.toNat_lt, by simp⟩
  | str known bound => exact .inr ⟨_, _, _, _, rfl, lead_str known, bound, rfl⟩
  | bin known bound => exact .inr ⟨_, _, _, _, rfl, lead_bin known, bound, rfl⟩
  | array known bound => exact .inr ⟨_, _, _, _, rfl, lead_array known, bound, rfl⟩
  | map known bound => exact .inr ⟨_, _, _, _, rfl, lead_map known, bound, rfl⟩
  | ext known bound => exact .inr ⟨_, _, _, _, rfl, lead_ext known, bound, rfl⟩

/-- A head is read off the front of a string exactly where the string starts with a form of it. -/
theorem readHead_eq_ok_iff {head : Head} {octets rest : Octets} :
    readHead octets = .ok (head, rest) ↔ ∃ form, octets = form ++ rest ∧ Head.Form head form := by
  constructor
  · intro h
    cases octets with
    | nil => cases h
    | cons first octets =>
        have sound := lead_sound first
        simp only [readHead] at h
        split at h
        · next found =>
          rw [found] at sound
          cases h
          exact ⟨[first], rfl, sound⟩
        · next width make found =>
          rw [found] at sound
          split at h
          · cases h
          · next digits after cut =>
            obtain ⟨rfl, sized⟩ := split?_eq_some_iff.1 cut
            cases h
            have form := sound _ (sized ▸ ofBigEndian_lt digits)
            rw [← sized, bigEndian_ofBigEndian] at form
            exact ⟨first :: digits, rfl, form⟩
        · cases h
  · rintro ⟨form, rfl, h⟩
    obtain ⟨first, rfl, found⟩ | ⟨first, width, make, n, rfl, found, bound, rfl⟩ := h.lead_cases
    · simp only [readHead, List.cons_append, List.nil_append, found]
    · have cut : Octets.split? width (bigEndian width n ++ rest) = some (bigEndian width n, rest) :=
        split?_eq_some_iff.2 ⟨rfl, length_bigEndian width n⟩
      simp only [readHead, List.cons_append, found, cut, ofBigEndian_bigEndian_of_lt bound]

/-! ## What follows a head -/

theorem readSized_eq_ok_iff {size : Nat} {make : Octets → Except Fault Item} {octets rest : Octets}
    {item : Item} : readSized size make octets = .ok (item, rest) ↔
      ∃ data, octets = data ++ rest ∧ data.length = size ∧ make data = .ok item := by
  unfold readSized
  constructor
  · intro h
    split at h
    · cases h
    · next data after cut =>
      obtain ⟨rfl, sized⟩ := split?_eq_some_iff.1 cut
      split at h
      · next made =>
        cases h
        exact ⟨data, rfl, sized, made⟩
      · cases h
  · rintro ⟨data, rfl, rfl, made⟩
    simp only [split?_append, made]

/-- Octets are text exactly when they are the octets of a text. -/
theorem textOf_eq_ok_iff {data : Octets} {item : Item} :
    textOf data = .ok item ↔
      ∃ text : String, item = .str text ∧ data = text.toUTF8.data.toList := by
  unfold textOf String.fromUTF8?
  constructor
  · intro h
    split at h
    · next text found =>
      cases h
      split at found
      · cases found
        exact ⟨_, rfl, by simp [String.fromUTF8]⟩
      · cases found
    · cases h
  · rintro ⟨text, rfl, rfl⟩
    simp [text.isValidUTF8, String.fromUTF8]

theorem timeOf_eq_ok {data : Octets} {item : Item} (h : timeOf data = .ok item) :
    ∃ seconds nanoseconds, item = .time seconds nanoseconds := by
  have made {seconds : Int} {nanoseconds : Nat}
      (h : (if nanoseconds < 10 ^ 9 then .ok (.time seconds nanoseconds)
        else .error .nanoseconds : Except Fault Item) = .ok item) :
      ∃ seconds nanoseconds, item = .time seconds nanoseconds := by
    split_ifs at h
    cases h
    exact ⟨_, _, rfl⟩
  unfold timeOf at h
  dsimp only at h
  split at h
  · exact made h
  · exact made h
  · exact made h
  · cases h

theorem extOf_eq_ok_iff {octets : Octets} {item : Item} :
    extOf octets = .ok item ↔ ∃ code data, octets = code :: data ∧
      (code = 0xFF ∧ timeOf data = .ok item ∨ code < 0x80 ∧ item = .ext code data) := by
  cases octets with
  | nil => simp [extOf]
  | cons code data =>
      simp only [extOf, List.cons.injEq]
      constructor
      · intro h
        refine ⟨code, data, ⟨rfl, rfl⟩, ?_⟩
        split_ifs at h with dated own
        · exact .inl ⟨dated, h⟩
        · cases h
          exact .inr ⟨own, rfl⟩
      · rintro ⟨_, _, ⟨rfl, rfl⟩, ⟨rfl, dated⟩ | ⟨own, rfl⟩⟩
        · simp only [if_true, dated]
        · have other : code ≠ 0xFF := by
            rintro rfl
            exact absurd own (by decide)
          simp only [other, own, if_true, if_false]

/-- Application data that is there does not overflow. -/
theorem overflows_of_le {limit size : Nat} (h : size ≤ limit) : overflows limit size = false := by
  simp [overflows, h]

/-! ## Several things, one after another -/

/-- Off any part of a message of `limit` octets, `readOne` reads what has a form, nothing else. -/
def Reads {α : Type} (limit : Nat) (readOne : Octets → Step α) (form : α → Octets → Prop) : Prop :=
  ∀ octets one rest, octets.length ≤ limit →
    (readOne octets = .ok (one, rest) ↔ ∃ front, octets = front ++ rest ∧ form one front)

namespace Reads

variable {limit : Nat}

theorem many {α : Type} {readOne : Octets → Step α} {form : α → Octets → Prop}
    (reads : Reads limit readOne form) {count : Nat} {read all : List α} {octets rest : Octets}
    (part : octets.length ≤ limit) :
    readMany readOne count read octets = .ok (all, rest) ↔
      ∃ others front, all = read.reverse ++ others ∧ others.length = count ∧
        octets = front ++ rest ∧ Sequence form others front := by
  induction count generalizing read octets with
  | zero =>
      simp only [readMany]
      constructor
      · intro h
        cases h
        exact ⟨[], [], by simp, rfl, rfl, .nil⟩
      · rintro ⟨others, front, rfl, none, rfl, held⟩
        obtain rfl := List.eq_nil_of_length_eq_zero none
        cases held
        simp
  | succ count ih =>
      simp only [readMany]
      constructor
      · intro h
        split at h
        · next one after found =>
          obtain ⟨front, rfl, first⟩ := (reads _ _ _ part).1 found
          have less : after.length ≤ limit := by
            simp only [List.length_append] at part
            omega
          obtain ⟨others, back, rfl, counted, rfl, held⟩ := (ih less).1 h
          exact ⟨one :: others, front ++ back, by simp, by simp [counted], by simp,
            .cons first held⟩
        · cases h
      · rintro ⟨others, front, rfl, counted, rfl, held⟩
        cases held with
        | nil => cases counted
        | @cons one others front back first held =>
            rw [List.append_assoc] at part ⊢
            have less : (back ++ rest).length ≤ limit := by
              rw [List.length_append] at part
              omega
            rw [(reads _ _ _ part).2 ⟨front, rfl, first⟩]
            exact (ih less).2 ⟨others, back, by simp, by simpa using counted, rfl, held⟩

theorem pair {readOne : Octets → Step Item} {form : Item → Octets → Prop}
    (reads : Reads limit readOne form) : Reads limit (readPair readOne) (Item.PairForm form) := by
  rintro octets ⟨key, value⟩ rest part
  simp only [readPair]
  constructor
  · intro h
    split at h
    · cases h
    · next found after first =>
      obtain ⟨front, rfl, keyForm⟩ := (reads _ _ _ part).1 first
      have less : after.length ≤ limit := by
        simp only [List.length_append] at part
        omega
      split at h
      · cases h
      · next second =>
        obtain ⟨back, rfl, valueForm⟩ := (reads _ _ _ less).1 second
        split_ifs at h with container
        cases h
        exact ⟨front ++ back, by simp, .mk (by simpa using container) keyForm valueForm⟩
  · rintro ⟨_, rfl, @⟨_, _, front, back, plain, keyForm, valueForm⟩⟩
    rw [List.append_assoc] at part ⊢
    have less : (back ++ rest).length ≤ limit := by
      rw [List.length_append] at part
      omega
    simp only [(reads _ _ _ part).2 ⟨front, rfl, keyForm⟩,
      (reads _ _ _ less).2 ⟨back, rfl, valueForm⟩, plain]
    rfl

end Reads

/-! ## Items -/

section

variable {limit : Nat} {inner : Option (Octets → Step Item)}
  {contents : Option (Item → Octets → Prop)}

/-- The contents are read right, and none of them is empty. -/
def Inside (limit : Nat) : Option (Octets → Step Item) → Option (Item → Octets → Prop) → Prop :=
  Option.Rel fun readOne form =>
    Reads limit readOne form ∧ ∀ item front, form item front → 0 < front.length

theorem form_of_readWith (right : Inside limit inner contents) {octets rest : Octets} {item : Item}
    (part : octets.length ≤ limit) (h : readWith limit inner octets = .ok (item, rest)) :
    ∃ form, octets = form ++ rest ∧ Item.FormOver contents item form := by
  unfold readWith at h
  split at h
  · cases h
  · next head after found =>
    obtain ⟨front, rfl, start⟩ := readHead_eq_ok_iff.1 found
    have less : after.length ≤ limit := by
      simp only [List.length_append] at part
      omega
    cases head with
    | nil => cases h; exact ⟨front, rfl, .nil start⟩
    | bool value => cases h; exact ⟨front, rfl, .bool start⟩
    | int value => cases h; exact ⟨front, rfl, .int start⟩
    | float bits => cases h; exact ⟨front, rfl, .float start⟩
    | str size =>
        obtain ⟨data, rfl, rfl, made⟩ := readSized_eq_ok_iff.1 h
        obtain ⟨text, rfl, rfl⟩ := textOf_eq_ok_iff.1 made
        exact ⟨_, (List.append_assoc ..).symm, .str (by simpa using start)⟩
    | bin size =>
        obtain ⟨data, rfl, rfl, made⟩ := readSized_eq_ok_iff.1 h
        cases made
        exact ⟨_, (List.append_assoc ..).symm, .bin start⟩
    | ext size =>
        dsimp only at h
        split_ifs at h
        obtain ⟨data, rfl, sized, made⟩ := readSized_eq_ok_iff.1 h
        obtain ⟨code, data, rfl, ⟨rfl, dated⟩ | ⟨own, rfl⟩⟩ := extOf_eq_ok_iff.1 made
        · obtain ⟨seconds, nanoseconds, rfl⟩ := timeOf_eq_ok dated
          obtain rfl : data.length = size := by simpa using sized
          exact ⟨_, (List.append_assoc ..).symm, .time dated start⟩
        · obtain rfl : data.length = size := by simpa using sized
          exact ⟨_, (List.append_assoc ..).symm, .ext own start⟩
    | array count =>
        cases right with
        | none => cases h
        | some right =>
            obtain ⟨reads, -⟩ := right
            dsimp only at h
            split_ifs at h
            split at h
            · next items after read =>
              cases h
              obtain ⟨items, body, rfl, rfl, rfl, held⟩ := (reads.many less).1 read
              exact ⟨_, (List.append_assoc ..).symm, .array rfl start held⟩
            · cases h
    | map count =>
        cases right with
        | none => cases h
        | some right =>
            obtain ⟨reads, -⟩ := right
            dsimp only at h
            split_ifs at h
            split at h
            · next entries after read =>
              cases h
              obtain ⟨entries, body, rfl, rfl, rfl, held⟩ := (reads.pair.many less).1 read
              exact ⟨_, (List.append_assoc ..).symm, .map rfl start held⟩
            · cases h

theorem readWith_of_form (right : Inside limit inner contents) {form : Octets} {item : Item}
    (h : Item.FormOver contents item form) {rest : Octets} (part : (form ++ rest).length ≤ limit) :
    readWith limit inner (form ++ rest) = .ok (item, rest) := by
  have start {head : Head} {front : Octets} (h : Head.Form head front) (after : Octets) :
      readHead (front ++ after) = .ok (head, after) := readHead_eq_ok_iff.2 ⟨front, rfl, h⟩
  cases h with
  | nil h => simp only [readWith, start h]
  | bool h => simp only [readWith, start h]
  | int h => simp only [readWith, start h]
  | float h => simp only [readWith, start h]
  | @str text head h =>
      simp only [readWith, List.append_assoc, start h]
      exact readSized_eq_ok_iff.2 ⟨_, rfl, by simp, textOf_eq_ok_iff.2 ⟨text, rfl, rfl⟩⟩
  | bin h =>
      simp only [readWith, List.append_assoc, start h]
      exact readSized_eq_ok_iff.2 ⟨_, rfl, rfl, rfl⟩
  | @ext code data head own h =>
      simp only [List.length_append, List.length_cons] at part
      simp only [readWith, List.append_assoc, start h,
        overflows_of_le (show data.length ≤ limit by omega)]
      exact readSized_eq_ok_iff.2
        ⟨code :: data, rfl, rfl, extOf_eq_ok_iff.2 ⟨_, _, rfl, .inr ⟨own, rfl⟩⟩⟩
  | @time seconds nanoseconds data head dated h =>
      simp only [List.length_append, List.length_cons] at part
      simp only [readWith, List.append_assoc, start h,
        overflows_of_le (show data.length ≤ limit by omega)]
      exact readSized_eq_ok_iff.2
        ⟨0xFF :: data, rfl, rfl, extOf_eq_ok_iff.2 ⟨_, _, rfl, .inl ⟨rfl, dated⟩⟩⟩
  | @array form items head body opens h held =>
      subst opens
      cases right with
      | some right =>
          obtain ⟨reads, long⟩ := right
          have counted := held.length_mul_le long
          simp only [List.length_append] at part
          simp only [readWith, List.append_assoc, start h]
          rw [if_neg (by omega), (reads.many (by simp only [List.length_append]; omega)).2
            ⟨items, body, rfl, rfl, rfl, held⟩]
          rfl
  | @map form entries head body opens h held =>
      subst opens
      cases right with
      | some right =>
          obtain ⟨reads, long⟩ := right
          have counted := held.length_mul_le fun _ _ h => h.two_le_length long
          simp only [List.length_append] at part
          simp only [readWith, List.append_assoc, start h]
          rw [if_neg (by omega), (reads.pair.many (by simp only [List.length_append]; omega)).2
            ⟨entries, body, rfl, rfl, rfl, held⟩]
          rfl

end

theorem reads_item (limit depth : Nat) : Reads limit (readItem limit depth) (Item.Form depth) := by
  have reads {inner : Option (Octets → Step Item)} {contents : Option (Item → Octets → Prop)}
      (right : Inside limit inner contents) :
      Reads limit (readWith limit inner) (Item.FormOver contents) := fun octets item rest part =>
    ⟨form_of_readWith right part, fun ⟨form, eq, h⟩ => by
      subst eq
      exact readWith_of_form right h part⟩
  induction depth with
  | zero => exact reads .none
  | succ depth ih => exact reads (.some ⟨ih, fun _ _ h => h.length_pos⟩)

/-- An object is read off the front of a part of a message exactly where the part starts with a form
of it, and what follows the form is left. -/
theorem readItem_eq_ok_iff {limit depth : Nat} {octets rest : Octets} {item : Item}
    (part : octets.length ≤ limit) :
    readItem limit depth octets = .ok (item, rest) ↔
      ∃ form, octets = form ++ rest ∧ Item.Form depth item form :=
  reads_item limit depth octets item rest part

/-- A string starts with one form at most: no form is the start of another. -/
theorem Item.Form.eq_of_append_eq {depth : Nat} {a b : Item} {front back after rest : Octets}
    (first : Form depth a front) (second : Form depth b back)
    (same : front ++ after = back ++ rest) :
    a = b ∧ front = back ∧ after = rest := by
  have read := (readItem_eq_ok_iff (Nat.le_refl (front ++ after).length)).2 ⟨front, rfl, first⟩
  have again := (readItem_eq_ok_iff (Nat.le_refl (front ++ after).length)).2 ⟨back, same, second⟩
  rw [read] at again
  cases again
  exact ⟨rfl, List.append_cancel_right same, rfl⟩

/-- An octet string has one meaning. -/
theorem Item.Form.unique {depth : Nat} {a b : Item} {form : Octets} (first : Form depth a form)
    (second : Form depth b form) : a = b := by
  have same : form ++ [] = form ++ [] := rfl
  exact (first.eq_of_append_eq second same).1

end Overlay.MessagePack
