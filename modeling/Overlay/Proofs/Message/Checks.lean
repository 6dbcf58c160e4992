/-
# Overlay.Proofs.Message.Checks -- what is looked at in the fields, and in which order

`checks` lists what the shape of the fields under a tag asks for, one `Check` after another:
so many fields, octets of a length, an array and then what it holds, a number of a tag.  A
check says by itself how it fails (`Check.failure?`).

`Message.recordOf` fails exactly as the first of these checks that does
(`recordOf_lenient_eq_error_iff`).  So whatever is wrong with the fields, the report is the
one of the first check that finds something, and no step on the way out changes it.

`Check.Under` tells what can stand in a check: only what the fields hold, only a few names of
fields, and numbers of tags only where the tag asks for such (`under_of_mem_checks`).
-/
import Overlay.Proofs.Message.Shape

namespace Overlay

set_option autoImplicit false

/-- Do the fields under the tag hold numbers of tags? -/
def Tag.holdsNumbers : Tag → Bool
  | .payload | .revocationKey _ => true
  | _ => false

namespace Message

open MessagePack (Item)

/-! ## Checks -/

/-- One thing that is looked at in the fields under a tag. -/
inductive Check where
  /-- There are so many fields. -/
  | count (expected : Nat) (fields : List Item)
  /-- The field is octets of one length. -/
  | sized (size : Nat) (field : String) (item : Item)
  | octets (field : String) (item : Item)
  | array (field : String) (item : Item)
  /-- The item is the number of a tag. -/
  | number (item : Item)
  /-- There are three numbers of tags. -/
  | three (items : List Item)
  /-- The three numbers are those of the family. -/
  | triple (family : Family) (items : List Item)

/-- What is wrong with the length of a field that should be octets of one length; a field that is no
octets has none. -/
def mismatch? (size : Nat) (field : String) : Item → Option SizeMismatch
  | .bin octets => if octets.length = size then none else some (.of size octets.length field)
  | _ => some (.of size 0 field)

/-- The numbers that are read from items. -/
def numbersOf (acceptText : Bool) (items : List Item) : List Nat :=
  items.filterMap fun item => (Tag.read acceptText (.ofItem item)).toOption

/-- How a check fails, if it does. -/
def Check.failure? (tag : Tag) (acceptText : Bool) : Check → Option Failure
  | .count expected fields =>
    if fields.length = expected then none
    else some (.refused (.fieldCount tag expected fields.length))
  | .sized size field item =>
    (mismatch? size field item).map fun mismatch => .refused (.fieldSize tag mismatch)
  | .octets field item =>
    match item with
    | .bin _ => none
    | item => some (.refused (.fieldNotOctets tag field item.typeName))
  | .array field item =>
    match item with
    | .array _ => none
    | item => some (.refused (.fieldNotArray tag field item.typeName))
  | .number item =>
    match Tag.read acceptText (.ofItem item) with
    | .ok _ => none
    | .error problem => some (.ofTag (.innerTag tag) problem)
  | .three items =>
    if items.length = 3 then none else some (.refused (.familyCount tag items.length))
  | .triple family items =>
    if Family.ofTriple? (numbersOf acceptText items) = some family then none
    else some (.refused (.familyMismatch tag (numbersOf acceptText items)))

/-! ## The checks of a shape -/

/-- The checks of an array, and of what it holds. -/
def arrayChecks (field : String) (item : Item) (inside : List Item → List Check) : List Check :=
  .array field item :: match item with
    | .array items => inside items
    | _ => []

/-- The checks of an array of names. -/
def namesChecks (field element : String) (item : Item) : List Check :=
  arrayChecks field item (List.map (.sized 64 element))

/-- What messages call a row of a table. -/
def rowName (index : Nat) : String := "value[" ++ toString index ++ "]"

/-- The checks of the rows of a table. -/
def rowsChecks (item : Item) : List Check :=
  arrayChecks "value" item fun rows =>
    rows.zipIdx.flatMap fun (row, index) => namesChecks (rowName index) (rowName index) row

/-- The checks of the numbers of a family. -/
def familyChecks (family : Family) (item : Item) : List Check :=
  arrayChecks "type_tags" item fun items =>
    .three items :: if items.length = 3 then items.map .number ++ [.triple family items] else []

/-- The checks of the fields under a tag, in order. -/
def checks (tag : Tag) (fields : List Item) : List Check :=
  match tag with
  | .name =>
    .count 1 fields :: match fields with
      | [id] => [.sized 64 "NameType.id" id]
      | _ => []
  | .payload =>
    .count 2 fields :: match fields with
      | [inner, octets] => [.number inner, .octets "payload" octets]
      | _ => []
  | .block _ =>
    .count 1 fields :: match fields with
      | [value] => [.octets "value" value]
      | _ => []
  | .table =>
    .count 3 fields :: match fields with
      | [name, owner, rows] => rowsChecks rows ++ [.sized 64 "name" name, .sized 64 "owner" owner]
      | _ => []
  | .coin =>
    .count 4 fields :: match fields with
      | [name, owners, previous, signatures] =>
        .sized 64 "name" name :: (namesChecks "owners" "owners" owners ++
          (namesChecks "previous_owners" "previous_owners" previous ++
            arrayChecks "signatures" signatures (List.map (.sized 64 "signatures"))))
      | _ => []
  | .revocationKey family =>
    .count 3 fields :: match fields with
      | [numbers, publicKey, secretKey] =>
        familyChecks family numbers ++
          [.sized 32 "public_key" publicKey, .sized 32 "secret_key" secretKey]
      | _ => []
  | .identity _ =>
    .count 4 fields :: match fields with
      | [signPublic, boxPublic, signSecret, boxSecret] =>
        [.sized 32 "public_keys.sign" signPublic, .sized 32 "public_keys.box" boxPublic,
          .sized 32 "secret_keys.sign" signSecret, .sized 32 "secret_keys.box" boxSecret]
      | _ => []
  | .publicIdentity _ =>
    .count 4 fields :: match fields with
      | [signPublic, boxPublic, revocationKey, signature] =>
        [.sized 32 "public_keys.sign" signPublic, .sized 32 "public_keys.box" boxPublic,
          .sized 32 "revocation_public_key" revocationKey, .sized 64 "signature" signature]
      | _ => []
  | .publicRevocation _ =>
    .count 2 fields :: match fields with
      | [publicKey, signature] =>
        [.sized 32 "public_key" publicKey, .sized 64 "signature" signature]
      | _ => []

/-! ### What can stand in a check -/

/-- The item is one of the fields, or in an array that the fields hold. -/
inductive Holds (fields : List Item) : Item → Prop where
  | field {item : Item} (member : item ∈ fields) : Holds fields item
  | element {items : List Item} {item : Item} (array : Holds fields (.array items))
      (member : item ∈ items) : Holds fields item

/-- The names of the fields of all sorts of record. -/
def fieldNames : List String :=
  ["NameType.id", "payload", "value", "name", "owner", "owners", "previous_owners", "signatures",
    "type_tags", "public_key", "secret_key", "public_keys.sign", "public_keys.box",
    "secret_keys.sign", "secret_keys.box", "revocation_public_key", "signature"]

/-- The name of a field, or of a row in an array that the fields hold. -/
inductive Named (fields : List Item) : String → Prop where
  | field {name : String} (known : name ∈ fieldNames) : Named fields name
  | row {rows : List Item} {index : Nat} (array : Holds fields (.array rows))
      (below : index < rows.length) : Named fields (rowName index)

/-- The check is one that fields under the tag can lead to. -/
inductive Check.Under (tag : Tag) (fields : List Item) : Check → Prop where
  | count {expected : Nat} (few : expected ≤ 4) : Under tag fields (.count expected fields)
  | sized {size : Nat} {field : String} {item : Item} (small : size ≤ 64)
      (named : Named fields field) (held : Holds fields item) :
      Under tag fields (.sized size field item)
  | octets {field : String} {item : Item} (named : Named fields field) :
      Under tag fields (.octets field item)
  | array {field : String} {item : Item} (named : Named fields field) :
      Under tag fields (.array field item)
  | number {item : Item} (numbered : tag.holdsNumbers = true) (held : Holds fields item) :
      Under tag fields (.number item)
  | three {items : List Item} (numbered : tag.holdsNumbers = true)
      (held : Holds fields (.array items)) : Under tag fields (.three items)
  | triple {family : Family} {items : List Item} (numbered : tag.holdsNumbers = true)
      (three : items.length = 3) : Under tag fields (.triple family items)

section

variable {tag : Tag} {fields : List Item} {field element : String} {item : Item}

theorem under_arrayChecks {inside : List Item → List Check} (named : Named fields field)
    (held : Holds fields item)
    (each : ∀ items, Holds fields (.array items) →
      ∀ check ∈ inside items, check.Under tag fields) :
    ∀ check ∈ arrayChecks field item inside, check.Under tag fields := by
  refine List.forall_mem_cons.2 ⟨.array named, ?_⟩
  cases item with
  | array items => exact each items held
  | _ => exact List.forall_mem_nil _

theorem under_sized {size : Nat} {items : List Item} (small : size ≤ 64)
    (named : Named fields element) (held : Holds fields (.array items)) :
    ∀ check ∈ items.map (Check.sized size element), check.Under tag fields :=
  List.forall_mem_map.2 fun _ member => .sized small named (.element held member)

theorem under_namesChecks (named : Named fields field) (named' : Named fields element)
    (held : Holds fields item) :
    ∀ check ∈ namesChecks field element item, check.Under tag fields :=
  under_arrayChecks named held fun _ => under_sized (Nat.le_refl 64) named'

theorem under_rowsChecks (held : Holds fields item) :
    ∀ check ∈ rowsChecks item, check.Under tag fields := by
  refine under_arrayChecks (.field (by decide)) held fun rows array check member => ?_
  obtain ⟨⟨row, index⟩, known, member⟩ := List.mem_flatMap.1 member
  have below : index < rows.length := by simpa using List.snd_lt_of_mem_zipIdx known
  have inside : Holds fields row := .element array (List.fst_mem_of_mem_zipIdx known)
  exact under_namesChecks (.row array below) (.row array below) inside check member

theorem under_familyChecks {family : Family} (numbered : tag.holdsNumbers = true)
    (held : Holds fields item) :
    ∀ check ∈ familyChecks family item, check.Under tag fields := by
  refine under_arrayChecks (.field (by decide)) held fun items array => ?_
  refine List.forall_mem_cons.2 ⟨.three numbered array, ?_⟩
  split_ifs with three
  · refine List.forall_mem_append.2 ⟨List.forall_mem_map.2 fun item member => ?_, ?_⟩
    · exact .number numbered (.element array member)
    · exact List.forall_mem_singleton.2 (.triple numbered three)
  · exact List.forall_mem_nil _

/-- Every check of the fields under a tag is one that they can lead to. -/
theorem under_of_mem_checks : ∀ check ∈ checks tag fields, check.Under tag fields := by
  have sized : ∀ {size : Nat} {field : String} {item : Item}, size ≤ 64 → field ∈ fieldNames →
      item ∈ fields → Check.Under tag fields (.sized size field item) :=
    fun small known member => .sized small (.field known) (.field member)
  cases tag with
  | name =>
      refine List.forall_mem_cons.2 ⟨.count (by decide), ?_⟩
      split
      · exact List.forall_mem_singleton.2 (sized (by decide) (by decide) (by simp))
      · exact List.forall_mem_nil _
  | payload =>
      refine List.forall_mem_cons.2 ⟨.count (by decide), ?_⟩
      split
      · refine List.forall_mem_cons.2 ⟨.number rfl (.field (by simp)), ?_⟩
        exact List.forall_mem_singleton.2 (.octets (.field (by decide)))
      · exact List.forall_mem_nil _
  | block copy =>
      refine List.forall_mem_cons.2 ⟨.count (by decide), ?_⟩
      split
      · exact List.forall_mem_singleton.2 (.octets (.field (by decide)))
      · exact List.forall_mem_nil _
  | table =>
      refine List.forall_mem_cons.2 ⟨.count (by decide), ?_⟩
      split
      · refine List.forall_mem_append.2 ⟨under_rowsChecks (.field (by simp)), ?_⟩
        simp only [List.mem_cons, List.not_mem_nil, or_false, forall_eq_or_imp, forall_eq]
        constructor <;> exact sized (by decide) (by decide) (by simp)
      · exact List.forall_mem_nil _
  | coin =>
      refine List.forall_mem_cons.2 ⟨.count (by decide), ?_⟩
      split
      · refine List.forall_mem_cons.2 ⟨sized (by decide) (by decide) (by simp), ?_⟩
        refine List.forall_mem_append.2 ⟨?_, List.forall_mem_append.2 ⟨?_, ?_⟩⟩
        · exact under_namesChecks (.field (by decide)) (.field (by decide)) (.field (by simp))
        · exact under_namesChecks (.field (by decide)) (.field (by decide)) (.field (by simp))
        · exact under_arrayChecks (.field (by decide)) (.field (by simp)) fun _ =>
            under_sized (by decide) (.field (by decide))
      · exact List.forall_mem_nil _
  | revocationKey family =>
      refine List.forall_mem_cons.2 ⟨.count (by decide), ?_⟩
      split
      · refine List.forall_mem_append.2 ⟨under_familyChecks rfl (.field (by simp)), ?_⟩
        simp only [List.mem_cons, List.not_mem_nil, or_false, forall_eq_or_imp, forall_eq]
        constructor <;> exact sized (by decide) (by decide) (by simp)
      · exact List.forall_mem_nil _
  | identity family | publicIdentity family =>
      refine List.forall_mem_cons.2 ⟨.count (by decide), ?_⟩
      split
      · simp only [List.mem_cons, List.not_mem_nil, or_false, forall_eq_or_imp, forall_eq]
        refine ⟨?_, ?_, ?_, ?_⟩ <;> exact sized (by decide) (by decide) (by simp)
      · exact List.forall_mem_nil _
  | publicRevocation family =>
      refine List.forall_mem_cons.2 ⟨.count (by decide), ?_⟩
      split
      · simp only [List.mem_cons, List.not_mem_nil, or_false, forall_eq_or_imp, forall_eq]
        constructor <;> exact sized (by decide) (by decide) (by simp)
      · exact List.forall_mem_nil _

end

/-! ## A step and its checks -/

/-- What a step fails with, if it does. -/
def failed {α : Type} : Except Failure α → Option Failure
  | .ok _ => none
  | .error failure => some failure

/-- The step fails exactly as the first of the checks that does. -/
def Follows {α : Type} (tag : Tag) (acceptText : Bool) (checks : List Check)
    (step : Except Failure α) : Prop :=
  failed step = checks.findSome? (Check.failure? tag acceptText)

namespace Follows

variable {α β : Type} {tag : Tag} {acceptText : Bool} {step : Except Failure α}
  {next : α → Except Failure β} {first rest : List Check}

theorem ok (value : α) : Follows tag acceptText [] (.ok value : Except Failure α) := rfl

theorem bind (leading : Follows tag acceptText first step)
    (following : ∀ value, step = .ok value → Follows tag acceptText rest (next value)) :
    Follows tag acceptText (first ++ rest) (step >>= next) := by
  unfold Follows at leading ⊢
  rw [List.findSome?_append, ← leading]
  cases step with
  | ok value => exact following value rfl
  | error failure => rfl

/-- A step with one check, and what follows it. -/
theorem cons {check : Check} (leading : Follows tag acceptText [check] step)
    (following : ∀ value, step = .ok value → Follows tag acceptText rest (next value)) :
    Follows tag acceptText (check :: rest) (step >>= next) :=
  bind leading following

theorem map {f : α → β} (h : Follows tag acceptText first step) :
    Follows tag acceptText first (step.map f) := by
  unfold Follows at h ⊢
  rw [← h]
  cases step <;> rfl

/-- One step for each of several things. -/
theorem mapM {step : α → Except Failure β} {inside : α → List Check}
    (each : ∀ thing, Follows tag acceptText (inside thing) (step thing)) (things : List α) :
    Follows tag acceptText (things.flatMap inside) (things.mapM step) := by
  induction things with
  | nil => rfl
  | cons thing things ih =>
      rw [List.flatMap_cons, List.mapM_cons]
      refine bind (each thing) fun value _ => ?_
      rw [← List.append_nil (things.flatMap inside)]
      exact bind ih fun values _ => ok _

/-- Steps with one check each. -/
theorem mapM_single {step : α → Except Failure β} {check : α → Check}
    (each : ∀ thing, Follows tag acceptText [check thing] (step thing)) (things : List α) :
    Follows tag acceptText (things.map check) (things.mapM step) := by
  rw [List.map_eq_flatMap]
  exact mapM each things

/-! ### Single fields -/

theorem fixedField (size : Nat) (field : String) (item : Item) :
    Follows tag acceptText [.sized size field item] (fixedField tag size field item) := by
  cases item with
  | bin octets =>
      by_cases whole : octets.length = size <;>
        simp [Follows, failed, Message.fixedField, Fixed.ofField, Fixed.of?, Check.failure?,
          mismatch?, refuse, whole]
  | _ => simp [Follows, failed, Message.fixedField, Check.failure?, mismatch?, refuse]

theorem nameField (field : String) (item : Item) :
    Follows tag acceptText [.sized 64 field item] (nameField tag field item) :=
  map (fixedField 64 field item)

theorem octetsField (field : String) (item : Item) :
    Follows tag acceptText [.octets field item] (octetsField tag field item) := by
  cases item <;> rfl

theorem arrayField {inside : List Item → List Check} {next : List Item → Except Failure β}
    (field : String) (item : Item)
    (following : ∀ items, Follows tag acceptText (inside items) (next items)) :
    Follows tag acceptText (arrayChecks field item inside)
      (arrayField tag field item >>= next) := by
  cases item with
  | array items => exact cons rfl fun _ found => by cases found; exact following items
  | _ => rfl

theorem namesField (field element : String) (item : Item) :
    Follows tag acceptText (namesChecks field element item) (namesField tag field element item) :=
  arrayField field item (mapM_single (nameField element))

theorem rowsField (item : Item) :
    Follows tag acceptText (rowsChecks item) (rowsField tag item) :=
  arrayField "value" item fun rows =>
    mapM (fun (row, index) => namesField (rowName index) (rowName index) row) rows.zipIdx

theorem tagField (item : Item) :
    Follows tag acceptText [.number item] (tagField tag acceptText item) := by
  simp only [Follows, Message.tagField, List.findSome?_cons, Check.failure?]
  cases Tag.read acceptText (.ofItem item) with
  | ok number => rfl
  | error problem => rfl

end Follows

/-! ### Whole records -/

section

variable {tag : Tag} {acceptText : Bool}

/-- Numbers that are all read are the numbers of the items. -/
theorem numbersOf_of_mapM {items : List Item} {numbers : List Nat}
    (read : items.mapM (tagField tag acceptText) = .ok numbers) :
    numbersOf acceptText items = numbers := by
  rw [mapM_eq_ok_iff] at read
  induction read with
  | nil => rfl
  | @cons item number items numbers one _ ih =>
      have found : Tag.read acceptText (.ofItem item) = .ok number :=
        Tag.read_eq_ok_iff.2 (tagField_eq_ok_iff.1 one)
      have others : numbersOf acceptText (item :: items) = number :: numbersOf acceptText items := by
        simp [numbersOf, found, Except.toOption]
      rw [others, ih]

theorem Follows.familyField (family : Family) (item : Item) :
    Follows tag acceptText (familyChecks family item) (familyField tag family acceptText item) := by
  refine arrayField "type_tags" item fun items => ?_
  by_cases three : items.length = 3
  · rw [if_pos three, if_neg (not_not.2 three)]
    have counted : Check.failure? tag acceptText (.three items) = none := if_pos three
    rw [Follows, List.findSome?_cons, counted]
    refine bind (mapM_single tagField items) fun numbers read => ?_
    have same := numbersOf_of_mapM read
    by_cases found : Family.ofTriple? numbers = some family
    · simp [Follows, failed, Check.failure?, same, found, pure, Except.pure]
    · simp [Follows, failed, Check.failure?, same, found, refuse]
  · rw [if_neg three, if_pos three, Follows, List.findSome?_cons, Check.failure?, if_neg three]
    rfl

/-- The fields are as many as they should be, and what follows looks at them. -/
theorem Follows.counted {α : Type} {expected : Nat} {fields : List Item} {rest : List Check}
    {step : Except Failure α} (right : fields.length = expected)
    (following : Follows tag acceptText rest step) :
    Follows tag acceptText (.count expected fields :: rest) step := by
  unfold Follows at following ⊢
  rw [List.findSome?_cons, Check.failure?, if_pos right]
  exact following

/-- Fields of another number are refused, whatever they are. -/
theorem Follows.miscounted {α : Type} {expected : Nat} {fields : List Item} {rest : List Check}
    (wrong : fields.length ≠ expected) :
    Follows tag acceptText (.count expected fields :: rest)
      (refuse (.fieldCount tag expected fields.length) : Except Failure α) := by
  rw [Follows, List.findSome?_cons, Check.failure?, if_neg wrong]
  rfl

end

/-- The shape of the fields is judged by the checks under the tag. -/
theorem follows_recordOf (tag : Tag) (acceptText : Bool) (fields : List Item) :
    Follows tag acceptText (checks tag fields) (recordOf .lenient acceptText tag fields) := by
  cases tag with
  | name =>
      match fields with
      | [id] => exact .counted rfl (.cons (.nameField _ _) fun _ _ => .ok _)
      | [] | _ :: _ :: _ => exact .miscounted (by simp)
  | payload =>
      match fields with
      | [inner, octets] =>
        refine .counted rfl (.cons (.tagField _) fun number read =>
          .cons (.octetsField _ _) fun octets _ => ?_)
        obtain ⟨payload, made⟩ := exists_payloadOf read octets
        rw [made]
        exact .ok _
      | [] | [_] | _ :: _ :: _ :: _ => exact .miscounted (by simp)
  | block copy =>
      match fields with
      | [value] => exact .counted rfl (.cons (.octetsField _ _) fun _ _ => .ok _)
      | [] | _ :: _ :: _ => exact .miscounted (by simp)
  | table =>
      match fields with
      | [name, owner, rows] =>
        exact .counted rfl (.bind (.rowsField _) fun _ _ => .cons (.nameField _ _) fun _ _ =>
          .cons (.nameField _ _) fun _ _ => .ok _)
      | [] | [_] | [_, _] | _ :: _ :: _ :: _ :: _ => exact .miscounted (by simp)
  | coin =>
      match fields with
      | [name, owners, previous, signatures] =>
        refine .counted rfl (.cons (.nameField _ _) fun _ _ => .bind (.namesField _ _ _) fun _ _ =>
          .bind (.namesField _ _ _) fun _ _ => .arrayField _ _ fun signatures => ?_)
        rw [← List.append_nil (List.map _ signatures)]
        exact .bind (.mapM_single (.fixedField _ _) signatures) fun _ _ => .ok _
      | [] | [_] | [_, _] | [_, _, _] | _ :: _ :: _ :: _ :: _ :: _ =>
        exact .miscounted (by simp)
  | revocationKey family =>
      match fields with
      | [numbers, publicKey, secretKey] =>
        exact .counted rfl (.bind (.familyField _ _) fun _ _ => .cons (.fixedField _ _ _) fun _ _ =>
          .cons (.fixedField _ _ _) fun _ _ => .ok _)
      | [] | [_] | [_, _] | _ :: _ :: _ :: _ :: _ => exact .miscounted (by simp)
  | identity family =>
      match fields with
      | [signPublic, boxPublic, signSecret, boxSecret] =>
        exact .counted rfl (.cons (.fixedField _ _ _) fun _ _ => .cons (.fixedField _ _ _) fun _ _ =>
          .cons (.fixedField _ _ _) fun _ _ => .cons (.fixedField _ _ _) fun _ _ => .ok _)
      | [] | [_] | [_, _] | [_, _, _] | _ :: _ :: _ :: _ :: _ :: _ =>
        exact .miscounted (by simp)
  | publicIdentity family =>
      match fields with
      | [signPublic, boxPublic, revocationKey, signature] =>
        exact .counted rfl (.cons (.fixedField _ _ _) fun _ _ => .cons (.fixedField _ _ _) fun _ _ =>
          .cons (.fixedField _ _ _) fun _ _ => .cons (.fixedField _ _ _) fun _ _ => .ok _)
      | [] | [_] | [_, _] | [_, _, _] | _ :: _ :: _ :: _ :: _ :: _ =>
        exact .miscounted (by simp)
  | publicRevocation family =>
      match fields with
      | [publicKey, signature] =>
        exact .counted rfl (.cons (.fixedField _ _ _) fun _ _ => .cons (.fixedField _ _ _) fun _ _ =>
          .ok _)
      | [] | [_] | _ :: _ :: _ :: _ => exact .miscounted (by simp)

theorem recordOf_lenient_eq_error_iff {tag : Tag} {acceptText : Bool} {fields : List Item}
    {failure : Failure} :
    recordOf .lenient acceptText tag fields = .error failure ↔
      (checks tag fields).findSome? (Check.failure? tag acceptText) = some failure := by
  rw [← follows_recordOf tag acceptText fields]
  cases recordOf .lenient acceptText tag fields <;> simp [failed]

end Message

end Overlay
