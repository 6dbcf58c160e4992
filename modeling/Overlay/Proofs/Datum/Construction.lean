/-
# Overlay.Proofs.Datum.Construction -- what is built, and whether it can be sent

Nine functions build records, and their arguments may be of any sort.  What they build is
a record or a draft (`Construction.recordOrDraft_run`): it is a draft exactly if what stands
in the place of a name of a table or a coin is no name, or in the place of the tags of a
revocation key no family.  No other argument is taken unchecked.

A value is `Sendable` if asking for its tag, its fields and its message fails in no other way
than that it is not written, and it is what its message is decoded to, unless it is
signed.  Every record is (`sendable_of_record?`).  A draft in general is not
(`sendable_draft_iff`): something is missing in it, or else its message is decoded to
something other than the draft, if at all.  `Construction.sendable_exactly` puts this
together: what is built can be sent exactly if it was built from names and families, or is
a draft with fields that are not written, say for their length.
-/
import Overlay.Datum.Record
import Overlay.Proofs.Datum.Carrying

namespace Overlay

set_option autoImplicit false

/-! ## Building -/

/-- A call of one of the nine functions that build records. -/
inductive Construction where
  | name (id : Datum)
  | payload (inner octets : Datum)
  | block (value tag : Datum)
  | table (address owner rows : Datum)
  | coin (address owners previousOwners signatures : Datum)
  | revocationKey (tags publicKey secretKey : Datum)
  | identity (tag publicKeys secretKeys : Datum)
  | publicIdentity (tag publicKeys revocation signature : Datum)
  | publicRevocation (tag publicKey signature : Datum)

/-- What the call gives. -/
def Construction.run : Construction → Except Fault Datum
  | .name id => Datum.nameOf id
  | .payload inner octets => Datum.payloadOf inner octets
  | .block value tag => Datum.blockOf value tag
  | .table address owner rows => Datum.tableOf address owner rows
  | .coin address owners previous signatures => Datum.coinOf address owners previous signatures
  | .revocationKey tags publicKey secretKey => Datum.revocationKeyOf tags publicKey secretKey
  | .identity tag publicKeys secretKeys => Datum.identityOf tag publicKeys secretKeys
  | .publicIdentity tag publicKeys revocation signature =>
    Datum.publicIdentityOf tag publicKeys revocation signature
  | .publicRevocation tag publicKey signature => Datum.publicRevocationOf tag publicKey signature

namespace Datum

/-- Is the value a name? -/
def isName (datum : Datum) : Bool := datum.name?.isSome

/-- Has the value items, all of them names? -/
def areNames (datum : Datum) : Bool :=
  match datum.items with
  | .ok items => items.all isName
  | .error _ => false

/-- Is the value a family? -/
def isFamily : Datum → Bool
  | .tagFamily _ => true
  | _ => false

/-- Is the value a draft? -/
def isDraft : Datum → Bool
  | .draftTable _ _ _ | .draftCoin _ _ _ _ | .draftKey _ _ _ => true
  | _ => false

end Datum

/-- Are the arguments names and families where they should be? -/
def Construction.isProper : Construction → Bool
  | .table address owner _ => address.isName && owner.isName
  | .coin address owners previous _ => address.isName && owners.areNames && previous.areNames
  | .revocationKey tags _ _ => tags.isFamily
  | _ => true

namespace Datum

/-! ### Functions that check every argument -/

/-- What is given, if anything, is a record. -/
def GivesRecord (result : Except Fault Datum) : Prop :=
  ∀ value, result = .ok value → ∃ record, value.record? = some record

namespace GivesRecord

theorem record (r : Record) : GivesRecord (.ok (.record r)) := by
  rintro _ ⟨⟩
  exact ⟨r, rfl⟩

theorem error (fault : Fault) : GivesRecord (.error fault) := by
  rintro _ ⟨⟩

theorem bind {α : Type} {step : Except Fault α} {next : α → Except Fault Datum}
    (each : ∀ a, GivesRecord (next a)) : GivesRecord (step >>= next) := by
  intro value given
  obtain ⟨a, -, given⟩ := bind_eq_ok_iff.1 given
  exact each a value given

end GivesRecord

theorem givesRecord_nameOf (id : Datum) : GivesRecord (nameOf id) :=
  .bind fun _ => .record _

theorem givesRecord_payloadOf (inner octets : Datum) : GivesRecord (payloadOf inner octets) := by
  unfold payloadOf
  split
  · refine .bind fun content => ?_
    rintro _ ⟨⟩
    exact ⟨_, rfl⟩
  · split
    · exact .bind fun _ => .record _
    · exact .error _
  · exact .bind fun _ => .error _

theorem givesRecord_blockOf (value tag : Datum) : GivesRecord (blockOf value tag) := by
  unfold blockOf
  split
  · exact .error _
  · refine .bind fun _ => .bind fun t => ?_
    cases t with
    | block copy => exact .record _
    | _ => exact .error _

theorem givesRecord_identityOf (tag publicKeys secretKeys : Datum) :
    GivesRecord (identityOf tag publicKeys secretKeys) := by
  unfold identityOf
  refine .bind fun _ => .bind fun _ => .bind fun _ => .bind fun t => ?_
  cases t with
  | identity family => exact .bind fun _ => .bind fun _ => .bind fun _ => .bind fun _ => .record _
  | _ => exact .error _

theorem givesRecord_publicIdentityOf (tag publicKeys revocationKey signature : Datum) :
    GivesRecord (publicIdentityOf tag publicKeys revocationKey signature) := by
  unfold publicIdentityOf
  refine .bind fun _ => .bind fun _ => .bind fun t => ?_
  cases t with
  | publicIdentity family =>
      exact .bind fun _ => .bind fun _ => .bind fun _ => .bind fun _ => .record _
  | _ => exact .error _

theorem givesRecord_publicRevocationOf (tag publicKey signature : Datum) :
    GivesRecord (publicRevocationOf tag publicKey signature) := by
  unfold publicRevocationOf
  refine .bind fun _ => .bind fun t => ?_
  cases t with
  | publicRevocation family => exact .bind fun _ => .bind fun _ => .record _
  | _ => exact .error _

/-! ### Functions that take names and families unchecked -/

/-- The value is a record where everything is what it should be, and a draft otherwise. -/
structure RecordOrDraft (proper : Bool) (value : Datum) : Prop where
  record : proper = true → ∃ record, value.record? = some record
  draft : proper = false → value.isDraft = true

theorem isSome_mapM_name? (data : List Datum) : (data.mapM name?).isSome = data.all isName := by
  induction data with
  | nil => rfl
  | cons datum data ih =>
      rw [List.all_cons, ← ih, isName, List.mapM_cons]
      cases datum.name? <;> cases data.mapM name? <;> rfl

theorem recordOrDraft_ofTable (address owner : Datum) (rows : List (List Name)) :
    RecordOrDraft (address.isName && owner.isName) (ofTable address owner rows) := by
  unfold ofTable isName
  cases address.name? <;> cases owner.name? <;> constructor <;> simp [isDraft, record?]

theorem recordOrDraft_ofCoin (address : Datum) (owners previous : List Datum)
    (signatures : List Signature) :
    RecordOrDraft (address.isName && owners.all isName && previous.all isName)
      (ofCoin address owners previous signatures) := by
  rw [← isSome_mapM_name?, ← isSome_mapM_name?]
  unfold ofCoin isName
  cases address.name? <;> cases owners.mapM name? <;> cases previous.mapM name? <;>
    constructor <;> simp [isDraft, record?]

theorem recordOrDraft_ofKey (tags : Datum) (publicKey secretKey : Key) :
    RecordOrDraft tags.isFamily (ofKey tags publicKey secretKey) := by
  cases tags with
  | tagFamily family => exact ⟨fun _ => ⟨_, rfl⟩, nofun⟩
  | _ => exact ⟨nofun, fun _ => rfl⟩

end Datum

/-- What is built is a record, unless it was built from something that is no name or no family: then it
is a draft. -/
theorem Construction.recordOrDraft_run {construction : Construction} {value : Datum}
    (built : construction.run = .ok value) : value.RecordOrDraft construction.isProper := by
  -- six of the nine check every argument, and so they give no drafts
  have checked : Datum.GivesRecord construction.run → value.RecordOrDraft true :=
    fun gives => ⟨fun _ => gives value built, nofun⟩
  cases construction with
  | name id => exact checked (Datum.givesRecord_nameOf id)
  | payload inner octets => exact checked (Datum.givesRecord_payloadOf inner octets)
  | block content tag => exact checked (Datum.givesRecord_blockOf content tag)
  | table address owner rows =>
      simp only [run, Datum.tableOf, bind_eq_ok_iff] at built
      obtain ⟨rows, -, names, -, ⟨⟩⟩ := built
      exact Datum.recordOrDraft_ofTable address owner names
  | coin address owners previous signatures =>
      simp only [run, Datum.coinOf, bind_eq_ok_iff] at built
      obtain ⟨holders, held, formerHolders, formerlyHeld, signed, -, ⟨⟩⟩ := built
      simp only [isProper, Datum.areNames, held, formerlyHeld]
      exact Datum.recordOrDraft_ofCoin address holders formerHolders signed
  | revocationKey tags publicKey secretKey =>
      simp only [run, Datum.revocationKeyOf, bind_eq_ok_iff] at built
      obtain ⟨publicKey, -, secretKey, -, ⟨⟩⟩ := built
      exact Datum.recordOrDraft_ofKey tags publicKey secretKey
  | identity tag publicKeys secretKeys =>
      exact checked (Datum.givesRecord_identityOf tag publicKeys secretKeys)
  | publicIdentity tag publicKeys revocation signature =>
      exact checked (Datum.givesRecord_publicIdentityOf tag publicKeys revocation signature)
  | publicRevocation tag publicKey signature =>
      exact checked (Datum.givesRecord_publicRevocationOf tag publicKey signature)

namespace Datum

/-! ## Sending -/

/-- Is the value a record with a signature, which may not verify? -/
def isSigned : Datum → Bool
  | .record (.publicIdentity _) | .record (.publicRevocation _) => true
  | _ => false

/-- The result fails, if at all, because something is not written. -/
def FailsOnlyUnwritten {α : Type} (result : Except Fault α) : Prop :=
  ∀ fault, result = .error fault → ∃ reason, fault = .unwritten reason

/-- The value has what is needed to be sent, and is what its message is decoded to. -/
structure Sendable (scheme : Scheme) (value : Datum) : Prop where
  tag : FailsOnlyUnwritten value.tag
  fields : FailsOnlyUnwritten value.fields
  encode : FailsOnlyUnwritten value.encode
  decode : value.isSigned = false → ∀ message, value.encode = .ok message →
    ∀ config : Config, (message.length : Int) ≤ config.maxMessageBytes →
      ∃ decoded, Message.decode scheme config message = .ok decoded ∧
        value.same (.ofDecoded decoded) = true

namespace FailsOnlyUnwritten

variable {α β : Type}

theorem ok (a : α) : FailsOnlyUnwritten (.ok a) := by
  rintro _ ⟨⟩

theorem error (reason : WriteFault) :
    FailsOnlyUnwritten (Except.error (.unwritten reason) : Except Fault α) := by
  rintro _ ⟨⟩
  exact ⟨reason, rfl⟩

theorem bind {step : Except Fault α} {next : α → Except Fault β}
    (first : FailsOnlyUnwritten step) (each : ∀ a, FailsOnlyUnwritten (next a)) :
    FailsOnlyUnwritten (step >>= next) := by
  intro fault failed
  obtain failed | ⟨a, -, failed⟩ := bind_eq_error_iff.1 failed
  · exact first fault failed
  · exact each a fault failed

theorem orFault (reason : WriteFault) (found : Option α) :
    FailsOnlyUnwritten (Datum.orFault (.unwritten reason) found) := by
  cases found with
  | some a => exact .ok a
  | none => exact .error reason

theorem frame (tag fields : Datum) : FailsOnlyUnwritten (Datum.frame tag fields) := by
  unfold Datum.frame
  split
  · split
    · split
      · exact .ok _
      · exact .error _
    · exact .error _
  · exact .error _

end FailsOnlyUnwritten

section

variable {scheme : Scheme} {value : Datum} {record : Record}

/-! ### Values with fields -/

theorem exists_tag?_of_fields {fields : List Datum} (read : value.fields = .ok fields) :
    ∃ tag, value.tag? = some tag := by
  cases value with
  | record r => exact ⟨_, rfl⟩
  | tagPayload inner content => exact ⟨_, rfl⟩
  | draftTable address owner rows => exact ⟨_, rfl⟩
  | draftCoin address owners previous signatures => exact ⟨_, rfl⟩
  | _ => cases read

theorem encode_of_record? (recorded : value.record? = some record) :
    value.encode = orFault (.unwritten .unwritable) (Message.encode? record) := by
  simp only [encode, recorded]

theorem encode_of_tag? {tag : Tag} (draft : value.record? = Option.none)
    (tagged : value.tag? = some tag) :
    value.encode = value.fields >>= fun fields => frame (.registered tag) (.list fields) := by
  simp only [encode, draft, tagged]

/-- A value with fields has a tag too, and it has a message unless that is not written. -/
theorem failsOnlyUnwritten_of_fields {fields : List Datum} (read : value.fields = .ok fields) :
    FailsOnlyUnwritten value.tag ∧ FailsOnlyUnwritten value.fields ∧
      FailsOnlyUnwritten value.encode := by
  obtain ⟨tag, tagged⟩ := exists_tag?_of_fields read
  refine ⟨?_, read ▸ .ok fields, ?_⟩
  · rw [Datum.tag, tagged]
    exact .ok tag
  · cases found : value.record? with
    | some record =>
        rw [encode_of_record? found]
        exact .orFault .unwritable _
    | none =>
        rw [encode_of_tag? found tagged, read]
        exact (FailsOnlyUnwritten.ok fields).bind fun _ => .frame _ _

/-! ### Records -/

theorem exists_fields_of_record? (recorded : value.record? = some record) :
    ∃ fields, value.fields = .ok fields := by
  cases value with
  | record r => exact ⟨_, rfl⟩
  | tagPayload inner content => exact ⟨_, rfl⟩
  | _ => cases recorded

theorem verifies_of_not_signed (scheme : Scheme) (recorded : value.record? = some record)
    (unsigned : value.isSigned = false) : record.verifies scheme = true := by
  cases value with
  | record r =>
      cases recorded
      cases record with
      | publicIdentity issued => cases unsigned
      | publicRevocation issued => cases unsigned
      | _ => rfl
  | tagPayload inner content =>
      cases recorded
      rfl
  | _ => cases recorded

/-- Every record can be sent. -/
theorem sendable_of_record? (scheme : Scheme) (recorded : value.record? = some record) :
    value.Sendable scheme := by
  obtain ⟨fields, read⟩ := exists_fields_of_record? recorded
  obtain ⟨tag, fields, encode⟩ := failsOnlyUnwritten_of_fields read
  refine ⟨tag, fields, encode, fun unsigned message encoded config small => ?_⟩
  have verifies := verifies_of_not_signed scheme recorded unsigned
  have written := (encode_eq_ok_iff recorded).1 encoded
  exact ⟨.record record, Message.decode_encode? written small verifies,
    same_of_record? recorded rfl⟩

/-! ### Drafts -/

theorem identifier_eq_error {datum : Datum} {fault : Fault}
    (failed : datum.identifier = .error fault) : fault = .missing := by
  unfold identifier at failed
  split at failed
  · cases failed
  · cases failed
  · cases failed
    rfl

theorem mapM_identifier_eq_error {data : List Datum} {fault : Fault}
    (failed : data.mapM identifier = .error fault) : fault = .missing := by
  obtain ⟨-, datum, -, -, -, failed⟩ := mapM_eq_error_iff.1 failed
  exact identifier_eq_error failed

/-- Fields that a value does not have are missing. -/
theorem fields_eq_error {fault : Fault} (failed : value.fields = .error fault) :
    fault = .missing := by
  cases value with
  | record r => cases failed
  | tagPayload inner content => cases failed
  | draftTable address owner rows =>
      simp only [fields, bind_eq_error_iff] at failed
      obtain failed | ⟨-, -, failed | ⟨-, -, ⟨⟩⟩⟩ := failed
      · exact identifier_eq_error failed
      · exact identifier_eq_error failed
  | draftCoin address owners previous signatures =>
      simp only [fields, bind_eq_error_iff] at failed
      obtain failed | ⟨-, -, failed | ⟨-, -, failed | ⟨-, -, ⟨⟩⟩⟩⟩ := failed
      · exact identifier_eq_error failed
      · exact mapM_identifier_eq_error failed
      · exact mapM_identifier_eq_error failed
  | _ =>
      cases failed
      rfl

theorem exists_fields_or_missing (value : Datum) :
    (∃ fields, value.fields = .ok fields) ∨ value.fields = .error .missing := by
  cases read : value.fields with
  | ok fields => exact .inl ⟨fields, rfl⟩
  | error fault =>
      obtain rfl := fields_eq_error read
      exact .inr rfl

theorem record?_of_isDraft (draft : value.isDraft = true) : value.record? = Option.none := by
  cases value with
  | draftTable address owner rows => rfl
  | draftCoin address owners previous signatures => rfl
  | draftKey tags publicKey secretKey => rfl
  | _ => cases draft

theorem isSigned_of_isDraft (draft : value.isDraft = true) : value.isSigned = false := by
  cases value with
  | record r => cases draft
  | _ => rfl

/-- A draft without fields is not merely unwritten. -/
theorem encode_of_missing (draft : value.isDraft = true) (missing : value.fields = .error .missing) :
    value.encode = .error .missing := by
  cases value with
  | draftTable address owner rows =>
      rw [encode_of_tag? rfl rfl, missing]
      rfl
  | draftCoin address owners previous signatures =>
      rw [encode_of_tag? rfl rfl, missing]
      rfl
  | draftKey tags publicKey secretKey => rfl
  | _ => cases draft

/-- A draft can be sent only where it has fields but no message. -/
theorem sendable_draft_iff (scheme : Scheme) (draft : value.isDraft = true) :
    value.Sendable scheme ↔
      (∃ fields, value.fields = .ok fields) ∧ ∀ message, value.encode ≠ .ok message := by
  constructor
  · intro sendable
    constructor
    · obtain fielded | missing := exists_fields_or_missing value
      · exact fielded
      · obtain ⟨reason, ⟨⟩⟩ := sendable.fields .missing missing
    · intro message encoded
      -- some limit admits the message, and then it would have to be decoded to the draft
      let config : Config := { maxMessageBytes := message.length }
      obtain ⟨decoded, -, same⟩ := sendable.decode (isSigned_of_isDraft draft) message encoded
        config (Int.le_refl _)
      rw [same_ofDecoded_of_no_record decoded (record?_of_isDraft draft) encoded] at same
      cases same
  · rintro ⟨⟨fields, read⟩, unwritten⟩
    obtain ⟨tag, fields, encode⟩ := failsOnlyUnwritten_of_fields read
    exact ⟨tag, fields, encode, fun _ message encoded => absurd encoded (unwritten message)⟩

end

end Datum

/-! ## What is built can be sent -/

namespace Construction

/-- What is built from names and families where these belong is a record and can be sent.  Anything else
that is built has neither fields nor a message, or it has fields and is not what its message is
decoded to; it can be sent only if it has fields and no message. -/
theorem sendable_exactly (scheme : Scheme) (construction : Construction) {value : Datum}
    (built : construction.run = .ok value) :
    (value.Sendable scheme ↔
      construction.isProper = true ∨
        (∃ fields, value.fields = .ok fields) ∧ ∀ message, value.encode ≠ .ok message) ∧
    (construction.isProper = true → ∃ record, value.record? = some record) ∧
    (construction.isProper = false →
      (value.fields = .error .missing ∧ value.encode = .error .missing) ∨
        (∃ fields, value.fields = .ok fields) ∧ ∀ message, value.encode = .ok message →
          ∀ decoded, value.same (.ofDecoded decoded) = false) := by
  have shape := recordOrDraft_run built
  refine ⟨?_, shape.record, fun improper => ?_⟩
  · cases proper : construction.isProper with
    | true =>
        obtain ⟨record, recorded⟩ := shape.record proper
        simp [Datum.sendable_of_record? scheme recorded]
    | false => simp [Datum.sendable_draft_iff scheme (shape.draft proper)]
  · have draft := shape.draft improper
    obtain fielded | missing := Datum.exists_fields_or_missing value
    · refine .inr ⟨fielded, fun message encoded decoded => ?_⟩
      exact Datum.same_ofDecoded_of_no_record decoded (Datum.record?_of_isDraft draft) encoded
    · exact .inl ⟨missing, Datum.encode_of_missing draft missing⟩

/-- A name of zeros. -/
def exampleName : Datum := Datum.ofName ⟨.zero 64⟩

/-- A table of one name, owned by it and without rows, can be sent. -/
theorem sendable_exactly_table :
    ∃ value, (table exampleName exampleName (.tuple [])).run = .ok value ∧
      value.Sendable .lenient := by
  obtain ⟨sendable, -⟩ := sendable_exactly .lenient (table exampleName exampleName (.tuple [])) rfl
  exact ⟨_, rfl, sendable.2 (.inl rfl)⟩

/-- A number in the place of the name of a table is noticed only when the table is asked for its fields
or its message. -/
theorem unchecked_name_is_built :
    ∃ value, (table (.int 5) exampleName (.tuple [])).run = .ok value ∧
      value.fields = .error .missing ∧ value.encode = .error .missing ∧
      ¬ value.Sendable .lenient := by
  refine ⟨.draftTable (.int 5) exampleName [], rfl, rfl, rfl, fun sendable => ?_⟩
  obtain ⟨reason, ⟨⟩⟩ := sendable.fields .missing rfl

end Construction

end Overlay
