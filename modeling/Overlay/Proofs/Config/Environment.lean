/-
# Overlay.Proofs.Config.Environment -- the configurations of environments

Four variables describe a configuration, and each speaks for its own setting: with a text that
gives a value (`SizeText`, `FlagText`, `LevelText`), or by default where it is not set
(`Told`).  `Describes` says this of all four.

* An environment gives a configuration exactly if it describes it (`ofEnvironment_eq_ok_iff`).
* It describes one exactly if no text that it holds is invalid (`exists_describes_iff`);
  else it is refused.
* Written as variables, a configuration so read describes itself (`describes_rendered`).

The settings are read one after another and each changes one field, so the step lemma
`amended_eq_some_iff` is about one of them, and the run over all four is its use at each.
-/
import Overlay.Node.Setup
import Overlay.Proofs.Config.Size

namespace Overlay

set_option autoImplicit false

/-! ## White space and case -/

namespace Text

theorem isBlank_of_isDigit {c : Char} (h : c.isDigit = true) : isBlank c = false := by
  have each : ∀ d, d < 10 → isBlank (Nat.digitChar d) = false := by decide
  obtain ⟨d, digit, rfl⟩ := exists_digitChar h
  exact each d digit

/-- Stripping leaves nothing for the white space of Unicode to be taken from. -/
theorem trim_strip (text : String) :
    trim isSpace (strip text).toList = trim isBlank text.toList := by
  rw [strip, String.toList_ofList]
  exact trim_of_bare ((bare_trim isBlank text.toList).mono fun c => isBlank_of_isSpace)

end Text

namespace Log.Level

theorem title_injective {a b : Level} (same : a.title = b.title) : a = b := by
  have apart : ∀ a ∈ all, ∀ b ∈ all, a.title = b.title → a = b := by decide
  exact apart a a.mem_all b b.mem_all same

theorem isUpper_of_mem_title {level : Level} {c : Char} (member : c ∈ level.title.toList) :
    c.isUpper = true := by
  have each : ∀ level ∈ all, level.title.toList.all Char.isUpper = true := by decide
  exact List.all_eq_true.1 (each level level.mem_all) c member

@[simp] theorem strip_title (level : Level) : Text.strip level.title = level.title := by
  have each : ∀ level ∈ all, Text.strip level.title = level.title := by decide
  exact each level level.mem_all

@[simp] theorem upper_title (level : Level) : Text.upper level.title = level.title := by
  have each : ∀ level ∈ all, Text.upper level.title = level.title := by decide
  exact each level level.mem_all

end Log.Level

namespace Config

/-! ## What texts give -/

/-- The text gives the size, with white space at its ends. -/
def SizeText (text : String) (size : Int) : Prop :=
  ∃ n : Nat, size = n ∧ SizeForm n (Text.trim Text.isBlank text.toList)

/-- The words for a flag. -/
def flagWords (flag : Bool) : List String :=
  if flag then ["1", "true", "yes", "y", "on"] else ["0", "false", "no", "n", "off"]

/-- The text is a word for the flag, in any case and with white space at its ends. -/
def FlagText (text : String) (flag : Bool) : Prop :=
  Text.lower (Text.strip text) ∈ flagWords flag

/-- The text names the level, in any case and with white space at its ends. -/
def LevelText (text : String) (level : Log.Level) : Prop :=
  Text.upper (Text.strip text) = level.title

theorem variableFlag?_eq_some_iff {text : String} {flag : Bool} :
    variableFlag? text = some flag ↔ FlagText text flag := by
  have apart : ∀ word ∈ flagWords true, word ∉ flagWords false := by decide
  unfold variableFlag? FlagText
  dsimp only
  generalize Text.lower (Text.strip text) = word
  simp only [List.contains_iff_mem]
  split_ifs with affirms denies
  · cases flag with
    | true => exact ⟨fun _ => affirms, fun _ => rfl⟩
    | false => exact ⟨nofun, fun other => absurd other (apart word affirms)⟩
  · cases flag with
    | true => exact ⟨nofun, fun other => absurd denies (apart word other)⟩
    | false => exact ⟨fun _ => denies, fun _ => rfl⟩
  · cases flag with
    | true => exact ⟨nofun, fun held => absurd held affirms⟩
    | false => exact ⟨nofun, fun held => absurd held denies⟩

theorem ofText?_eq_some_iff {text : String} {level : Log.Level} :
    Log.Level.ofText? text = some level ↔ LevelText text level := by
  unfold Log.Level.ofText? LevelText
  generalize Text.upper (Text.strip text) = name
  dsimp only
  constructor
  · intro found
    have named := List.find?_some found
    exact (beq_iff_eq.1 named).symm
  · intro named
    have some : (Log.Level.all.find? fun other => other.title == name).isSome :=
      List.find?_isSome.2 ⟨level, level.mem_all, beq_iff_eq.2 named.symm⟩
    obtain ⟨other, found⟩ := Option.isSome_iff_exists.1 some
    have same := List.find?_some found
    rw [found, Log.Level.title_injective ((beq_iff_eq.1 same).trans named)]

theorem numeral?_strip_eq_some_iff {text : String} {size : Int} :
    (numeral? (Text.strip text)).map (fun n : Nat => (n : Int)) = some size ↔
      SizeText text size := by
  simp only [Option.map_eq_some_iff, numeral?_eq_some_iff, Text.trim_strip]
  exact ⟨fun ⟨n, form, same⟩ => ⟨n, same.symm, form⟩, fun ⟨n, same, form⟩ => ⟨n, form, same.symm⟩⟩

/-! ## What environments describe -/

/-- The text that the environment holds for a setting.  An empty one for the level is none. -/
def given (lookup : String → Option String) : Setting → Option String
  | .logLevel => (lookup Setting.logLevel.variableName).filter (· != "")
  | setting => lookup setting.variableName

/-- The text has a value for the setting. -/
def Valid : Setting → String → Prop
  | .maxMessageBytes, text => ∃ size, SizeText text size
  | .acceptTextTags, text | .logDecodeEvents, text => ∃ flag, FlagText text flag
  | .logLevel, text => ∃ level, LevelText text level

variable {α : Type} {reads : String → α → Prop} {default value : α}

/-- The value is what the text gives, or the default where there is no text. -/
def Told (reads : String → α → Prop) (default : α) : Option String → α → Prop
  | none, value => value = default
  | some text, value => reads text value

theorem exists_told_iff {text : Option String} :
    (∃ value, Told reads default text value) ↔
      ∀ held, text = some held → ∃ value, reads held value := by
  cases text with
  | none => exact ⟨fun _ => nofun, fun _ => ⟨default, rfl⟩⟩
  | some text => simp [Told]

/-- Each setting of the configuration is as the environment tells. -/
structure Describes (lookup : String → Option String) (config : Config) : Prop where
  size : Told SizeText 8388608 (given lookup .maxMessageBytes) config.maxMessageBytes
  accept : Told FlagText true (given lookup .acceptTextTags) config.acceptTextTags
  events : Told FlagText false (given lookup .logDecodeEvents) config.logDecodeEvents
  level : Told LevelText .info (given lookup .logLevel) config.logLevel

variable {lookup : String → Option String} {config config' : Config}

theorem exists_describes_iff :
    (∃ config, Describes lookup config) ↔
      ∀ setting text, given lookup setting = some text → Valid setting text := by
  constructor
  · rintro ⟨config, size, accept, events, level⟩ setting
    cases setting with
    | maxMessageBytes => exact exists_told_iff.1 ⟨_, size⟩
    | acceptTextTags => exact exists_told_iff.1 ⟨_, accept⟩
    | logDecodeEvents => exact exists_told_iff.1 ⟨_, events⟩
    | logLevel => exact exists_told_iff.1 ⟨_, level⟩
  · intro valid
    obtain ⟨size, toldSize⟩ := exists_told_iff.2 (valid .maxMessageBytes)
    obtain ⟨accept, toldAccept⟩ := exists_told_iff.2 (valid .acceptTextTags)
    obtain ⟨events, toldEvents⟩ := exists_told_iff.2 (valid .logDecodeEvents)
    obtain ⟨level, toldLevel⟩ := exists_told_iff.2 (valid .logLevel)
    exact ⟨⟨size, accept, events, level⟩, toldSize, toldAccept, toldEvents, toldLevel⟩

/-! ## Reading one setting -/

/-- The configuration with what the text gives put into it, if there is a text. -/
def amended (read : String → Option α) (put : α → Config) (config : Config) :
    Option String → Option Config
  | none => some config
  | some text => (read text).map put

theorem amended_eq_some_iff {read : String → Option α} {text : Option String} (put : α → Config)
    (exact : ∀ text value, read text = some value ↔ reads text value)
    (keeps : put default = config) :
    amended read put config text = some config' ↔
      ∃ value, Told reads default text value ∧ put value = config' := by
  cases text with
  | none => simp [amended, Told, keeps]
  | some text => simp [amended, Told, exact]

/-- A list of one setting changes that setting. -/
theorem foldlM_assign?_single (setting : Setting) (datum : Datum) (config : Config) :
    [(setting.title, datum)].foldlM assign? config = config.set? setting datum := by
  have known : Setting.ofTitle? setting.title = some setting := by cases setting <;> decide
  simp [assign?, known]

theorem flag?_bool (flag : Bool) : flag? (.bool flag) = some flag := by
  cases flag <;> rfl

theorem set?_maxMessageBytes_text (config : Config) (text : String) :
    config.set? .maxMessageBytes (.text text) =
      ((numeral? text).map fun n : Nat => (n : Int)).map fun size =>
        { config with maxMessageBytes := size } := by
  simp only [set?, size?, textFrom?]
  cases numeral? text <;> rfl

theorem set?_logLevel_text (config : Config) (text : String) :
    config.set? .logLevel (.text text) =
      (Log.Level.ofText? text).map fun level => { config with logLevel := level } := by
  simp only [set?, level?, textFrom?, Option.bind_some]

theorem foldlM_readSize (config : Config) :
    (readSize lookup).foldlM assign? config = some config' ↔
      ∃ size, Told SizeText config.maxMessageBytes (given lookup .maxMessageBytes) size ∧
        { config with maxMessageBytes := size } = config' := by
  rw [← amended_eq_some_iff (fun size => { config with maxMessageBytes := size })
    (fun _ _ => numeral?_strip_eq_some_iff) rfl]
  unfold readSize given amended
  dsimp only
  cases lookup Setting.maxMessageBytes.variableName with
  | none => rfl
  | some text =>
      dsimp only
      rw [foldlM_assign?_single, set?_maxMessageBytes_text]

theorem foldlM_readLevel (config : Config) :
    (readLevel lookup).foldlM assign? config = some config' ↔
      ∃ level, Told LevelText config.logLevel (given lookup .logLevel) level ∧
        { config with logLevel := level } = config' := by
  rw [← amended_eq_some_iff (fun level => { config with logLevel := level })
    (fun _ _ => ofText?_eq_some_iff) rfl]
  unfold readLevel given amended
  cases lookup Setting.logLevel.variableName with
  | none => rfl
  | some text =>
      dsimp only
      by_cases empty : text = ""
      · rw [if_pos empty, empty]
        rfl
      · rw [if_neg empty, foldlM_assign?_single, Option.filter_some, if_pos (bne_iff_ne.2 empty),
          set?_logLevel_text]

/-- A flag is read and put into a configuration if its text gives one, or if there is no text. -/
theorem exists_readFlag_iff {setting : Setting} {put : Bool → Config} {flag : Bool}
    (puts : ∀ flag, config.set? setting (.bool flag) = some (put flag))
    (keeps : put flag = config) :
    (∃ entries, readFlag lookup setting = .ok entries ∧
      entries.foldlM assign? config = some config') ↔
      ∃ value, Told FlagText flag (lookup setting.variableName) value ∧ put value = config' := by
  rw [← amended_eq_some_iff put (fun _ _ => variableFlag?_eq_some_iff) keeps]
  unfold readFlag amended
  cases lookup setting.variableName with
  | none => simp
  | some text =>
      dsimp only
      cases variableFlag? text with
      | none => simp
      | some flag =>
          rw [Option.map_some, ← puts, ← foldlM_assign?_single]
          exact ⟨fun ⟨_, .refl _, folded⟩ => folded, fun folded => ⟨_, rfl, folded⟩⟩

theorem exists_readAccept_iff (config : Config) :
    (∃ entries, readFlag lookup .acceptTextTags = .ok entries ∧
      entries.foldlM assign? config = some config') ↔
      ∃ flag, Told FlagText config.acceptTextTags (given lookup .acceptTextTags) flag ∧
        { config with acceptTextTags := flag } = config' :=
  exists_readFlag_iff (fun flag => by rw [set?, flag?_bool]; rfl) rfl

theorem exists_readEvents_iff (config : Config) :
    (∃ entries, readFlag lookup .logDecodeEvents = .ok entries ∧
      entries.foldlM assign? config = some config') ↔
      ∃ flag, Told FlagText config.logDecodeEvents (given lookup .logDecodeEvents) flag ∧
        { config with logDecodeEvents := flag } = config' :=
  exists_readFlag_iff (fun flag => by rw [set?, flag?_bool]; rfl) rfl

/-! ## Reading all settings -/

theorem ofSettings_eq_ok_iff {entries : List (String × Datum)} :
    ofSettings entries = .ok config ↔ entries.foldlM assign? {} = some config := by
  unfold ofSettings
  cases entries.foldlM assign? {} with
  | none => exact ⟨nofun, nofun⟩
  | some read => simp

/-- A configuration is read from the flags, whose texts come first, and then from all four lists in
turn. -/
theorem ofEnvironment_eq_ok_iff_exists :
    ofEnvironment lookup = .ok config ↔
      ∃ accept, readFlag lookup .acceptTextTags = .ok accept ∧
      ∃ events, readFlag lookup .logDecodeEvents = .ok events ∧
        (readSize lookup ++ accept ++ events ++ readLevel lookup).foldlM assign? {} =
          some config := by
  unfold ofEnvironment
  cases readFlag lookup .acceptTextTags with
  | error fault => exact ⟨nofun, fun ⟨_, read, _⟩ => nomatch read⟩
  | ok accept =>
      cases readFlag lookup .logDecodeEvents with
      | error fault => exact ⟨nofun, fun ⟨_, _, _, read, _⟩ => nomatch read⟩
      | ok events =>
          simp only [Except.ok.injEq, exists_eq_left', ← ofSettings_eq_ok_iff, bind, Except.bind]
          cases ofSettings (readSize lookup ++ accept ++ events ++ readLevel lookup) with
          | error names => exact ⟨nofun, nofun⟩
          | ok read => simp [pure, Except.pure]

theorem ofEnvironment_eq_ok_iff : ofEnvironment lookup = .ok config ↔ Describes lookup config := by
  rw [ofEnvironment_eq_ok_iff_exists]
  simp only [List.foldlM_append, Option.bind_eq_bind, Option.bind_eq_some_iff]
  constructor
  · rintro ⟨accept, readAccept, events, readEvents, logging, ⟨accepting, ⟨sized, size, foldAccept⟩,
      foldEvents⟩, level⟩
    obtain ⟨_, toldSize, rfl⟩ := (foldlM_readSize _).1 size
    obtain ⟨_, toldAccept, rfl⟩ := (exists_readAccept_iff _).1 ⟨accept, readAccept, foldAccept⟩
    obtain ⟨_, toldEvents, rfl⟩ := (exists_readEvents_iff _).1 ⟨events, readEvents, foldEvents⟩
    obtain ⟨_, toldLevel, rfl⟩ := (foldlM_readLevel _).1 level
    exact ⟨toldSize, toldAccept, toldEvents, toldLevel⟩
  · obtain ⟨size, accept, events, level⟩ := config
    rintro ⟨toldSize, toldAccept, toldEvents, toldLevel⟩
    have sized := (foldlM_readSize {}).2 ⟨size, toldSize, rfl⟩
    obtain ⟨_, readAccept, accepting⟩ :=
      (exists_readAccept_iff ⟨size, true, false, .info⟩).2 ⟨accept, toldAccept, rfl⟩
    obtain ⟨_, readEvents, logging⟩ :=
      (exists_readEvents_iff ⟨size, accept, false, .info⟩).2 ⟨events, toldEvents, rfl⟩
    have leveled := (foldlM_readLevel ⟨size, accept, events, .info⟩).2 ⟨level, toldLevel, rfl⟩
    exact ⟨_, readAccept, _, readEvents, _, ⟨_, ⟨_, sized, accepting⟩, logging⟩, leveled⟩

/-- An environment is refused exactly if it holds a text without a value for its setting. -/
theorem exists_ofEnvironment_error_iff :
    (∃ fault, ofEnvironment lookup = .error fault) ↔
      ∃ setting text, given lookup setting = some text ∧ ¬ Valid setting text := by
  have refused : (∃ fault, ofEnvironment lookup = .error fault) ↔
      ¬ ∃ config, Describes lookup config := by
    simp only [← ofEnvironment_eq_ok_iff]
    cases ofEnvironment lookup <;> simp
  rw [refused, exists_describes_iff]
  simp only [not_forall, exists_prop]

/-- Only the four variables matter. -/
theorem ofEnvironment_congr {other : String → Option String}
    (same : ∀ setting : Setting, other setting.variableName = lookup setting.variableName) :
    ofEnvironment other = ofEnvironment lookup := by
  simp only [ofEnvironment, readSize, readFlag, readLevel, same]

/-! ## Writing a configuration as variables -/

/-- The configuration as variables: the size in decimal, the flags as words, the level by name. -/
def rendered (config : Config) : Environment :=
  ⟨[(Setting.maxMessageBytes.variableName, toString config.maxMessageBytes),
    (Setting.acceptTextTags.variableName, toString config.acceptTextTags),
    (Setting.logDecodeEvents.variableName, toString config.logDecodeEvents),
    (Setting.logLevel.variableName, config.logLevel.title)]⟩

/-- What is told as a size is positive and not too long to be written. -/
theorem Told.bounds {text : Option String} {size : Int} (told : Told SizeText 8388608 text size) :
    ∃ n : Nat, size = n ∧ 0 < n ∧ (Nat.toDigits 10 n).length ≤ 4300 := by
  cases text with
  | none => exact ⟨8388608, told, by decide, by decide⟩
  | some text =>
      obtain ⟨n, same, form⟩ := told
      exact ⟨n, same, form.bounds⟩

theorem sizeText_toString {n : Nat} (positive : 0 < n)
    (short : (Nat.toDigits 10 n).length ≤ 4300) : SizeText (toString (n : Int)) n := by
  have written : (toString (n : Int)).toList = Nat.toDigits 10 n := by
    change (toString n).toList = _
    rw [Nat.toString_eq_ofList_toDigits, String.toList_ofList]
  have bare : Text.Bare Text.isBlank (Nat.toDigits 10 n) := .of_forall fun c member =>
    Text.isBlank_of_isDigit (Nat.isDigit_of_mem_toDigits (by decide) (by decide) member)
  refine ⟨n, rfl, ?_⟩
  rw [written, Text.trim_of_bare bare]
  exact sizeForm_toDigits positive short

theorem flagText_toString (flag : Bool) : FlagText (toString flag) flag :=
  variableFlag?_eq_some_iff.1 (by cases flag <;> decide)

theorem levelText_title (level : Log.Level) : LevelText level.title level := by
  rw [LevelText, Log.Level.strip_title, Log.Level.upper_title]

theorem describes_rendered (describes : Describes lookup config) :
    Describes config.rendered.get? config := by
  obtain ⟨n, same, positive, short⟩ := describes.size.bounds
  have held : given config.rendered.get? .logLevel = some config.logLevel.title := by
    have named : config.logLevel.title ≠ "" := by cases config.logLevel <;> decide
    change (some config.logLevel.title).filter (· != "") = _
    rw [Option.filter_some, if_pos (bne_iff_ne.2 named)]
  refine ⟨?_, flagText_toString _, flagText_toString _, ?_⟩
  · change SizeText (toString config.maxMessageBytes) config.maxMessageBytes
    rw [same]
    exact sizeText_toString positive short
  · rw [held]
    exact levelText_title _

/-! ## Loading -/

theorem configFault_eq_ok_iff {result : Except ConfigFault Config} :
    Node.configFault result = .ok config ↔ result = .ok config := by
  cases result <;> simp [Node.configFault]

theorem configFault_eq_error_iff {result : Except ConfigFault Config} {fault : ConfigFault} :
    Node.configFault result = .error (.config fault) ↔ result = .error fault := by
  cases result <;> simp [Node.configFault]

/-- Loading from an environment gives a configuration or a fault of its kind, and a fault exactly if a
text that is held has no value for its setting; only the four variables matter.  What is loaded is as
the environment describes it: its size is positive, its level is one of eight names, in capitals and
without white space, and the same is loaded from the variables that it is written as. -/
theorem ofEnvironment_exactly (lookup : String → Option String) :
    ((∃ config, Node.configFault (ofEnvironment lookup) = .ok config) ∨
      ∃ fault, Node.configFault (ofEnvironment lookup) = .error (.config fault)) ∧
    ((∃ fault, Node.configFault (ofEnvironment lookup) = .error (.config fault)) ↔
      ∃ setting text, given lookup setting = some text ∧ ¬ Valid setting text) ∧
    (∀ other : String → Option String,
      (∀ setting : Setting, other setting.variableName = lookup setting.variableName) →
        Node.configFault (ofEnvironment other) = Node.configFault (ofEnvironment lookup)) ∧
    ∀ config, Node.configFault (ofEnvironment lookup) = .ok config →
      Describes lookup config ∧ 0 < config.maxMessageBytes ∧
      (config.logLevel.title ∈
        ["CRITICAL", "FATAL", "ERROR", "WARN", "WARNING", "INFO", "DEBUG", "NOTSET"] ∧
        (∀ c ∈ config.logLevel.title.toList, c.isUpper = true) ∧
        Text.strip config.logLevel.title = config.logLevel.title) ∧
      Node.configFault (ofEnvironment config.rendered.get?) = .ok config := by
  refine ⟨?_, ?_, fun other same => by rw [ofEnvironment_congr same], fun config loaded => ?_⟩
  · cases ofEnvironment lookup with
    | ok config => exact .inl ⟨config, rfl⟩
    | error fault => exact .inr ⟨fault, rfl⟩
  · rw [← exists_ofEnvironment_error_iff]
    simp only [configFault_eq_error_iff]
  · have describes := ofEnvironment_eq_ok_iff.1 (configFault_eq_ok_iff.1 loaded)
    obtain ⟨n, same, positive, -⟩ := describes.size.bounds
    refine ⟨describes, by omega, ⟨?_, ?_, ?_⟩, ?_⟩
    · exact List.mem_map_of_mem config.logLevel.mem_all
    · exact fun c => Log.Level.isUpper_of_mem_title
    · exact Log.Level.strip_title _
    · exact configFault_eq_ok_iff.2 (ofEnvironment_eq_ok_iff.2 (describes_rendered describes))

/-- A size with a plus sign, zeros, an underscore and a fraction, a flag and a level in another case
and with white space around them: the configuration is loaded, also from what it is written as, and
where another variable is set.  A flag that is no word is refused. -/
theorem ofEnvironment_exactly_small :
    Node.configFault (ofEnvironment (Environment.get?
      ⟨[("SAFEWIRE_MAX_MESSAGE_BYTES", " +001_024.0"), ("SAFEWIRE_ACCEPT_STRING_TAGS", "Off\n"),
        ("SAFEWIRE_LOG_LEVEL", " warning ")]⟩)) = .ok ⟨1024, false, false, .warning⟩ ∧
    Node.configFault (ofEnvironment (rendered ⟨1024, false, false, .warning⟩).get?) =
      .ok ⟨1024, false, false, .warning⟩ ∧
    Node.configFault (ofEnvironment (Environment.get?
      ⟨[("HOME", "/"), ("SAFEWIRE_MAX_MESSAGE_BYTES", " +001_024.0"),
        ("SAFEWIRE_ACCEPT_STRING_TAGS", "Off\n"), ("SAFEWIRE_LOG_LEVEL", " warning ")]⟩)) =
      .ok ⟨1024, false, false, .warning⟩ ∧
    ∃ fault, Node.configFault (ofEnvironment (Environment.get?
      ⟨[("SAFEWIRE_ACCEPT_STRING_TAGS", "maybe")]⟩)) = .error (.config fault) := by
  obtain ⟨-, -, alike, sound⟩ := ofEnvironment_exactly (Environment.get?
    ⟨[("SAFEWIRE_MAX_MESSAGE_BYTES", " +001_024.0"), ("SAFEWIRE_ACCEPT_STRING_TAGS", "Off\n"),
      ("SAFEWIRE_LOG_LEVEL", " warning ")]⟩)
  obtain ⟨-, refused, -, -⟩ := ofEnvironment_exactly (Environment.get?
    ⟨[("SAFEWIRE_ACCEPT_STRING_TAGS", "maybe")]⟩)
  have loaded : Node.configFault (ofEnvironment (Environment.get?
      ⟨[("SAFEWIRE_MAX_MESSAGE_BYTES", " +001_024.0"), ("SAFEWIRE_ACCEPT_STRING_TAGS", "Off\n"),
        ("SAFEWIRE_LOG_LEVEL", " warning ")]⟩)) = .ok ⟨1024, false, false, .warning⟩ := by decide
  have other : variableFlag? "maybe" = none := by decide
  obtain ⟨-, -, -, again⟩ := sound _ loaded
  refine ⟨loaded, again, (alike _ fun setting => by cases setting <;> rfl).trans loaded,
    refused.2 ⟨.acceptTextTags, "maybe", rfl, fun ⟨flag, word⟩ => ?_⟩⟩
  rw [variableFlag?_eq_some_iff.2 word] at other
  cases other

end Config

end Overlay
