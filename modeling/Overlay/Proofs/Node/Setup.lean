/-
# Overlay.Proofs.Node.Setup -- what setting up a node leaves of it

Taking variables from a file, reading the configuration, decoding without terms and setting
up the log are run from a node as they would be step by step (`runFrom_loadVariables`,
`runFrom_loadConfig`, `runFrom_config_of_some`, `runFrom_config_of_none`, `decode_none`,
`runFrom_configureLog`).

Each leaves the node as it was or with more (`Grown`): a variable that is set stays as it is,
and so does the mark that some were taken from a file, and a configuration that is kept.
Only the configuration of the node itself adds one to be kept, and only where it could be
read (`Filled`, `defaultConfig_of_config`, `defaultConfig_of_config_error`).
-/
import Overlay.Proofs.Node.Decoding

namespace Overlay.Node

set_option autoImplicit false

/-! ## Taking variables -/

/-- What the node has is still there: variables with their text, the mark that some were taken from a
file, the configuration and the logger. -/
structure Grown (node next : Node) : Prop where
  present {name text : String} :
    node.environment.get? name = some text → next.environment.get? name = some text
  loadedFrom : node.loadedFrom.isSome = true → next.loadedFrom.isSome = true
  defaultConfig {config : Config} :
    node.defaultConfig = some config → next.defaultConfig = some config
  logger : next.logger = node.logger

theorem Grown.refl (node : Node) : Grown node node := ⟨id, id, id, rfl⟩

theorem Grown.trans {first second third : Node} (early : Grown first second)
    (late : Grown second third) : Grown first third :=
  ⟨fun known => late.present (early.present known), fun known => late.loadedFrom (early.loadedFrom known),
    fun known => late.defaultConfig (early.defaultConfig known), late.logger.trans early.logger⟩

/-- The node has grown, and keeps the configuration that it had, or none. -/
structure Filled (node next : Node) : Prop extends Grown node next where
  cached : next.defaultConfig = node.defaultConfig

theorem Filled.refl (node : Node) : Filled node node := ⟨.refl node, rfl⟩

theorem runFrom_fillVariables (entries : List (String × String)) (node : Node) :
    (fillVariables entries).runFrom node =
      let absent := entries.filter fun entry => (node.environment.get? entry.1).isNone
      let sound := absent.takeWhile fun entry => (settingFault? entry.1 entry.2).isNone
      (match absent.findSome? fun entry => settingFault? entry.1 entry.2 with
        | some fault => .error fault
        | none => .ok (),
        { node with environment := node.environment.fill sound }) := by
  unfold fillVariables
  rw [Action.runFrom_bind, Action.runFrom_get]
  dsimp only
  rw [Action.runFrom_bind, Action.runFrom_modify]
  dsimp only
  cases (entries.filter fun entry => (node.environment.get? entry.1).isNone).findSome? fun entry =>
      settingFault? entry.1 entry.2 with
  | none => rfl
  | some fault => rfl

theorem filled_fillVariables (entries : List (String × String)) (node : Node) :
    Filled node ((fillVariables entries).runFrom node).2 := by
  rw [runFrom_fillVariables]
  exact ⟨⟨Environment.get?_fill_of_some _, id, id, rfl⟩, rfl⟩

/-- The variables that a text assigns are set, unless files may not set any. -/
def taken (node : Node) (text : String) : Except Fault Unit × Node :=
  if node.ignoresFiles then (.ok (), node)
  else (fillVariables (Environment.File.assignments node.environment text)).runFrom node

theorem filled_taken (node : Node) (text : String) : Filled node (node.taken text).2 := by
  unfold taken
  split
  · exact .refl node
  · exact filled_fillVariables _ node

theorem runFrom_loadVariables (path : Datum) (force : Bool) (node : Node) :
    (loadVariables path force).runFrom node =
      if node.loadedFrom.isSome && !force then (.ok false, node)
      else
        match node.pathFor path with
        | .error fault => (.error fault, node)
        | .ok path =>
          match node.fileAt? path with
          | .error fault => (.error fault, node)
          | .ok none => (.ok false, node)
          | .ok (some text) =>
            match node.taken text with
            | (.error fault, next) => (.error fault, next)
            | (.ok _, next) => (.ok true, { next with loadedFrom := some path }) := by
  unfold loadVariables
  rw [Action.runFrom_bind, Action.runFrom_get]
  dsimp only
  split
  · rfl
  · rw [Action.runFrom_bind, Action.runFrom_lift]
    cases node.pathFor path with
    | error fault => rfl
    | ok path =>
        dsimp only
        rw [Action.runFrom_bind, Action.runFrom_lift]
        cases node.fileAt? path with
        | error fault => rfl
        | ok found =>
            cases found with
            | none => rfl
            | some text =>
                dsimp only
                unfold taken
                cases node.ignoresFiles with
                | true => rfl
                | false =>
                    simp only [Bool.not_false, if_true, Bool.false_eq_true, if_false]
                    rw [Action.runFrom_bind]
                    obtain ⟨result, next⟩ :=
                      (fillVariables (Environment.File.assignments node.environment text)).runFrom
                        node
                    cases result with
                    | error fault => rfl
                    | ok done => rfl

/-- Taking variables from a file adds to the node, and leaves a mark where it was done. -/
theorem filled_loadVariables (path : Datum) (force : Bool) (node : Node) :
    Filled node ((loadVariables path force).runFrom node).2 := by
  rw [runFrom_loadVariables]
  split
  · exact .refl node
  · split
    · exact .refl node
    · split
      · exact .refl node
      · exact .refl node
      · next text _ =>
        have filled := filled_taken node text
        split
        · next found => rwa [found] at filled
        · next found =>
          rw [found] at filled
          exact ⟨⟨filled.present, fun _ => rfl, filled.defaultConfig, filled.logger⟩, filled.cached⟩

theorem isSome_of_loadVariables {path : Datum} {force : Bool} {node next : Node}
    (h : (loadVariables path force).runFrom node = (.ok true, next)) :
    next.loadedFrom.isSome = true := by
  rw [runFrom_loadVariables] at h
  split at h
  · cases h
  · split at h
    · cases h
    · split at h
      · cases h
      · cases h
      · split at h
        · cases h
        · cases h
          rfl

/-- Where variables have been taken from a file, none are taken unless that is forced. -/
theorem runFrom_loadVariables_of_loaded {node : Node} (loaded : node.loadedFrom.isSome = true)
    (path : Datum) : (loadVariables path false).runFrom node = (.ok false, node) := by
  rw [runFrom_loadVariables, loaded]
  rfl

/-! ## The configuration -/

theorem runFrom_loadConfig (node : Node) :
    loadConfig.runFrom node =
      match (loadVariables .none false).runFrom node with
      | (.error fault, next) => (.error fault, next)
      | (.ok _, next) => (configFault (Config.ofEnvironment next.environment.get?), next) := by
  unfold loadConfig
  rw [Action.runFrom_bind]
  obtain ⟨result, next⟩ := (loadVariables .none false).runFrom node
  cases result with
  | error fault => rfl
  | ok done => rfl

theorem filled_loadConfig (node : Node) : Filled node (loadConfig.runFrom node).2 := by
  have filled := filled_loadVariables .none false node
  rw [runFrom_loadConfig]
  split
  · next found => rwa [found] at filled
  · next found => rwa [found] at filled

theorem runFrom_config_of_some {node : Node} {cfg : Config} (kept : node.defaultConfig = some cfg) :
    config.runFrom node = (.ok cfg, node) := by
  unfold config
  rw [Action.runFrom_bind, Action.runFrom_get]
  dsimp only
  rw [kept]
  rfl

theorem runFrom_config_of_none {node : Node} (none : node.defaultConfig = none) :
    config.runFrom node =
      match loadConfig.runFrom node with
      | (.error fault, next) => (.error fault, next)
      | (.ok cfg, next) => (.ok cfg, { next with defaultConfig := some cfg }) := by
  unfold config
  rw [Action.runFrom_bind, Action.runFrom_get]
  dsimp only
  rw [none]
  dsimp only
  rw [Action.runFrom_bind]
  obtain ⟨result, next⟩ := loadConfig.runFrom node
  cases result with
  | error fault => rfl
  | ok cfg => rfl

theorem grown_config (node : Node) : Grown node (config.runFrom node).2 := by
  cases kept : node.defaultConfig with
  | some cfg =>
      rw [runFrom_config_of_some kept]
      exact .refl node
  | none =>
      have filled := filled_loadConfig node
      rw [runFrom_config_of_none kept]
      split
      · next found =>
        rw [found] at filled
        exact filled.toGrown
      · next found =>
        rw [found] at filled
        refine ⟨filled.present, filled.loadedFrom, ?_, filled.logger⟩
        rw [kept]
        rintro _ ⟨⟩

/-- The configuration that is told is the one that is kept. -/
theorem defaultConfig_of_config {node next : Node} {cfg : Config}
    (h : config.runFrom node = (.ok cfg, next)) : next.defaultConfig = some cfg := by
  cases kept : node.defaultConfig with
  | some other =>
      rw [runFrom_config_of_some kept] at h
      cases h
      exact kept
  | none =>
      rw [runFrom_config_of_none kept] at h
      split at h
      · cases h
      · cases h
        rfl

/-- Where no configuration can be told, none is kept. -/
theorem defaultConfig_of_config_error {node next : Node} {fault : Fault}
    (h : config.runFrom node = (.error fault, next)) :
    node.defaultConfig = none ∧ next.defaultConfig = none := by
  cases kept : node.defaultConfig with
  | some other =>
      rw [runFrom_config_of_some kept] at h
      cases h
  | none =>
      have filled := filled_loadConfig node
      rw [runFrom_config_of_none kept] at h
      split at h
      · next found =>
        cases h
        rw [found] at filled
        exact ⟨rfl, filled.cached.trans kept⟩
      · cases h

/-- Where none is kept and none can be told, the next to ask for one has it read anew. -/
theorem runFrom_config_fst_of_none {node : Node} (none : node.defaultConfig = none) :
    (config.runFrom node).1 = (loadConfig.runFrom node).1 := by
  rw [runFrom_config_of_none none]
  split <;> next found => rw [found]

/-! ## Decoding -/

section

variable {scheme : Scheme} {message : Datum} {node : Node}

/-- Without terms a message is decoded under the configuration that the node tells. -/
theorem decode_none (scheme : Scheme) (message : Datum) :
    decode scheme none message =
      config >>= fun cfg => decode scheme (some (.ofConfig cfg)) message := by
  unfold decode decodeLogged termsOr
  simp only [bind_assoc, pure_bind]

theorem runFrom_decode_none_of_some {cfg : Config} (kept : node.defaultConfig = some cfg) :
    (decode scheme none message).runFrom node =
      (decode scheme (some (.ofConfig cfg)) message).runFrom node := by
  rw [decode_none, Action.runFrom_bind, runFrom_config_of_some kept]

theorem grown_withEvents (events : List Log.Event) (node : Node) :
    Grown node (events.foldl withEvent node) := by
  induction events generalizing node with
  | nil => exact .refl node
  | cons event events ih =>
      have first : Grown node (node.withEvent event) := by
        unfold withEvent
        split
        · exact ⟨id, id, id, rfl⟩
        · exact .refl node
      exact first.trans (ih _)

theorem grown_decode (scheme : Scheme) (message : Datum) (node : Node) :
    Grown node ((decode scheme none message).runFrom node).2 := by
  have grown := grown_config node
  rw [decode_none, Action.runFrom_bind]
  split
  · next found =>
    rw [found] at grown
    rw [runFrom_decode_value]
    exact grown.trans (grown_withEvents _ _)
  · next found => rwa [found] at grown

/-- Decoding fails for the configuration only where none can be told. -/
theorem config_of_decode {fault : ConfigFault}
    (h : ((decode scheme none message).runFrom node).1 = .error (.config fault)) :
    ∃ next, config.runFrom node = (.error (.config fault), next) ∧
      ((decode scheme none message).runFrom node).2 = next := by
  rw [decode_none, Action.runFrom_bind] at h ⊢
  cases told : config.runFrom node with
  | mk result next =>
      rw [told] at h
      cases result with
      | ok cfg =>
          dsimp only at h
          rw [runFrom_decode_value] at h
          generalize verdict scheme cfg message = outcome at h
          cases outcome with
          | ok decoded => cases h
          | error failure => cases failure <;> cases h
      | error other =>
          cases h
          exact ⟨next, rfl, rfl⟩

end

/-! ## The logger -/

/-- The names that levels have, and their numbers. -/
def levelNumbers : List (String × Nat) :=
  [("CRITICAL", 50), ("FATAL", 50), ("ERROR", 40), ("WARN", 30), ("WARNING", 30), ("INFO", 20),
    ("DEBUG", 10), ("NOTSET", 0)]

/-- The level that a value asks for where a node is told to set up the log.  A name is read in any
case and with white space at its ends. -/
inductive Asks (node : Node) : Datum → Nat → Prop where
  | named {text : String} {number : Nat}
      (row : (Text.upper (Text.strip text), number) ∈ levelNumbers) : Asks node (.text text) number
  | unnamed {text : String}
      (none : ∀ number, (Text.upper (Text.strip text), number) ∉ levelNumbers) :
      Asks node (.text text) 20
  /-- Octets name no level. -/
  | octets (octets : Octets) : Asks node (.octets .fixed octets) 20
  /-- Nothing asks for the level of the configuration that the node tells. -/
  | told {cfg : Config} {next : Node} {number : Nat}
      (told : config.runFrom node = (.ok cfg, next))
      (row : (cfg.logLevel.title, number) ∈ levelNumbers) : Asks node .none number

/-- A name has one number. -/
theorem levelNumbers_unique {name : String} {number other : Nat}
    (first : (name, number) ∈ levelNumbers) (second : (name, other) ∈ levelNumbers) :
    number = other := by
  have apart : levelNumbers.all (fun a => levelNumbers.all fun b => a.1 != b.1 || a.2 == b.2) =
      true := by decide
  simpa using List.all_eq_true.1 (List.all_eq_true.1 apart _ first) _ second

/-- A value asks for one level at most. -/
theorem Asks.unique {node : Node} {level : Datum} {number other : Nat}
    (first : Asks node level number) (second : Asks node level other) : number = other := by
  cases first with
  | named row =>
      cases second with
      | named row' => exact levelNumbers_unique row row'
      | unnamed none => exact absurd row (none _)
  | unnamed none =>
      cases second with
      | named row => exact absurd row (none _)
      | unnamed => rfl
  | octets => cases second with | octets => rfl
  | told told row =>
      cases second with
      | told told' row' =>
          rw [told] at told'
          cases told'
          exact levelNumbers_unique row row'

theorem levelNumbers_eq_map :
    levelNumbers = Log.Level.all.map fun level => (level.title, level.number) := rfl

theorem mem_levelNumbers (level : Log.Level) : (level.title, level.number) ∈ levelNumbers := by
  rw [levelNumbers_eq_map]
  exact List.mem_map_of_mem level.mem_all

theorem asks_levelNumber (node : Node) (text : String) :
    Asks node (.text text) (levelNumber text) := by
  unfold levelNumber
  cases found : Log.Level.ofText? text with
  | some level =>
      have name : level.title = Text.upper (Text.strip text) := by
        simpa using List.find?_some found
      refine .named ?_
      rw [← name]
      exact mem_levelNumbers level
  | none =>
      refine .unnamed fun number row => ?_
      rw [levelNumbers_eq_map, List.mem_map] at row
      obtain ⟨level, member, same⟩ := row
      have other : level.title ≠ Text.upper (Text.strip text) := by
        simpa using List.find?_eq_none.1 found level member
      exact other (Prod.mk.inj same).1

theorem runFrom_levelFor_none (node : Node) :
    (levelFor .none).runFrom node =
      match config.runFrom node with
      | (.error fault, next) => (.error fault, next)
      | (.ok cfg, next) => (.ok cfg.logLevel.number, next) := by
  unfold levelFor
  rw [Action.runFrom_bind]
  obtain ⟨result, next⟩ := config.runFrom node
  cases result with
  | error fault => rfl
  | ok cfg => rfl

/-- A level is what the value asks for; where there is none, the node keeps no configuration that it
did not keep before. -/
theorem levelFor_cases (level : Datum) (node : Node) :
    Grown node ((levelFor level).runFrom node).2 ∧
      match (levelFor level).runFrom node with
      | (.ok number, _) => Asks node level number
      | (.error _, next) => next.defaultConfig = node.defaultConfig := by
  cases level with
  | none =>
      have grown := grown_config node
      rw [runFrom_levelFor_none]
      cases told : config.runFrom node with
      | mk result next =>
          rw [told] at grown
          cases result with
          | ok cfg => exact ⟨grown, .told told (mem_levelNumbers cfg.logLevel)⟩
          | error fault =>
              obtain ⟨before, after⟩ := defaultConfig_of_config_error told
              exact ⟨grown, after.trans before.symm⟩
  | text text => exact ⟨.refl node, asks_levelNumber node text⟩
  | octets holding octets =>
      cases holding with
      | fixed => exact ⟨.refl node, .octets octets⟩
      | growing => exact ⟨.refl node, rfl⟩
      | view => exact ⟨.refl node, rfl⟩
  | _ => exact ⟨.refl node, rfl⟩

theorem runFrom_configureLog (level : Datum) (node : Node) :
    (configureLog level).runFrom node =
      match (levelFor level).runFrom node with
      | (.error fault, next) => (.error fault, next)
      | (.ok number, next) =>
        (.ok (next.logger.setUp number), { next with logger := next.logger.setUp number }) := by
  unfold configureLog
  rw [Action.runFrom_bind]
  obtain ⟨result, next⟩ := (levelFor level).runFrom node
  cases result with
  | error fault => rfl
  | ok number => rfl

end Overlay.Node
