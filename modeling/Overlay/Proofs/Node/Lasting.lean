/-
# Overlay.Proofs.Node.Lasting -- what lasts between calls

A node keeps three things of its own between calls: the file that it took variables from,
the configuration that it once read, and the state of its logger.  Calls come in any order,
fail in the midst of others, and the variables that they read change in between.

`Effect` says once what a call can do, and every call does one of its three
(`Call.effect`).  So of a node after calls, whatever they are (`Node.after`), it can be said
that

* variables are taken from a file once, unless that is forced;
* the first configuration that could be read is the one that is told and decoded under from
  then on, and one that could not be read is not kept;
* the logger has one handler at most, and the level that the last call to set it up asked
  for (`state_lasts`).
-/
import Mathlib
import Overlay.Proofs.Node.Setup

namespace Overlay

set_option autoImplicit false

/-! ## The logger -/

/-- The logger was never set up, or has one handler and keeps its lines to itself. -/
def Logger.Sound (logger : Logger) : Prop := logger = {} ∨ ∃ level, logger = ⟨level, 1, false, true⟩

theorem Logger.Sound.setUp {logger : Logger} (sound : logger.Sound) (level : Nat) :
    logger.setUp level = ⟨level, 1, false, true⟩ := by
  obtain rfl | ⟨other, rfl⟩ := sound <;> rfl

theorem Logger.Sound.handlers_le {logger : Logger} (sound : logger.Sound) :
    logger.handlers ≤ 1 := by
  obtain rfl | ⟨level, rfl⟩ := sound
  · exact Nat.zero_le 1
  · exact Nat.le_refl 1

/-! ## Calls -/

/-- Whether an action fails from a node, and the node that it leaves. -/
def Action.effectFrom {α : Type} (action : Action α) (node : Node) : Except Fault Unit × Node :=
  ((action.runFrom node).1.map fun _ => (), (action.runFrom node).2)

theorem Action.effectFrom_fst_eq_error_iff {α : Type} {action : Action α} {node : Node}
    {fault : Fault} :
    (action.effectFrom node).1 = .error fault ↔ (action.runFrom node).1 = .error fault := by
  unfold effectFrom
  cases (action.runFrom node).1 <;> simp [Except.map]

/-- A call that has to do with what a node keeps. -/
inductive Call where
  | setVariable (name text : Datum)
  | unsetVariable (name : Datum)
  | writeFile (path text : String)
  | loadVariables (path : Datum) (force : Bool)
  | loadConfig
  | config
  /-- A message is decoded without terms. -/
  | decode (message : Datum)
  | configureLog (level : Datum)

namespace Call

/-- Whether the call fails, and the node that it leaves. -/
def effectFrom (scheme : Scheme) (node : Node) : Call → Except Fault Unit × Node
  | .setVariable name text => (Node.setVariable name text).effectFrom node
  | .unsetVariable name => (Node.unsetVariable name).effectFrom node
  | .writeFile path text => (Node.writeFile path text).effectFrom node
  | .loadVariables path force => (Node.loadVariables path force).effectFrom node
  | .loadConfig => Node.loadConfig.effectFrom node
  | .config => Node.config.effectFrom node
  | .decode message => (Node.decode scheme none message).effectFrom node
  | .configureLog level => (Node.configureLog level).effectFrom node

/-- The call sets or unsets the variable. -/
def Names (key : String) : Call → Prop
  | .setVariable name _ | .unsetVariable name => name = .text key
  | _ => False

end Call

namespace Node

/-- The node after calls. -/
def after (scheme : Scheme) (node : Node) (calls : List Call) : Node :=
  calls.foldl (fun node call => (call.effectFrom scheme node).2) node

/-! ### One call -/

/-- What a call can do to a node: the node grows; or a variable that the call names changes, and no
other does; or the node grows and its logger is set up with the level that the call asks for.  A call
to set up the log does that or fails, and one that fails for the configuration keeps none. -/
inductive Effect (node : Node) : Call → Except Fault Unit × Node → Prop where
  | grows {call : Call} {result : Except Fault Unit} {next : Node} (grown : Grown node next)
      (fails : ∀ level, call = .configureLog level → ∃ fault, result = .error fault)
      (cached : ∀ fault, result = .error (.config fault) →
        next.defaultConfig = node.defaultConfig) :
      Effect node call (result, next)
  | changes {call : Call} {key : String} {result : Except Fault Unit} {environment : Environment}
      (named : call.Names key)
      (others : ∀ other, other ≠ key →
        environment.get? other = node.environment.get? other) :
      Effect node call (result, { node with environment })
  | setsUp {level : Datum} {number : Nat} {next : Node} (grown : Grown node next)
      (asks : Asks node level number) :
      Effect node (.configureLog level)
        (.ok (), { next with logger := next.logger.setUp number })

theorem Effect.of_filled {α : Type} {call : Call} {action : Action α} {node : Node}
    (filled : Filled node (action.runFrom node).2) (other : ∀ level, call ≠ .configureLog level) :
    Effect node call (action.effectFrom node) :=
  .grows filled.toGrown (fun level same => absurd same (other level)) fun _ _ => filled.cached

theorem effect_setVariable (name text : Datum) (node : Node) :
    Effect node (.setVariable name text) ((setVariable name text).effectFrom node) := by
  have unchanged : ∀ result, Effect node (.setVariable name text) (result, node) :=
    fun result => .grows (.refl node) nofun fun _ _ => rfl
  unfold Action.effectFrom setVariable
  rw [Action.runFrom_bind, Action.runFrom_lift]
  cases name with
  | text key =>
      dsimp only [textOf]
      rw [Action.runFrom_bind, Action.runFrom_lift]
      cases text with
      | text value =>
          dsimp only [textOf]
          split
          · exact unchanged _
          · exact .changes rfl fun other different => by
              rw [Environment.get?_set, if_neg different]
      | _ => exact unchanged _
  | _ => exact unchanged _

theorem effect_unsetVariable (name : Datum) (node : Node) :
    Effect node (.unsetVariable name) ((unsetVariable name).effectFrom node) := by
  unfold Action.effectFrom unsetVariable
  rw [Action.runFrom_bind, Action.runFrom_lift]
  cases name with
  | text key =>
      exact .changes rfl fun other different => by rw [Environment.get?_unset, if_neg different]
  | _ => exact .grows (.refl node) nofun fun _ _ => rfl

theorem effect_config (node : Node) : Effect node .config (config.effectFrom node) := by
  refine .grows (grown_config node) nofun fun fault failed => ?_
  have failed := Action.effectFrom_fst_eq_error_iff.1 failed
  cases told : config.runFrom node with
  | mk result next =>
      rw [told] at failed
      cases failed
      obtain ⟨before, after⟩ := defaultConfig_of_config_error told
      exact after.trans before.symm

theorem effect_decode (scheme : Scheme) (message : Datum) (node : Node) :
    Effect node (.decode message) ((decode scheme none message).effectFrom node) := by
  refine .grows (grown_decode scheme message node) nofun fun fault failed => ?_
  obtain ⟨next, told, left⟩ := config_of_decode (Action.effectFrom_fst_eq_error_iff.1 failed)
  obtain ⟨before, after⟩ := defaultConfig_of_config_error told
  rw [left, after, before]

theorem effect_configureLog (level : Datum) (node : Node) :
    Effect node (.configureLog level) ((configureLog level).effectFrom node) := by
  obtain ⟨grown, settled⟩ := levelFor_cases level node
  unfold Action.effectFrom
  rw [runFrom_configureLog]
  cases asked : (levelFor level).runFrom node with
  | mk result next =>
      rw [asked] at grown settled
      cases result with
      | ok number => exact .setsUp grown settled
      | error fault => exact .grows grown (fun _ _ => ⟨fault, rfl⟩) fun _ _ => settled

end Node

open Node (Effect Asks)

/-- Every call does one of these. -/
theorem Call.effect (scheme : Scheme) (node : Node) (call : Call) :
    Effect node call (call.effectFrom scheme node) := by
  cases call with
  | setVariable name text => exact Node.effect_setVariable name text node
  | unsetVariable name => exact Node.effect_unsetVariable name node
  | writeFile path text => exact .of_filled ⟨⟨id, id, id, rfl⟩, rfl⟩ nofun
  | loadVariables path force => exact .of_filled (Node.filled_loadVariables path force node) nofun
  | loadConfig => exact .of_filled (Node.filled_loadConfig node) nofun
  | config => exact Node.effect_config node
  | decode message => exact Node.effect_decode scheme message node
  | configureLog level => exact Node.effect_configureLog level node

namespace Node.Effect

variable {node next : Node} {call : Call} {result : Except Fault Unit}

theorem present {key text : String} (effect : Effect node call (result, next))
    (other : ¬ call.Names key) (known : node.environment.get? key = some text) :
    next.environment.get? key = some text := by
  cases effect with
  | grows grown => exact grown.present known
  | @changes _ named _ _ names others =>
      rw [others]
      · exact known
      · rintro rfl
        exact other names
  | setsUp grown => exact grown.present known

/-- No call forgets that variables were taken from a file, or the configuration that is kept. -/
theorem kept (effect : Effect node call (result, next)) :
    (node.loadedFrom.isSome = true → next.loadedFrom.isSome = true) ∧
      ∀ cfg, node.defaultConfig = some cfg → next.defaultConfig = some cfg := by
  cases effect with
  | grows grown => exact ⟨grown.loadedFrom, fun _ => grown.defaultConfig⟩
  | changes => exact ⟨id, fun _ => id⟩
  | setsUp grown => exact ⟨grown.loadedFrom, fun _ => grown.defaultConfig⟩

theorem cached {fault : ConfigFault} (effect : Effect node call (.error (.config fault), next)) :
    next.defaultConfig = node.defaultConfig := by
  cases effect with
  | grows _ _ cached => exact cached fault rfl
  | changes => rfl

theorem sound (effect : Effect node call (result, next)) (sound : node.logger.Sound) :
    next.logger.Sound := by
  cases effect with
  | grows grown => rwa [grown.logger]
  | changes => exact sound
  | @setsUp level number next grown asks =>
      rw [← grown.logger] at sound
      exact .inr ⟨number, sound.setUp number⟩

/-- Only a call that sets up the log and does not fail changes the logger. -/
theorem logger (effect : Effect node call (result, next))
    (fails : ∀ level, call = .configureLog level → ∃ fault, result = .error fault) :
    next.logger = node.logger := by
  cases effect with
  | grows grown => exact grown.logger
  | changes => rfl
  | setsUp => obtain ⟨fault, ⟨⟩⟩ := fails _ rfl

end Node.Effect

namespace Node

/-- Where a call to set up the log does not fail, it does so with the level that it asks for. -/
theorem logger_of_configureLog {level : Datum} {node next : Node} {logger : Logger}
    (done : (configureLog level).runFrom node = (.ok logger, next)) :
    ∃ number, Asks node level number ∧ next.logger = node.logger.setUp number := by
  have effect := effect_configureLog level node
  have ended : (configureLog level).effectFrom node = (.ok (), next) := by
    rw [Action.effectFrom, done]
    rfl
  rw [ended] at effect
  cases effect with
  | grows _ fails =>
      obtain ⟨fault, ⟨⟩⟩ := fails level rfl
  | changes named => exact named.elim
  | @setsUp _ number mid grown asks => exact ⟨number, asks, by rw [← grown.logger]⟩

/-! ### Calls in a row -/

section

variable {scheme : Scheme} {node : Node} {calls : List Call}

/-- What every call keeps, calls in a row keep. -/
theorem after_of_step (holds : Node → Prop)
    (step : ∀ node call, holds node → holds (Call.effectFrom scheme node call).2)
    (start : holds node) : holds (node.after scheme calls) := by
  induction calls generalizing node with
  | nil => exact start
  | cons call calls ih => exact ih (step node call start)

theorem loadedFrom_after (loaded : node.loadedFrom.isSome = true) :
    (node.after scheme calls).loadedFrom.isSome = true :=
  after_of_step (fun node => node.loadedFrom.isSome = true)
    (fun node call => (call.effect scheme node).kept.1) loaded

theorem defaultConfig_after {cfg : Config} (kept : node.defaultConfig = some cfg) :
    (node.after scheme calls).defaultConfig = some cfg :=
  after_of_step (fun node => node.defaultConfig = some cfg)
    (fun node call => (call.effect scheme node).kept.2 cfg) kept

theorem sound_after (sound : node.logger.Sound) : (node.after scheme calls).logger.Sound :=
  after_of_step (fun node => node.logger.Sound)
    (fun node call => (call.effect scheme node).sound) sound

theorem present_after {key text : String} (known : node.environment.get? key = some text)
    (others : ∀ call ∈ calls, ¬ call.Names key) :
    (node.after scheme calls).environment.get? key = some text := by
  induction calls generalizing node with
  | nil => exact known
  | cons call calls ih =>
      obtain ⟨other, others⟩ := List.forall_mem_cons.1 others
      exact ih ((call.effect scheme node).present other known) others

/-- None of the calls sets up the log. -/
def SetsUpNone (scheme : Scheme) (node : Node) (calls : List Call) : Prop :=
  ∀ earlier level later, calls = earlier ++ .configureLog level :: later →
    ∃ fault, ((configureLog level).runFrom (node.after scheme earlier)).1 = .error fault

theorem setsUpNone_of_forall (others : ∀ call ∈ calls, ∀ level, call ≠ .configureLog level) :
    SetsUpNone scheme node calls := by
  rintro earlier level later rfl
  exact absurd rfl (others (.configureLog level) (by simp) level)

theorem logger_after (quiet : SetsUpNone scheme node calls) :
    (node.after scheme calls).logger = node.logger := by
  induction calls generalizing node with
  | nil => rfl
  | cons call calls ih =>
      have first : (call.effectFrom scheme node).2.logger = node.logger := by
        refine (call.effect scheme node).logger ?_
        rintro level rfl
        obtain ⟨fault, failed⟩ := quiet [] level calls rfl
        exact ⟨fault, Action.effectFrom_fst_eq_error_iff.2 failed⟩
      rw [← first]
      refine ih fun earlier level later same => ?_
      exact quiet (call :: earlier) level later (by rw [same]; rfl)

/-- The node keeps nothing yet. -/
structure Fresh (node : Node) : Prop where
  loadedFrom : node.loadedFrom = none
  defaultConfig : node.defaultConfig = none
  logger : node.logger = {}

/-- The node is one that kept nothing at first, after calls. -/
def Reached (scheme : Scheme) (node : Node) : Prop :=
  ∃ start calls, Fresh start ∧ node = start.after scheme calls

theorem Reached.sound (reached : node.Reached scheme) : node.logger.Sound := by
  obtain ⟨start, calls, fresh, rfl⟩ := reached
  exact sound_after (.inl fresh.logger)

end

/-- Whatever calls a node has seen and will see: a variable that is set stays as it is unless a call
names it.  After variables were taken from a file, none are taken unless that is forced.  A
configuration that was told is told again, and messages are decoded under it; where one cannot be
told, none is kept and the next call reads it anew.  The logger never has more than one handler, and
keeps the level that the last call to set it up asked for. -/
theorem state_lasts {scheme : Scheme} {node : Node} (reached : node.Reached scheme) :
    (∀ key text calls, node.environment.get? key = some text →
      (∀ call ∈ calls, ¬ Call.Names key call) →
      (node.after scheme calls).environment.get? key = some text) ∧
    (∀ path force next, (loadVariables path force).runFrom node = (.ok true, next) →
      ∀ later path, (loadVariables path false).runFrom (next.after scheme later) =
        (.ok false, next.after scheme later)) ∧
    (∀ cfg next, config.runFrom node = (.ok cfg, next) → ∀ later,
      config.runFrom (next.after scheme later) = (.ok cfg, next.after scheme later) ∧
      ∀ message, (decode scheme none message).runFrom (next.after scheme later) =
        (decode scheme (some (.ofConfig cfg)) message).runFrom (next.after scheme later)) ∧
    (∀ call fault next, Call.effectFrom scheme node call = (.error (.config fault), next) →
      next.defaultConfig = node.defaultConfig) ∧
    (∀ fault next, config.runFrom node = (.error fault, next) →
      next.defaultConfig = none ∧ (config.runFrom next).1 = (loadConfig.runFrom next).1) ∧
    node.logger.handlers ≤ 1 ∧
    ∀ level logger next, (configureLog level).runFrom node = (.ok logger, next) →
      ∃ number, Asks node level number ∧ ∀ later, SetsUpNone scheme next later →
        (next.after scheme later).logger = ⟨number, 1, false, true⟩ := by
  refine ⟨fun key text calls => present_after, ?_, ?_, ?_, ?_, reached.sound.handlers_le, ?_⟩
  · intro path force next taken later path'
    exact runFrom_loadVariables_of_loaded (loadedFrom_after (isSome_of_loadVariables taken)) path'
  · intro cfg next told later
    have kept : (next.after scheme later).defaultConfig = some cfg :=
      defaultConfig_after (defaultConfig_of_config told)
    exact ⟨runFrom_config_of_some kept, fun message => runFrom_decode_none_of_some kept⟩
  · intro call fault next failed
    have effect := call.effect scheme node
    rw [failed] at effect
    exact effect.cached
  · intro fault next failed
    obtain ⟨-, none⟩ := defaultConfig_of_config_error failed
    exact ⟨none, runFrom_config_fst_of_none none⟩
  · intro level logger next done
    obtain ⟨number, asks, left⟩ := logger_of_configureLog done
    refine ⟨number, asks, fun later quiet => ?_⟩
    rw [logger_after quiet, left]
    exact reached.sound.setUp number

/-! ### A level from a file -/

/-- A node with a file, named by a variable, that sets the level of the log. -/
def exampleNode : Node :=
  { environment := ⟨[("SAFEWIRE_DOTENV_PATH", "e")]⟩
    files := ⟨[(["e"], "SAFEWIRE_LOG_LEVEL=debug")]⟩ }

/-- The node with the variable of the file. -/
def exampleTaken : Node :=
  { exampleNode with
    environment := ⟨[("SAFEWIRE_LOG_LEVEL", "debug"), ("SAFEWIRE_DOTENV_PATH", "e")]⟩
    loadedFrom := some "e" }

/-- The node with the configuration that the variable describes. -/
def exampleTold : Node := { exampleTaken with defaultConfig := some { logLevel := .debug } }

theorem loadVariables_exampleNode :
    (loadVariables .none false).runFrom exampleNode = (.ok true, exampleTaken) := by
  have path : exampleNode.pathFor .none = .ok "e" := by cbv
  have parts : Path.ofText "e" = ⟨false, ["e"]⟩ := by cbv
  have file : exampleNode.fileAt? "e" = .ok (some "SAFEWIRE_LOG_LEVEL=debug") := by
    unfold fileAt?
    rw [parts]
    cbv
  have assigned : Environment.File.assignments exampleNode.environment "SAFEWIRE_LOG_LEVEL=debug" =
      [("SAFEWIRE_LOG_LEVEL", "debug")] := by decide +kernel
  have allowed : exampleNode.ignoresFiles = false := by cbv
  have settable : settingFault? "SAFEWIRE_LOG_LEVEL" "debug" = none := by cbv
  have absent : exampleNode.environment.get? "SAFEWIRE_LOG_LEVEL" = none := by decide
  have taken : exampleNode.taken "SAFEWIRE_LOG_LEVEL=debug" =
      (.ok (), { exampleNode with environment := exampleTaken.environment }) := by
    unfold Node.taken
    rw [allowed, if_neg (by decide), assigned, runFrom_fillVariables]
    simp only [List.filter_cons, List.filter_nil, List.takeWhile_cons, List.takeWhile_nil,
      List.findSome?_cons, List.findSome?_nil, absent, settable, Option.isNone_none, if_true]
    rfl
  rw [runFrom_loadVariables, path]
  simp only [file, taken]
  rfl

theorem config_exampleNode :
    config.runFrom exampleNode = (.ok { logLevel := .debug }, exampleTold) := by
  have read : Config.ofEnvironment exampleTaken.environment.get? = .ok { logLevel := .debug } := by
    decide +kernel
  rw [runFrom_config_of_none rfl, runFrom_loadConfig, loadVariables_exampleNode]
  simp only [read]
  rfl

theorem configureLog_exampleNode :
    (configureLog .none).runFrom exampleNode =
      (.ok ⟨10, 1, false, true⟩, { exampleTold with logger := ⟨10, 1, false, true⟩ }) := by
  rw [runFrom_configureLog, runFrom_levelFor_none, config_exampleNode]
  rfl

theorem configureLog_warning :
    (configureLog (.text " warning ")).runFrom exampleNode =
      (.ok ⟨30, 1, false, true⟩, { exampleNode with logger := ⟨30, 1, false, true⟩ }) := by
  have number : levelNumber " warning " = 30 := by decide
  have level : (levelFor (.text " warning ")).runFrom exampleNode =
      (.ok (levelNumber " warning "), exampleNode) := rfl
  rw [runFrom_configureLog, level, number]
  rfl

/-- The variable of the level, with another text. -/
def exampleChange : Call := .setVariable (.text "SAFEWIRE_LOG_LEVEL") (.text "error")

/-- The level is taken from the file and told, and the log is set up with it, or else with a level
that is named; another text of the variable comes too late for each of them. -/
theorem state_lasts_exampleNode :
    (loadVariables .none false).runFrom (exampleTaken.after .lenient [exampleChange]) =
        (.ok false, exampleTaken.after .lenient [exampleChange]) ∧
      config.runFrom (exampleTold.after .lenient [exampleChange]) =
        (.ok { logLevel := .debug }, exampleTold.after .lenient [exampleChange]) ∧
      (({ exampleTold with logger := ⟨10, 1, false, true⟩ } : Node).after .lenient
        [exampleChange]).logger = ⟨10, 1, false, true⟩ ∧
      (({ exampleNode with logger := ⟨30, 1, false, true⟩ } : Node).after .lenient
        [exampleChange]).logger = ⟨30, 1, false, true⟩ := by
  have reached : exampleNode.Reached .lenient := ⟨exampleNode, [], ⟨rfl, rfl, rfl⟩, rfl⟩
  have quiet : ∀ node : Node, SetsUpNone .lenient node [exampleChange] :=
    fun node => setsUpNone_of_forall (by simp [exampleChange])
  obtain ⟨-, once, told, -, -, -, setUp⟩ := state_lasts reached
  refine ⟨once _ _ _ loadVariables_exampleNode _ _, (told _ _ config_exampleNode _).1, ?_, ?_⟩
  · obtain ⟨number, asked, lasting⟩ := setUp _ _ _ configureLog_exampleNode
    have level : number = 10 := asked.unique (.told config_exampleNode (by decide))
    rw [level] at lasting
    exact lasting [exampleChange] (quiet _)
  · obtain ⟨number, asked, lasting⟩ := setUp _ _ _ configureLog_warning
    have name : Text.upper (Text.strip " warning ") = "WARNING" := by decide
    have level : number = 30 := asked.unique (.named (by rw [name]; decide))
    rw [level] at lasting
    exact lasting [exampleChange] (quiet _)

end Node

end Overlay
