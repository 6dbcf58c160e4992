/-
# Overlay.Node — what a running node keeps between calls

A node has variables and files.  It remembers the file that it took variables from
and the configuration that it once read, and keeps a log: two loggers, of which one
is the parent of the other, and the lines that have been written.

A call is an `Action`: it may fail, and it may change the node even where it
fails.
-/
import Overlay.Config
import Overlay.Datum.Depth
import Overlay.Environment
import Overlay.Fault
import Overlay.Log.Event
import Overlay.Node.Files

namespace Overlay

set_option autoImplicit false

/-- The state of the parent logger. -/
structure Logger where
  /-- The least level that is logged; zero leaves the choice to the root of all loggers. -/
  level : Nat := 0
  handlers : Nat := 0
  /-- Are lines passed on to the root of all loggers? -/
  propagates : Bool := true
  /-- Has the logger been given a handler of its own? -/
  configured : Bool := false
  deriving DecidableEq, Repr, Inhabited

/-- The logger set up with a level: the first time it is given a handler and keeps its lines to itself,
after that only the level changes. -/
def Logger.setUp (logger : Logger) (level : Nat) : Logger :=
  let logger := { logger with level }
  if logger.configured then logger
  else { logger with handlers := logger.handlers + 1, propagates := false, configured := true }

/-- A line in the log. -/
structure LogLine where
  level : Log.Severity
  text : String
  deriving DecidableEq, Repr

/-- The state of a node. -/
structure Node where
  /-- At first only the home directory is set, to the working directory. -/
  environment : Environment := ⟨[("HOME", ".")]⟩
  files : Files := {}
  /-- The accounts of the host; each has a home directory away from the working directory. -/
  accounts : List String := []
  /-- The variable that, where it says yes, keeps files from setting any. -/
  fileSwitch : String := ""
  /-- The file that variables were last taken from. -/
  loadedFrom : Option String := none
  /-- The configuration that was read when one was first needed. -/
  defaultConfig : Option Config := none
  logger : Logger := {}
  /-- The least level that the logger of messages logs; zero leaves the choice to its parent. -/
  messageLevel : Int := Log.Level.info.number
  /-- The time, in milliseconds. -/
  time : Int := 0
  /-- The lines that have been logged, in order. -/
  lines : List LogLine := []
  deriving Inhabited

/-- A call that may fail and may change the node. -/
abbrev Action (α : Type) := ExceptT Fault (StateM Node) α

namespace Node

/-- What the root of all loggers logs. -/
def rootLevel : Int := Log.Level.warning.number

/-- The least level that is logged of what happens to messages. -/
def effectiveLevel (node : Node) : Int :=
  if node.messageLevel ≠ 0 then node.messageLevel
  else if node.logger.level ≠ 0 then node.logger.level
  else rootLevel

/-- Is an event of the given level logged? -/
def logs (node : Node) (level : Int) : Bool := 0 < level && node.effectiveLevel ≤ level

/-- The node with the line of an event logged, if its level is one that is. -/
def withEvent (node : Node) (event : Log.Event) : Node :=
  if node.logs event.level.value then
    { node with lines := node.lines ++ [⟨event.level, event.line node.time⟩] }
  else node

/-- Log an event. -/
def log (event : Log.Event) : Action Unit := modify (·.withEvent event)

/-- The names that a field of an event cannot have. -/
def reservedFields : List String := ["logger", "event", "level"]

/-- The fields of an event that a map gives; the keys must be text and not reserved. -/
def eventFields (fields : Datum) : Except Fault (List (String × Datum)) := do
  let .mapping entries := fields | .error .unfit
  entries.mapM fun
    | (.text name, value) => if reservedFields.contains name then .error .unfit else .ok (name, value)
    | _ => .error .unfit

/-- A result as the result of an action. -/
def lift {α : Type} (result : Except Fault α) : Action α := ExceptT.mk (pure result)

/-- Is an event logged whose level is the given number?  One that is no number is above and below no
other. -/
def logsNumber (node : Node) (bits : UInt64) : Bool :=
  let level := (Datum.float bits 0).place
  (Datum.int 0).place.isBelow level && !level.isBelow (Datum.int node.effectiveLevel).place

/-- Log an event that a caller describes.  The level must be an integer; that a floating-point
number is none matters only where an event of that level is logged. -/
def logFields (level title fields : Datum) : Action Unit := do
  let fields ← lift (eventFields fields)
  let logged (severity : Log.Severity) : Action Unit := do
    if (← get).logs severity.value then
      let _ ← lift (Datum.list (title :: fields.map Prod.snd)).followed
      log ⟨severity, title, fields⟩
  match level with
  | .int value => logged (.number value)
  | .registered t => logged (.number t.number)
  | .bool value => logged (.flag value)
  | .float bits _ =>
    if (← get).logsNumber bits then
      let _ ← lift (Datum.list (title :: fields.map Prod.snd)).followed
      throw .unfit
  | _ => throw .unfit

end Node

end Overlay
