/-
# Overlay.Node.Setup — variables, configuration and log level of a node

Variables are taken from a file once; a further call takes none unless it is forced
to.  A variable that is set is never changed by a file, and one variable can keep
files from setting any.  The path of a file may start in a home directory.  The
configuration is read from the variables, and the first one that could be read is
kept for good; a failure keeps nothing.  The log is set up with one handler, however
often.
-/
import Overlay.Config.Environment
import Overlay.Environment.File
import Overlay.Node

namespace Overlay.Node

set_option autoImplicit false

/-! ## Variables -/

/-- The text that a value must be. -/
def textOf : Datum → Except Fault String
  | .text text => .ok text
  | _ => .error .unfit

/-- Why a variable of this name cannot be set to this text, if it cannot. -/
def settingFault? (name text : String) : Option Fault :=
  if name.contains '=' || name.contains '\x00' || text.contains '\x00' then some .outside
  else if name = "" then some .denied
  else none

/-- Set a variable. -/
def setVariable (name text : Datum) : Action Unit := do
  let name ← lift (textOf name)
  let text ← lift (textOf text)
  match settingFault? name text with
  | some fault => throw fault
  | none => modify fun node => { node with environment := node.environment.set name text }

/-- Unset a variable. -/
def unsetVariable (name : Datum) : Action Unit := do
  let name ← lift (textOf name)
  modify fun node => { node with environment := node.environment.unset name }

/-- Set every variable that is given and not set, up to the first that cannot be set. -/
def fillVariables (entries : List (String × String)) : Action Unit := do
  let environment := (← get).environment
  let absent := entries.filter fun entry => (environment.get? entry.1).isNone
  let sound := absent.takeWhile fun entry => (settingFault? entry.1 entry.2).isNone
  modify fun node => { node with environment := node.environment.fill sound }
  match absent.findSome? fun entry => settingFault? entry.1 entry.2 with
  | some fault => throw fault
  | none => return

/-! ## Files -/

/-- Write a file. -/
def writeFile (path text : String) : Action Unit :=
  modify fun node => { node with files := node.files.write (.ofText path) text }

/-- The variable that names the file to take variables from. -/
def pathVariable : String := "SAFEWIRE_DOTENV_PATH"

/-- The file to take variables from where none is named. -/
def defaultPath : String := ".env"

/-- The file to take variables from: the one asked for, else the one that a variable names, else the
default.  What counts as false names no file. -/
def pathFor (node : Node) (path : Datum) : Except Fault String :=
  if path.isTrue then textOf path
  else
    match node.environment.get? pathVariable with
    | some path => .ok (if path = "" then defaultPath else path)
    | none => .ok defaultPath

/-- The home directory that the first part of a path names after its `~`: that of a variable, or that
of an account, which is away from the working directory. -/
def home? (node : Node) (owner : String) : Except Fault (Option Path) :=
  if owner = "" then
    match node.environment.get? "HOME" with
    | some home =>
      if home.startsWith "~" then .error .homeless
      else .ok (some (if home = "" then ⟨true, []⟩ else .ofText home))
    | none => .ok none
  else if owner.contains '\x00' then .error .outside
  else if node.accounts.contains owner then .ok none
  else .error .homeless

/-- The path with a home directory in place of a first part that starts with `~`. -/
def expanded (node : Node) (path : Path) : Except Fault (Option Path) := do
  match path.fromRoot, path.parts with
  | false, part :: rest =>
    match part.toList with
    | '~' :: owner => return (← node.home? (String.ofList owner)).map (·.append rest)
    | _ => return some path
  | _, _ => return some path

/-- The text of the file that a text names as a path, if there is one. -/
def fileAt? (node : Node) (path : String) : Except Fault (Option String) := do
  match ← node.expanded (.ofText path) with
  | some path => node.files.read? path
  | none => return none

/-- The words that keep files from setting variables. -/
def yesWords : List String := ["1", "t", "true", "y", "yes"]

/-- Do variables keep files from setting any? -/
def ignoresFiles (node : Node) : Bool :=
  ((node.environment.get? node.fileSwitch).map fun text => yesWords.contains (Text.fold text)).getD
    false

/-- Take variables from a file, once unless forced; says whether that was done. -/
def loadVariables (path : Datum) (force : Bool) : Action Bool := do
  let node ← get
  if node.loadedFrom.isSome && !force then return false
  let path ← lift (node.pathFor path)
  match ← lift (node.fileAt? path) with
  | none => return false
  | some text =>
    if !node.ignoresFiles then
      fillVariables (Environment.File.assignments node.environment text)
    modify fun node => { node with loadedFrom := some path }
    return true

/-! ## Configuration -/

/-- A failure to read a configuration as the failure of a call. -/
def configFault {α : Type} : Except ConfigFault α → Except Fault α
  | .ok a => .ok a
  | .error fault => .error (.config fault)

/-- The configuration that the variables of the node describe, those of a file included. -/
def loadConfig : Action Config := do
  let _ ← loadVariables .none false
  let node ← get
  lift (configFault (Config.ofEnvironment node.environment.get?))

/-- The configuration of the node. -/
def config : Action Config := do
  match (← get).defaultConfig with
  | some config => return config
  | none =>
    let config ← loadConfig
    modify fun node => { node with defaultConfig := some config }
    return config

/-! ## Log -/

/-- The number of the level that a text names, or that of `info`. -/
def levelNumber (text : String) : Nat := ((Log.Level.ofText? text).getD .info).number

/-- The level that a value asks for; nothing asks for that of the configuration. -/
def levelFor : Datum → Action Nat
  | .none => do return (← config).logLevel.number
  | .text text => return levelNumber text
  | .octets .fixed _ => return Log.Level.info.number
  | .octets .growing _ => throw .unfit
  | _ => throw .missing

/-- Set up the log. -/
def configureLog (level : Datum) : Action Logger := do
  let level ← levelFor level
  modify fun node => { node with logger := node.logger.setUp level }
  return (← get).logger

end Overlay.Node
