/-
# Overlay.Log.Level — how serious an event is

Levels are numbers, the more serious the greater; eight names stand for six of them.
A name is read in any case and with white space at its ends.  An event can have any
number as its severity, named or not.
-/
import Overlay.Text.Blank
import Overlay.Text.Letters

namespace Overlay.Log

set_option autoImplicit false

/-- The named levels. -/
inductive Level where
  | critical
  | fatal
  | error
  | warn
  | warning
  | info
  | debug
  | notset
  deriving DecidableEq, Repr, Inhabited

namespace Level

/-- Every named level. -/
def all : List Level := [.critical, .fatal, .error, .warn, .warning, .info, .debug, .notset]

/-- The name of a level. -/
def title : Level → String
  | .critical => "CRITICAL"
  | .fatal => "FATAL"
  | .error => "ERROR"
  | .warn => "WARN"
  | .warning => "WARNING"
  | .info => "INFO"
  | .debug => "DEBUG"
  | .notset => "NOTSET"

/-- The number of a level. -/
def number : Level → Nat
  | .critical => 50
  | .fatal => 50
  | .error => 40
  | .warn => 30
  | .warning => 30
  | .info => 20
  | .debug => 10
  | .notset => 0

/-- The level that a text names. -/
def ofText? (text : String) : Option Level :=
  let name := Text.upper (Text.strip text)
  all.find? (·.title == name)

theorem mem_all (level : Level) : level ∈ all := by cases level <;> decide

end Level

/-- How serious an event is: a number, or a flag that counts as one or zero. -/
inductive Severity where
  | number (value : Int)
  | flag (value : Bool)
  deriving DecidableEq, Repr, Inhabited

namespace Severity

/-- The number that a severity counts as. -/
def value : Severity → Int
  | .number value => value
  | .flag value => if value then 1 else 0

/-- The severity of a level. -/
def ofLevel (level : Level) : Severity := .number level.number

end Severity

end Overlay.Log
