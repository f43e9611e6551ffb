import PlatformBridge.Log.Event
import PlatformBridge.Text.Unsigned

/-!
How much is kept of what is reported: nothing, or the events of a level and the more urgent ones.
A verbosity is spelled by its name, in letters of any case, or by its rank.
-/

namespace PlatformBridge.Log

/-- How much is kept: nothing, or the events of a level and the more urgent ones. -/
inductive Verbosity where
  | off
  | error
  | warn
  | info
  | debug
  | trace
  deriving DecidableEq, Repr, Inhabited

namespace Verbosity

def all : List Verbosity := [off, error, warn, info, debug, trace]

def name : Verbosity → String
  | off => "off"
  | error => "error"
  | warn => "warn"
  | info => "info"
  | debug => "debug"
  | trace => "trace"

/-- The number of levels kept. -/
def rank : Verbosity → Nat
  | off => 0
  | error => 1
  | warn => 2
  | info => 3
  | debug => 4
  | trace => 5

/-- The least verbosity that keeps a level. -/
def ofLevel : Level → Verbosity
  | .error => error
  | .warn => warn
  | .info => info
  | .debug => debug

def keeps (v : Verbosity) (level : Level) : Bool := (ofLevel level).rank ≤ v.rank

/-- A text with its ASCII letters in lower case. -/
def lower (text : String) : String := String.ofList (text.toList.map Char.toLower)

/-- The verbosity with the name, in letters of any case. -/
def ofName? (text : String) : Option Verbosity := all.find? fun v => v.name = lower text

/-- The verbosity that a text spells, by its rank or by its name. -/
def ofText? (text : String) : Option Verbosity :=
  match Text.unsigned? text.toList with
  | some n => all.find? fun v => v.rank = n
  | none => ofName? text

end Verbosity

end PlatformBridge.Log
