import PlatformBridge.Simulator.Change
import PlatformBridge.Text.Terminal

/-!
Arguments of the simulator. They are read from left to right. The value of an option that stands
in the next argument is judged only when the option is settled: at the next known option or at the
end. An argument that means nothing is reported as soon as it is met.
-/

namespace PlatformBridge.Simulator

/-- The options that take a value. -/
inductive Flag where
  | profile
  | config
  | rotate
  | log
  deriving DecidableEq, Repr, Inhabited

namespace Flag

def all : List Flag := [profile, config, rotate, log]

def name : Flag → String
  | profile => "profile"
  | config => "config"
  | rotate => "rotate"
  | log => "log"

/-- The option with what its value is called. -/
def usage : Flag → String
  | profile => "--profile <PROFILE>"
  | config => "--config <CONFIG>"
  | rotate => "--rotate <AXIS:DEGREES>"
  | log => "--log <LOG>"

end Flag

/-- The options that stand for a text of their own. -/
inductive Notice where
  | help
  | version
  deriving DecidableEq, Repr, Inhabited

namespace Notice

def all : List Notice := [help, version]

def name : Notice → String
  | help => "help"
  | version => "version"

def letter : Notice → Char
  | help => 'h'
  | version => 'V'

end Notice

/-- Why arguments cannot be used. -/
inductive UsageError where
  | invalidValue (flag : Flag) (value : String) (error : Change.Error)
  | missingValue (flag : Flag)
  | repeated (flag : Flag)
  | unexpected (argument : String)
  | unexpectedValue (notice : Notice) (value : String)
  deriving DecidableEq, Repr, Inhabited

namespace UsageError

open Text.Terminal in
/-- An error in words, in the styles of a terminal. -/
def message : UsageError → String
  | invalidValue flag value error =>
    s!"invalid value '{faulty value}' for '{literal flag.usage}': {error.message}"
  | missingValue flag => s!"a value is required for '{faulty flag.usage}' but none was supplied"
  | repeated flag => s!"the argument '{faulty flag.usage}' cannot be used multiple times"
  | unexpected argument => s!"unexpected argument '{faulty argument}' found"
  | unexpectedValue notice value =>
    let option := "--" ++ notice.name
    s!"unexpected value '{faulty value}' for '{literal option}' found; no more were expected"

open Text.Terminal in
/-- An error as a terminal is told of it: in words, and with where to learn more. -/
def page (error : UsageError) : String :=
  alarming "error:" ++ " " ++ error.message ++ "\n\nFor more information, try '"
    ++ literal "--help" ++ "'.\n"

/-- **What is said about an error** where there is no terminal. Values that hold control sequences
lose them too. -/
def complaint (error : UsageError) : String := Text.Terminal.strip error.page

end UsageError

/-- What the arguments say. -/
structure Arguments where
  profile : Option String := none
  config : Option String := none
  changes : List Change := []
  log : Option String := none
  deriving DecidableEq, Repr, Inhabited

/-- What the arguments ask for. -/
inductive Request where
  | simulate (arguments : Arguments)
  | notice (notice : Notice)
  deriving DecidableEq, Repr, Inhabited

namespace Arguments

/-- A path given once; an empty one counts as none. -/
def acceptPath (flag : Flag) (before : Option String) (value : String) :
    Except UsageError (Option String) :=
  if before.isSome then .error (.repeated flag)
  else if value = "" then .error (.missingValue flag)
  else .ok (some value)

def accept (a : Arguments) (flag : Flag) (value : String) : Except UsageError Arguments :=
  match flag with
  | .profile => return { a with profile := ← acceptPath flag a.profile value }
  | .config => return { a with config := ← acceptPath flag a.config value }
  | .log =>
    if a.log.isSome then .error (.repeated flag) else .ok { a with log := some value }
  | .rotate =>
    match Change.parse value with
    | .ok change => .ok { a with changes := a.changes ++ [change] }
    | .error error => .error (.invalidValue flag value error)

/-- An option whose value stands in the next argument, and the value once it was met. -/
structure Pending where
  flag : Flag
  value : Option String
  deriving DecidableEq, Repr, Inhabited

def settle (a : Arguments) : Option Pending → Except UsageError Arguments
  | none => .ok a
  | some ⟨flag, none⟩ => .error (.missingValue flag)
  | some ⟨flag, some value⟩ => a.accept flag value

/-- An argument by its form. -/
inductive Shape where
  /-- Two dashes, behind which nothing is an option. -/
  | separator
  /-- A name behind two dashes, and the value behind an equals sign. -/
  | long (name : String) (value : Option String)
  /-- The first letter behind one dash. -/
  | short (letter : Char)
  | plain
  deriving DecidableEq, Repr

def shape (argument : String) : Shape :=
  match argument.toList with
  | ['-', '-'] => .separator
  | '-' :: '-' :: rest =>
    let name := String.ofList (rest.takeWhile (· ≠ '='))
    match rest.dropWhile (· ≠ '=') with
    | [] => .long name none
    | _ :: value => .long name (some (String.ofList value))
  | '-' :: letter :: _ => .short letter
  | _ => .plain

def read (a : Arguments) (pending : Option Pending) (ended : Bool) :
    List String → Except UsageError Request
  | [] => return .simulate (← a.settle pending)
  | argument :: rest =>
    if ended then .error (.unexpected argument)
    else
      match shape argument with
      | .separator => read a pending true rest
      | .long name value =>
        match Flag.all.find? (·.name = name), value with
        | some flag, some value => do
          let a ← a.settle pending
          let a ← a.accept flag value
          read a none false rest
        | some flag, none => do
          let a ← a.settle pending
          read a (some ⟨flag, none⟩) false rest
        | none, value =>
          match Notice.all.find? (·.name = name), value with
          | some notice, some value => .error (.unexpectedValue notice value)
          | some notice, none => do
            let _ ← a.settle pending
            return .notice notice
          | none, _ => .error (.unexpected ("--" ++ name))
      | .short letter =>
        match Notice.all.find? (·.letter = letter) with
        | some notice => do
          let _ ← a.settle pending
          return .notice notice
        | none => .error (.unexpected (String.ofList ['-', letter]))
      | .plain =>
        match pending with
        | some ⟨flag, none⟩ => read a (some ⟨flag, some argument⟩) false rest
        | _ => .error (.unexpected argument)

/-- **What a list of arguments asks for.** -/
def parse (arguments : List String) : Except UsageError Request := read {} none false arguments

end Arguments

end PlatformBridge.Simulator
