import PlatformBridge.Failure
import PlatformBridge.Lifecycle.Phase
import PlatformBridge.Orientation
import PlatformBridge.Snapshot

/-!
What the bridge and its parts report while they run. An event is a fact with its data; its level,
its wording and its fields are read off it.
-/

namespace PlatformBridge.Log

/-- How urgent an event is. -/
inductive Level where
  | error
  | warn
  | info
  | debug
  deriving DecidableEq, Repr, Inhabited

/-- The level as log lines show it. -/
def Level.label : Level → String
  | error => "ERROR"
  | warn => "WARN"
  | info => "INFO"
  | debug => "DEBUG"

/-- The value of a field: what is shown bare, what is shown between quotes, and numbers and truth
values. -/
inductive FieldValue where
  | shown (bare : String)
  | text (value : String)
  | integer (value : Int)
  | truth (value : Bool)
  deriving DecidableEq, Repr, Inhabited

/-- A reported event. -/
inductive Event where
  /-- The settings under a path could not be loaded and the defaults stand in. -/
  | defaultSettings (path : String) (failure : Failure)
  /-- The host has no cache directory and the stand-in is used. -/
  | noCacheDir (sentinel : String)
  /-- The host has told all of the snapshot. -/
  | collected (host : String) (snapshot : Snapshot)
  /-- An axis and a rotation gave an orientation. -/
  | resolved (axis : Axis) (rotation : Rotation) (orientation : Orientation)
  /-- The engine is about to be told its platform. -/
  | initializing (host : String) (snapshot : Snapshot)
  /-- The bridge moved to its next phase. -/
  | transition (before after : Phase)
  /-- The engine took an orientation. -/
  | forwarded (orientation : Orientation) (changed : Bool)
  /-- A failure poisoned the bridge. -/
  | fatal (failure : Failure)
  /-- The host started a bridge that had started. -/
  | startedTwice
  /-- The host changed before the bridge was active. -/
  | changedTooEarly
  /-- An engine was registered. -/
  | registered
  /-- A registration came without an engine. -/
  | nullTable
  /-- A registration was refused. -/
  | registrationRejected (failure : Failure)
  /-- The native engine is called with a snapshot. -/
  | callingSnapshot
  /-- The native engine is called with an orientation. -/
  | callingOrientation (code : Int32)
  /-- The desktop host refuses a query on purpose. -/
  | injectedFailure (query : String)
  /-- The desktop host was asked to hide its controls. -/
  | immersiveNoted
  /-- The Android host hides its controls. -/
  | immersiveRequested (flags : Int32)
  /-- A failure ends the process. -/
  | aborting (failure : Failure)
  /-- The recording engine took a snapshot. -/
  | tookSnapshot (snapshot : Snapshot)
  /-- The recording engine took an orientation. -/
  | tookOrientation (orientation : Orientation)
  /-- A simulation starts, with the number of changes it will deliver. -/
  | simulationStarting (changes : Nat)
  /-- A simulation came to nothing. -/
  | simulationFailed (failure : Failure)
  deriving DecidableEq, Repr, Inhabited

namespace Event

def level : Event → Level
  | fatal _ | startedTwice | changedTooEarly | nullTable | registrationRejected _ | aborting _
  | simulationFailed _ => .error
  | defaultSettings .. | noCacheDir _ | injectedFailure _ => .warn
  | initializing .. | forwarded .. | registered | tookSnapshot _ | tookOrientation _
  | simulationStarting _ => .info
  | collected .. | resolved .. | transition .. | callingSnapshot | callingOrientation _
  | immersiveNoted | immersiveRequested _ => .debug

/-- The part of the program that reports the event. -/
def target : Event → String
  | defaultSettings .. => "hostlink_core::config"
  | noCacheDir _ | collected .. => "hostlink_bridge::collector"
  | resolved .. | initializing .. | transition .. | forwarded .. | fatal _ | startedTwice
  | changedTooEarly => "hostlink_bridge::lifecycle"
  | registered | nullTable | registrationRejected _ | callingSnapshot | callingOrientation _ =>
    "hostlink_bridge::engine"
  | injectedFailure _ | immersiveNoted => "hostlink_bridge::stub"
  | immersiveRequested _ | aborting _ => "hostlink_bridge::android"
  | tookSnapshot _ | tookOrientation _ => "hostlink_sim::engine"
  | simulationStarting _ | simulationFailed _ => "hostlink_sim"

def message : Event → String
  | defaultSettings .. => "using default bridge config"
  | noCacheDir _ => "host exposes no cache directory"
  | collected .. => "platform snapshot collected"
  | resolved .. => "orientation resolved"
  | initializing .. => "initializing engine"
  | transition .. => "lifecycle transition"
  | forwarded .. => "orientation forwarded"
  | fatal _ => "fatal bridge failure"
  | startedTwice => "onStart delivered twice"
  | changedTooEarly => "configuration change before onStart completed"
  | registered => "native engine registered"
  | nullTable => "engine registration with null table"
  | registrationRejected _ => "engine registration rejected"
  | callingSnapshot => "calling engine initialize_platform_info"
  | callingOrientation _ => "calling engine update_orientation"
  | injectedFailure _ => "stub host: injected failure"
  | immersiveNoted => "stub host: immersive mode requested"
  | immersiveRequested _ => "immersive mode requested"
  | aborting _ => "hostlink bridge failure, aborting"
  | tookSnapshot _ => "engine: platform info"
  | tookOrientation _ => "engine: orientation"
  | simulationStarting _ => "simulation starting"
  | simulationFailed _ => "simulation failed"

def failureFields (failure : Failure) : List (String × FieldValue) :=
  [("error", .shown failure.message), ("kind", .shown failure.kind.label)]

/-- The path that the event is about. -/
def path? : Event → Option String
  | defaultSettings path _ => some path
  | _ => none

/-- The fields of the event besides its path, in the order in which log lines show them. -/
def fields : Event → List (String × FieldValue)
  | defaultSettings _ failure => [("error", .shown failure.message)]
  | noCacheDir sentinel => [("sentinel", .shown sentinel)]
  | collected host s => [
      ("host", .text host),
      ("app_id", .shown s.appId),
      ("display", .shown (DisplaySize.mk s.screenWidth s.screenHeight).text),
      ("executable", .shown s.executablePath)]
  | resolved axis rotation orientation => [
      ("axis", .shown axis.label),
      ("degrees", .integer rotation.degrees),
      ("orientation", .shown orientation.text)]
  | initializing host s => [
      ("host", .text host),
      ("app_id", .shown s.appId),
      ("width", .integer s.screenWidth.toNat),
      ("height", .integer s.screenHeight.toNat)]
  | transition before after => [("from", .shown before.text), ("to", .shown after.text)]
  | forwarded orientation changed => [
      ("orientation", .shown orientation.text),
      ("code", .integer orientation.code.toInt),
      ("changed", .truth changed)]
  | fatal failure | aborting failure | simulationFailed failure => failureFields failure
  | registrationRejected failure => [("error", .shown failure.message)]
  | callingOrientation code => [("code", .integer code.toInt)]
  | injectedFailure query => [("query", .text query)]
  | immersiveRequested flags => [("flags", .integer flags.toInt)]
  | tookSnapshot s => [
      ("app_id", .shown s.appId),
      ("device", .shown (s.manufacturer ++ " " ++ s.model)),
      ("os", .shown s.osVersion),
      ("locale", .shown s.locale),
      ("cache_dir", .shown s.cacheDir),
      ("executable", .shown s.executablePath),
      ("width", .integer s.screenWidth.toNat),
      ("height", .integer s.screenHeight.toNat)]
  | tookOrientation orientation => [
      ("orientation", .shown orientation.text),
      ("code", .integer orientation.code.toInt)]
  | simulationStarting changes => [("changes", .integer changes)]
  | startedTwice | changedTooEarly | registered | nullTable | callingSnapshot | immersiveNoted => []

/-- All fields of the event; its path comes first. -/
def allFields (event : Event) : List (String × FieldValue) :=
  (event.path?.map fun path => ("path", .shown path)).toList ++ event.fields

end Event

def FieldValue.line : FieldValue → String
  | shown bare => bare
  | text value => Text.quoted value
  | integer value => toString value
  | truth value => toString value

/-- **An event as a log line.** -/
def Event.line (event : Event) : String :=
  let fields := event.allFields.map fun (name, value) => " " ++ name ++ "=" ++ value.line
  event.level.label ++ " " ++ event.target ++ ": " ++ event.message ++ String.join fields

end PlatformBridge.Log
