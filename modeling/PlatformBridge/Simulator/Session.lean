import PlatformBridge.Engine.Recorder
import PlatformBridge.Host.Desktop
import PlatformBridge.Lifecycle.Bridge
import PlatformBridge.Simulator.Change

/-!
Sessions: a desktop host starts its bridge and then changes its configuration, with the recording
engine on the other side. The summary tells what the engine took.
-/

namespace PlatformBridge.Simulator

/-- What came of a session. -/
structure Summary where
  host : String
  snapshot : Option Snapshot
  orientations : List Orientation
  finalPhase : Phase
  deriving DecidableEq, Repr, Inhabited

/-- A summary as a document; orientations are given by their codes. -/
def Summary.document (s : Summary) : Json.Value :=
  .object [
    ("host", .string s.host),
    ("platform_info", (s.snapshot.map Snapshot.schema.write).getD .null),
    ("orientations", .list (s.orientations.map fun o => .integer o.code.toInt)),
    ("final_state", Phase.codec.write s.finalPhase)]

namespace Session

/-- A desktop host and the recording engine with a bridge between them. -/
abbrev Stage : Type := Scene Desktop Engine.Recorder

def opening (profile : Profile) (settings : Settings) : Stage where
  bridge := { settings }
  host := { profile }
  engine := {}

/-- The device turns, and the host tells the bridge. -/
def apply (change : Change) : Bridge.Act Desktop Engine.Recorder Unit := do
  Bridge.onHost (.change fun d => (d.setRotation change.rotation).setAxis change.axis)
  Bridge.onConfigurationChanged Desktop.host Engine.Recorder.engine change.axis

/-- Applies changes in their order, up to the first failure. -/
def applyAll : List Change → Bridge.Act Desktop Engine.Recorder Unit
  | [] => pure ()
  | change :: changes => do
    apply change
    applyAll changes

def summary (stage : Stage) : Summary where
  host := Desktop.host.name stage.host
  snapshot := stage.engine.snapshot
  orientations := stage.engine.orientations
  finalPhase := stage.bridge.phase

/-- A start and the changes after it. -/
def play (changes : List Change) : Bridge.Act Desktop Engine.Recorder Summary := do
  Bridge.onStart Desktop.host Engine.Recorder.engine
  applyAll changes
  .inspect summary

/-- **A whole session.** -/
def run (profile : Profile) (settings : Settings) (changes : List Change) :
    Outcome Effect Failure Stage Summary :=
  play changes (opening profile settings)

end Session

end PlatformBridge.Simulator
