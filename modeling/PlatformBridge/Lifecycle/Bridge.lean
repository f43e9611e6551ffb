import PlatformBridge.Lifecycle.Collection

/-!
The bridge between a host and an engine. The host's start makes the bridge collect a snapshot,
hand it to the engine and tell it the first orientation; each later change of the host's
configuration makes it tell the engine the orientation anew.

Events are guarded: a second start, a change before the start, and any failure on the way poison
the bridge, and a poisoned bridge does nothing more.
-/

namespace PlatformBridge

/-- What a bridge remembers. -/
structure Bridge where
  settings : Settings
  phase : Phase := .uninitialized
  lastOrientation : Option Orientation := none
  updatesForwarded : UInt64 := 0
  deriving DecidableEq, Repr, Inhabited

/-- A bridge with the host and the engine it stands between. -/
structure Scene (σ ε : Type) where
  bridge : Bridge
  host : σ
  engine : ε

/-- What a host delivers to its bridge. -/
inductive Delivery where
  | start
  | configurationChanged (axis : Axis)
  deriving DecidableEq, Repr, Inhabited

namespace Bridge

def noteUpdate (b : Bridge) (orientation : Orientation) : Bridge :=
  { b with lastOrientation := some orientation, updatesForwarded := b.updatesForwarded + 1 }

def moveTo (b : Bridge) (phase : Phase) : Bridge := { b with phase }

section

variable {σ ε α : Type}

abbrev Act (σ ε α : Type) : Type := Action Effect Failure (Scene σ ε) α

def onHost (x : Action Effect Failure σ α) : Act σ ε α :=
  x.zoom Scene.host fun host scene => { scene with host }

def onEngine (x : Action Effect Failure ε α) : Act σ ε α :=
  x.zoom Scene.engine fun engine scene => { scene with engine }

def change (f : Bridge → Bridge) : Act σ ε Unit :=
  .change fun scene => { scene with bridge := f scene.bridge }

def log (event : Log.Event) : Act σ ε Unit := .tell (.logged event)

/-- Moves to the next phase and says so. -/
def transition (phase : Phase) : Act σ ε Unit := do
  let before ← .inspect fun scene => scene.bridge.phase
  change (·.moveTo phase)
  log (.transition before phase)

/-- Whatever fails poisons the bridge. -/
def guarded (x : Act σ ε α) : Act σ ε α :=
  x.onFailure fun failure => do
    log (.fatal failure)
    change (·.moveTo .poisoned)

/-- Refuses an event that came out of order, which poisons the bridge. -/
def misuse (event : Log.Event) (failure : Failure) : Act σ ε α := do
  log event
  change (·.moveTo .poisoned)
  .fail failure

variable (host : Host σ) (engine : Engine ε)

/-- The orientation for an axis, with the rotation that the host tells now. -/
def currentOrientation (axis : Axis) : Act σ ε Orientation := do
  let rotation : Rotation ← onHost (host.query .displayRotation)
  let orientation := Orientation.resolve axis rotation
  log (.resolved axis rotation orientation)
  return orientation

def forward (orientation : Orientation) : Act σ ε Unit := do
  let last ← .inspect fun scene => scene.bridge.lastOrientation
  onEngine (engine.invoke (.orientation orientation))
  change (·.noteUpdate orientation)
  log (.forwarded orientation (last ≠ some orientation))

/-- Asks the host to hide its controls, if the settings say so. -/
def requestImmersive : Act σ ε Unit := do
  let wanted ← .inspect fun scene => scene.bridge.settings.immersive
  if wanted then onHost (host.query .requestImmersive) else pure ()

def start : Act σ ε Unit := do
  let settings ← .inspect fun scene => scene.bridge.settings
  let snapshot ← onHost (collect host settings)
  let axis : Axis ← onHost (host.query .axisOrientation)
  let orientation ← currentOrientation host axis
  let name ← .inspect fun scene => host.name scene.host
  log (.initializing name snapshot)
  onEngine (engine.invoke (.snapshot snapshot))
  transition .initialized
  forward engine orientation
  transition .active
  requestImmersive host

def update (axis : Axis) : Act σ ε Unit := do
  let orientation ← currentOrientation host axis
  forward engine orientation

/-- **The start of the host.** -/
def onStart : Act σ ε Unit := do
  let phase ← .inspect fun scene => scene.bridge.phase
  match phase with
  | .uninitialized => guarded (start host engine)
  | .poisoned => .fail .poisoned
  | .initialized | .active => misuse .startedTwice .alreadyStarted

/-- **A change of the host's configuration.** -/
def onConfigurationChanged (axis : Axis) : Act σ ε Unit := do
  let phase ← .inspect fun scene => scene.bridge.phase
  match phase with
  | .active => guarded (update host engine axis)
  | .poisoned => .fail .poisoned
  | .uninitialized | .initialized => misuse .changedTooEarly .notStarted

/-- **What a delivery does.** -/
def deliver : Delivery → Act σ ε Unit
  | .start => onStart host engine
  | .configurationChanged axis => onConfigurationChanged host engine axis

end

end Bridge

end PlatformBridge
