import PlatformBridge.Engine.Basic

/-!
The recording engine: it takes every call, logs it and keeps it.
-/

namespace PlatformBridge.Engine

/-- What the recording engine has been told: the latest snapshot and all orientations. -/
structure Recorder where
  snapshot : Option Snapshot := none
  orientations : List Orientation := []
  deriving DecidableEq, Repr, Inhabited

namespace Recorder

def record (r : Recorder) : Call → Recorder
  | .snapshot s => { r with snapshot := some s }
  | .orientation o => { r with orientations := r.orientations ++ [o] }

def event : Call → Log.Event
  | .snapshot s => .tookSnapshot s
  | .orientation o => .tookOrientation o

def engine : Engine Recorder where
  perform call := fun r => ⟨.ok (), r.record call, [.logged (event call)]⟩

end Recorder

end PlatformBridge.Engine
