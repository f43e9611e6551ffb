import PlatformBridge.Action
import PlatformBridge.Engine.Boundary
import PlatformBridge.Log.Event

/-!
Engines: whatever takes the snapshot and the orientations. An engine is a stateful thing that may
reject a call and may leave effects of its own.
-/

namespace PlatformBridge

namespace Engine

/-- What an engine is told. -/
inductive Call where
  | snapshot (snapshot : Snapshot)
  | orientation (orientation : Orientation)
  deriving DecidableEq, Repr, Inhabited

/-- What an engine does besides taking calls: it logs, or crosses the native boundary. -/
inductive Effect where
  | logged (event : Log.Event)
  | crossed (table : Table) (call : NativeCall) (status : Int32)
  deriving DecidableEq, Repr, Inhabited

end Engine

/-- An engine with states of type `ε`. -/
structure Engine (ε : Type) where
  perform : Engine.Call → Action Engine.Effect Failure ε Unit

end PlatformBridge
