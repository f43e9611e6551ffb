import PlatformBridge.Engine.Native

/-!
Engines that follow a plan: one rejects the calls that its plan says, the other is native code
that gives the statuses of its plan.
-/

namespace PlatformBridge.Rehearsal

open Engine (Call Table NativeCall Library)

/-- The next entry of a plan, and the plan after it. -/
def next {α : Type} (default : α) : List α → α × List α
  | [] => (default, [])
  | entry :: plan => (entry, plan)

/-- For each kind of call the failures to come, call by call; none where a call is accepted. -/
structure PlannedEngine where
  snapshots : List (Option Failure) := []
  orientations : List (Option Failure) := []
  deriving DecidableEq, Repr, Inhabited

namespace PlannedEngine

/-- What the plan has for a call, and the plan after it. -/
def consult (p : PlannedEngine) : Call → Option Failure × PlannedEngine
  | .snapshot _ =>
    let (entry, plan) := next none p.snapshots
    (entry, { p with snapshots := plan })
  | .orientation _ =>
    let (entry, plan) := next none p.orientations
    (entry, { p with orientations := plan })

/-- The engine that follows its plan. -/
def engine : Engine PlannedEngine where
  perform call := fun p =>
    match p.consult call with
    | (none, p) => ⟨.ok (), p, []⟩
    | (some failure, p) => ⟨.error failure, p, []⟩

end PlannedEngine

/-- For each kind of native call the statuses to come; zero past the end. -/
structure Statuses where
  snapshots : List Int32 := []
  orientations : List Int32 := []
  deriving DecidableEq, Repr, Inhabited

namespace Statuses

def respond (_ : Table) (call : NativeCall) (s : Statuses) : Int32 × Statuses :=
  match call with
  | .snapshot _ =>
    let (status, plan) := next 0 s.snapshots
    (status, { s with snapshots := plan })
  | .orientation _ =>
    let (status, plan) := next 0 s.orientations
    (status, { s with orientations := plan })

/-- Native code that gives the planned statuses. -/
def library : Library Statuses := ⟨respond⟩

end Statuses

end PlatformBridge.Rehearsal
