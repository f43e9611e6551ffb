import PlatformBridge.Engine.Registry
import PlatformBridge.Lifecycle.Bridge

/-!
Rehearsals of registration: native code registers tables, engine handles and bridges are made over
the registered one, and used. One host serves every bridge.
-/

namespace PlatformBridge.Rehearsal.Registration

open Engine (Table Registry Library)

/-- A step of a rehearsal. Handles and bridges are counted from the latest one on. -/
inductive Step where
  | registerNative (table : Option Table)
  | register (table : Table)
  /-- Makes an engine handle. -/
  | handle
  /-- Tells a handle an orientation. -/
  | update (which : Nat) (orientation : Orientation)
  /-- Makes a bridge with the default settings. -/
  | adapter
  | deliver (which : Nat) (delivery : Delivery)
  deriving DecidableEq, Repr, Inhabited

inductive Reply where
  | done
  | code (code : Int32)
  | noEngine
  | noAdapter
  | failed (failure : Failure)
  deriving DecidableEq, Repr, Inhabited

def Reply.ofResult : Except Failure Unit → Reply
  | .ok _ => done
  | .error failure => failed failure

/-- What a rehearsal remembers: the slot, the handles and the bridges with their tables, the
latest first, the host, and all that native code remembers. -/
structure Stage (σ ν : Type) where
  registry : Registry := {}
  handles : List Table := []
  adapters : List (Table × Bridge) := []
  host : σ
  native : ν

structure Entry (σ ν : Type) where
  reply : Reply
  stage : Stage σ ν
  trail : Trail

section

variable {σ ν : Type} (host : Host σ) (library : Library ν)

def playStep (s : Stage σ ν) : Step → Entry σ ν
  | .registerNative table =>
    let o := Registry.registerNative table s.registry
    let reply := match o.result with
      | .ok code => .code code.value
      | .error failure => .failed failure
    ⟨reply, { s with registry := o.state }, o.trail.map .engine⟩
  | .register table =>
    let o := Registry.register table s.registry
    ⟨.ofResult o.result, { s with registry := o.state }, o.trail.map .engine⟩
  | .handle =>
    match s.registry.registered with
    | .ok table => ⟨.done, { s with handles := table :: s.handles }, []⟩
    | .error failure => ⟨.failed failure, s, []⟩
  | .update which orientation =>
    match s.handles[which]? with
    | none => ⟨.noEngine, s, []⟩
    | some table =>
      let o := (Engine.native library table).invoke (.orientation orientation) s.native
      ⟨.ofResult o.result, { s with native := o.state }, o.trail⟩
  | .adapter =>
    match s.registry.registered with
    | .ok table => ⟨.done, { s with adapters := (table, { settings := {} }) :: s.adapters }, []⟩
    | .error failure => ⟨.failed failure, s, []⟩
  | .deliver which delivery =>
    match s.adapters[which]? with
    | none => ⟨.noAdapter, s, []⟩
    | some (table, bridge) =>
      let o := Bridge.deliver host (Engine.native library table) delivery
        ⟨bridge, s.host, s.native⟩
      ⟨.ofResult o.result,
        { s with
          adapters := s.adapters.set which (table, o.state.bridge)
          host := o.state.host
          native := o.state.engine },
        o.trail⟩

/-- **Plays the steps of a rehearsal.** -/
def play (s : Stage σ ν) : List Step → List (Entry σ ν)
  | [] => []
  | step :: steps =>
    let entry := playStep host library s step
    entry :: play entry.stage steps

end

end PlatformBridge.Rehearsal.Registration
