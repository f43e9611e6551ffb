import PlatformBridge.Lifecycle.Bridge
import PlatformBridge.Rehearsal.Engine
import PlatformBridge.Rehearsal.Host

/-!
Rehearsals of the bridge: a list of steps, played one after the other whatever comes of them, with
an entry for each.
-/

namespace PlatformBridge.Rehearsal

inductive Step where
  | deliver (delivery : Delivery)
  | adjust (adjustment : Desktop.Adjustment)
  | replaceHost (host : PlannedHost)
  | ask (query : Query)
  | askName
  | count (query : String)
  deriving DecidableEq, Repr, Inhabited

inductive Reply where
  | done
  | answered (query : Query) (answer : query.Answer)
  | name (name : String)
  | count (number : Nat)
  | failed (failure : Failure)

def Reply.ofResult : Except Failure Unit → Reply
  | .ok _ => done
  | .error failure => failed failure

/-- A step as it was played: the reply, the scene after it, its trail, and the queries that the
desktop host answered in it. -/
structure Entry (ε : Type) where
  reply : Reply
  scene : Scene PlannedHost ε
  trail : Trail
  answered : List Query

section

variable {ε : Type} (engine : Engine ε)

def playStep (scene : Scene PlannedHost ε) : Step → Reply × Scene PlannedHost ε × Trail
  | .deliver delivery =>
    let o := Bridge.deliver PlannedHost.host engine delivery scene
    (.ofResult o.result, o.state, o.trail)
  | .adjust adjustment =>
    (.done, { scene with host := scene.host.change (Desktop.adjust adjustment) }, [])
  | .replaceHost host => (.done, { scene with host }, [])
  | .ask query =>
    let o := Bridge.onHost (PlannedHost.host.query query) scene
    match o.result with
    | .ok answer => (.answered query answer, o.state, o.trail)
    | .error failure => (.failed failure, o.state, o.trail)
  | .askName => (.name (PlannedHost.host.name scene.host), scene, [])
  | .count query => (.count (scene.host.desktop.queryCount query), scene, [])

/-- **Plays the steps of a rehearsal.** -/
def play (scene : Scene PlannedHost ε) : List Step → List (Entry ε)
  | [] => []
  | step :: steps =>
    let (reply, after, trail) := playStep engine scene step
    let answered := after.host.desktop.answered.drop (scene.host.desktop.answered.length)
    ⟨reply, after, trail, answered⟩ :: play after steps

end

end PlatformBridge.Rehearsal
