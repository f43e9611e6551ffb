import PlatformBridge.Engine.Basic
import PlatformBridge.Host.Basic

/-!
What happens while the bridge runs: it asks its host, calls its engine and logs; the host and the
engine have effects of their own in between. A trail is a list of such effects; the views below
give one kind of them each, in order.
-/

namespace PlatformBridge

/-- An effect of the bridge or of one of the two it stands between. -/
inductive Effect where
  /-- The host was asked, and replied. -/
  | asked (query : Query) (reply : Except Failure query.Answer)
  /-- The engine was called, and replied. -/
  | called (call : Engine.Call) (reply : Except Failure Unit)
  /-- The bridge logged an event. -/
  | logged (event : Log.Event)
  /-- The host did something of its own. -/
  | host (effect : Host.Effect)
  /-- The engine did something of its own. -/
  | engine (effect : Engine.Effect)

namespace Effect

/-- The event, if the effect is one, whoever logged it. -/
def event? : Effect → Option Log.Event
  | logged event | host (.logged event) | engine (.logged event) => some event
  | _ => none

def ownEvent? : Effect → Option Log.Event
  | logged event => some event
  | _ => none

def query? : Effect → Option Query
  | asked query _ => some query
  | _ => none

/-- The engine call and whether it was accepted, if the effect is one. -/
def call? : Effect → Option (Engine.Call × Except Failure Unit)
  | called call reply => some (call, reply)
  | _ => none

/-- The call across the native boundary, if the effect is one. -/
def crossing? : Effect → Option (Engine.Table × Engine.NativeCall × Int32)
  | engine (.crossed table call status) => some (table, call, status)
  | _ => none

end Effect

/-- A trail of effects. -/
abbrev Trail : Type := List Effect

namespace Trail

def events (t : Trail) : List Log.Event := t.filterMap Effect.event?

/-- The bridge's own events, in order. -/
def ownEvents (t : Trail) : List Log.Event := t.filterMap Effect.ownEvent?

def queries (t : Trail) : List Query := t.filterMap Effect.query?

/-- The engine calls with their replies, in order. -/
def calls (t : Trail) : List (Engine.Call × Except Failure Unit) := t.filterMap Effect.call?

def crossings (t : Trail) : List (Engine.Table × Engine.NativeCall × Int32) :=
  t.filterMap Effect.crossing?

end Trail

/-- Asks a host and keeps the reply in the trail. -/
def Host.query {σ : Type} (h : Host σ) (q : Query) :
    Action PlatformBridge.Effect Failure σ q.Answer := fun s =>
  let o := h.ask q s
  ⟨o.result, o.state, o.trail.map .host ++ [.asked q o.result]⟩

/-- Calls an engine and keeps the reply in the trail. -/
def Engine.invoke {ε : Type} (e : Engine ε) (call : Engine.Call) :
    Action PlatformBridge.Effect Failure ε Unit :=
  fun s =>
    let o := e.perform call s
    ⟨o.result, o.state, o.trail.map .engine ++ [.called call o.result]⟩

end PlatformBridge
