import PlatformBridge.Host.Desktop

/-!
A desktop host with planned failures. A plan is a list of entries, each for one query: an entry
lets that query pass a number of times and refuses it from then on.
-/

namespace PlatformBridge.Rehearsal

/-- A planned failure: the query with the name passes `after` times. -/
structure Injection where
  query : String
  after : Nat := 0
  failure : Failure
  deriving DecidableEq, Repr, Inhabited

/-- What the plan has for a query, and the plan after it: entries are looked at in order, and the
first whose count is used up refuses. -/
def consult (q : Query) : List Injection → Option Failure × List Injection
  | [] => (none, [])
  | entry :: plan =>
    if entry.query ≠ q.name then
      let (refusal, plan) := consult q plan
      (refusal, entry :: plan)
    else if entry.after = 0 then (some entry.failure, entry :: plan)
    else
      let (refusal, plan) := consult q plan
      (refusal, { entry with after := entry.after - 1 } :: plan)

/-- A desktop host under a name of its own and with planned failures. -/
structure PlannedHost where
  name : String := Desktop.hostName
  plan : List Injection := []
  desktop : Desktop := {}
  deriving DecidableEq, Repr, Inhabited

namespace PlannedHost

/-- The answer to a query: the plan is consulted before the desktop host is asked. -/
def ask (q : Query) : Action Host.Effect Failure PlannedHost q.Answer := fun h =>
  match consult q h.plan with
  | (some failure, plan) => ⟨.error failure, { h with plan }, []⟩
  | (none, plan) =>
    let o := Desktop.ask q h.desktop
    ⟨o.result, { h with plan, desktop := o.state }, o.trail⟩

def host : Host PlannedHost := ⟨PlannedHost.name, ask⟩

def change (f : Desktop → Desktop) (h : PlannedHost) : PlannedHost :=
  { h with desktop := f h.desktop }

end PlannedHost

end PlatformBridge.Rehearsal
