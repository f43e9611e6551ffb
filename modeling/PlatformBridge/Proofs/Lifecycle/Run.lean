import Mathlib.Data.List.Induction
import PlatformBridge.Proofs.Lifecycle.Ledger
import PlatformBridge.Rehearsal.Engine
import PlatformBridge.Host.Desktop

/-!
# Runs of a bridge

A bridge is made with settings and then visited any number of times. A visit is a delivery with the
host that makes it, in whatever state that host is by then; the next visit may come from another
host. The engine keeps its memory from one visit to the next.

* `orderly_calls` — the calls of a whole run: one snapshot, and once that is accepted the
  orientations, up to the first rejected call;
* `fails_for_good` — a visit fails exactly if it leaves the bridge poisoned, and then nothing at all
  is done any more;
* `balanced_ledger` — after every run the phase, the counter and the last orientation agree with the
  calls that the engine was made.
-/

namespace PlatformBridge

open PlatformBridge.Action Engine

/-- A delivery, with the host that makes it and the state that the host is in. -/
structure Visit where
  {σ : Type}
  host : Host σ
  state : σ
  delivery : Delivery

def Visit.play {ε : Type} (engine : Engine ε) (v : Visit) :
    Action Effect Failure (Bridge × ε) Unit := fun s =>
  let o := Bridge.deliver v.host engine v.delivery ⟨s.1, v.state, s.2⟩
  ⟨o.result, (o.state.bridge, o.state.engine), o.trail⟩

/-- A host that stays, and keeps its state from one delivery to the next, makes visits too. -/
theorem exists_visits {σ ε : Type} (host : Host σ) (engine : Engine ε) (deliveries : List Delivery)
    (s : Scene σ ε) : ∃ visits : List Visit, visits.map (·.delivery) = deliveries ∧
      let stayed := deliveries.map (Bridge.deliver host engine)
      let visited := visits.map (·.play engine)
      history visited (s.bridge, s.engine) = history stayed s ∧
        after visited (s.bridge, s.engine) =
          ((after stayed s).bridge, (after stayed s).engine) := by
  induction deliveries generalizing s with
  | nil => exact ⟨[], rfl, rfl, rfl⟩
  | cons d ds ih =>
    obtain ⟨visits, hvisits, htrail, hafter⟩ := ih (Bridge.deliver host engine d s).state
    refine ⟨⟨host, s.host, d⟩ :: visits, ?_, ?_, hafter⟩
    · rw [List.map_cons, hvisits]
    · simp only [List.map_cons, history_cons]
      rw [← htrail]
      rfl

/-- **A run**: a bridge made with the settings over the engine, and visits to it. -/
structure Run (ε : Type) where
  settings : Settings
  engine : Engine ε
  memory : ε
  visits : List Visit

namespace Run

variable {ε : Type}

/-- The bridge and the memory of its engine after the run. -/
def reached (r : Run ε) : Bridge × ε :=
  after (r.visits.map (·.play r.engine)) ({ settings := r.settings }, r.memory)

def bridge (r : Run ε) : Bridge := r.reached.1

def trail (r : Run ε) : Trail :=
  history (r.visits.map (·.play r.engine)) ({ settings := r.settings }, r.memory)

def next (r : Run ε) (v : Visit) : Outcome Effect Failure (Scene v.σ ε) Unit :=
  Bridge.deliver v.host r.engine v.delivery ⟨r.bridge, v.state, r.reached.2⟩

def extend (r : Run ε) (later : List Visit) : Run ε := { r with visits := r.visits ++ later }

theorem reached_extend (r : Run ε) (later : List Visit) :
    (r.extend later).reached = after (later.map (·.play r.engine)) r.reached := by
  simp [extend, reached]

theorem extend_extend (r : Run ε) (visits later : List Visit) :
    (r.extend visits).extend later = r.extend (visits ++ later) := by
  simp [extend, List.append_assoc]

theorem reached_visit (r : Run ε) (v : Visit) :
    (r.extend [v]).reached = ((r.next v).state.bridge, (r.next v).state.engine) := by
  rw [reached_extend]
  rfl

theorem bridge_visit (r : Run ε) (v : Visit) :
    (r.extend [v]).bridge = (r.next v).state.bridge := by
  rw [bridge, reached_visit]

/-- Runs grow by a visit at a time. -/
theorem visit_induction {P : Run ε → Prop} (r : Run ε) (made : P { r with visits := [] })
    (visited : ∀ r v, P r → P (r.extend [v])) : P r := by
  obtain ⟨settings, engine, memory, visits⟩ := r
  induction visits using List.reverseRecOn with
  | nil => exact made
  | append_singleton visits v ih => exact visited _ v (ih made)

/-- **The invariant of runs.** -/
theorem consistent (r : Run ε) : Bridge.Consistent r.bridge r.trail := by
  have hmade : Bridge.Consistent { settings := r.settings } [] := ⟨.idle, rfl, rfl⟩
  have hvisit : ∀ x ∈ r.visits.map (·.play r.engine),
      Keeps (fun s t => Bridge.Consistent s.1 t) x := by
    intro x hx s t h
    obtain ⟨v, -, rfl⟩ := List.mem_map.mp hx
    exact Bridge.consistent_deliver v.host r.engine v.delivery ⟨s.1, v.state, s.2⟩ h
  exact keeps_after hvisit (s := (_, r.memory)) hmade

/-- Visits to a poisoned bridge change nothing. -/
theorem reached_of_poisoned {r : Run ε} (h : r.bridge.phase = .poisoned) (later : List Visit) :
    (r.extend later).reached = r.reached := by
  rw [reached_extend]
  refine stays_after (P := (· = r.reached)) ?_ rfl
  rintro x hx _ rfl
  obtain ⟨v, -, rfl⟩ := List.mem_map.mp hx
  simp only [Visit.play]
  rw [Bridge.deliver_of_poisoned h]

theorem trail_of_poisoned {r : Run ε} (h : r.bridge.phase = .poisoned) (later : List Visit) :
    (r.extend later).trail = r.trail := by
  have hstill : ∀ x ∈ later.map (·.play r.engine),
      Keeps (fun s t => s = r.reached ∧ t = r.trail) x := by
    rintro x hx _ _ ⟨rfl, rfl⟩
    obtain ⟨v, -, rfl⟩ := List.mem_map.mp hx
    simp only [Visit.play]
    rw [Bridge.deliver_of_poisoned h]
    exact ⟨rfl, List.append_nil _⟩
  have hend := (keeps_after hstill ⟨rfl, rfl⟩).2
  simpa [trail, extend, reached] using hend

/-- A visit leaves the bridge active or poisoned. -/
theorem phase_visit (r : Run ε) (v : Visit) :
    (r.extend [v]).bridge.phase = .active ∨ (r.extend [v]).bridge.phase = .poisoned := by
  rw [bridge_visit]
  exact Bridge.phase_deliver ..

theorem visits_of_uninitialized {r : Run ε} (h : r.bridge.phase = .uninitialized) :
    r.visits = [] := by
  induction r using visit_induction with
  | made => rfl
  | visited r v _ =>
    rcases phase_visit r v with hp | hp <;> rw [hp] at h <;> cases h

theorem start_of_active {r : Run ε} (h : r.bridge.phase = .active) :
    ∃ v ∈ r.visits, v.delivery = .start := by
  induction r using visit_induction with
  | made => cases h
  | visited r v ih =>
    rw [bridge_visit] at h
    rcases Bridge.deliver_ends v.host r.engine v.delivery ⟨r.bridge, v.state, r.reached.2⟩ with
      ⟨-, ha, -⟩ | ⟨-, -, hp⟩
    · cases hd : v.delivery with
      | start => exact ⟨v, by simp [extend], hd⟩
      | configurationChanged axis =>
        rw [hd] at ha
        obtain ⟨u, hu, hs⟩ := ih ha
        exact ⟨u, List.mem_append_left _ hu, hs⟩
    · rw [next, hp] at h
      cases h

/-- A delivery that comes out of its place: a start that is not the first one, or a change of the
configuration before any start. -/
def Untimely (r : Run ε) : Delivery → Prop
  | .start => ∃ v ∈ r.visits, v.delivery = .start
  | .configurationChanged _ => ∀ v ∈ r.visits, v.delivery ≠ .start

theorem Untimely.phase_ne_awaited {r : Run ε} {d : Delivery} (h : r.Untimely d) :
    r.bridge.phase ≠ d.awaited := by
  intro ha
  cases d with
  | start =>
    obtain ⟨v, hv, -⟩ := h
    rw [visits_of_uninitialized ha] at hv
    cases hv
  | configurationChanged axis =>
    obtain ⟨v, hv, hs⟩ := start_of_active ha
    exact h v hv hs

end Run

/-! ### The calls of a run -/

/-- **The order in which an engine is called.** -/
structure Orderly (calls : List (Call × Except Failure Unit)) : Prop where
  /-- No call, one snapshot, or one snapshot and orientations. -/
  shape : calls = [] ∨ (∃ snapshot reply, calls = [(.snapshot snapshot, reply)]) ∨
    ∃ snapshot reply updates, updates ≠ [] ∧
      calls = (.snapshot snapshot, reply) :: updates.map (Prod.map .orientation id)
  once : (calls.filterMap handed?).length ≤ 1
  /-- An orientation is told only after a snapshot was accepted. -/
  accepted : ∀ before orientation reply later,
    calls = before ++ (.orientation orientation, reply) :: later →
      ∃ snapshot, (.snapshot snapshot, .ok ()) ∈ before
  /-- A rejected call is the last one. -/
  last : ∀ before call e later, calls = before ++ (call, .error e) :: later → later = []

theorem later_eq_nil_of_rejected {front before later : List (Call × Except Failure Unit)}
    {c : Call × Except Failure Unit} {call : Call} {e : Failure} (h : ∀ c ∈ front, c.2 = .ok ())
    (hsplit : front ++ [c] = before ++ (call, .error e) :: later) : later = [] := by
  rcases List.eq_nil_or_concat later with rfl | ⟨later', c', rfl⟩
  · rfl
  · rw [List.concat_eq_append, ← List.cons_append, ← List.append_assoc] at hsplit
    obtain ⟨rfl, -⟩ := List.append_inj' hsplit rfl
    cases h (call, .error e) (by simp)

theorem Bridge.Told.orderly {phase : Phase} {calls : List (Call × Except Failure Unit)}
    (h : Bridge.Told phase calls) : Orderly calls := by
  refine ⟨?_, ?_, ?_, ?_⟩
  · rcases h.snapshot_first with hc | ⟨snapshot, reply, updates, hc, -⟩
    · exact Or.inl hc
    · by_cases hupdates : updates = []
      · rw [hupdates] at hc
        exact Or.inr (Or.inl ⟨snapshot, reply, hc⟩)
      · exact Or.inr (Or.inr ⟨snapshot, reply, updates, hupdates, hc⟩)
  · rcases h.snapshot_first with rfl | ⟨snapshot, reply, updates, rfl, -⟩
    · simp
    · simp [List.filterMap_map, Function.comp_def, handed?]
  · intro before orientation reply later hsplit
    rcases h.snapshot_first with rfl | ⟨snapshot, reply', updates, rfl, hreply⟩
    · simp at hsplit
    rcases List.cons_eq_append_iff.mp hsplit with ⟨-, hhead⟩ | ⟨before', rfl, hrest⟩
    · cases hhead
    · have hupdates : updates ≠ [] := by
        rintro rfl
        simp at hrest
      rw [hreply.resolve_left hupdates]
      exact ⟨snapshot, List.mem_cons_self⟩
  · intro before call e later hsplit
    rcases h.forms with rfl | ⟨snapshot, e, rfl⟩ | ⟨snapshot, orientations, -, rfl⟩ |
      ⟨snapshot, orientations, orientation, e, rfl⟩
    · simp at hsplit
    · exact later_eq_nil_of_rejected (List.forall_mem_nil _) hsplit
    · have hmem : (call, .error e) ∈ served snapshot orientations := by
        rw [hsplit]
        exact List.mem_append_right _ List.mem_cons_self
      cases ok_of_mem_served hmem
    · exact later_eq_nil_of_rejected (fun _ => ok_of_mem_served) hsplit

namespace Run

variable {ε : Type}

/-- **The calls of every run are in order.** -/
theorem orderly_calls (r : Run ε) : Orderly r.trail.calls :=
  r.consistent.told.orderly

/-! ### Failure -/

/-- **A bridge fails for good.** A visit fails exactly if it leaves the bridge poisoned; from then
on every visit, of whatever host, fails as poisoned, leaves no trail and changes nothing. A delivery
out of its place fails with no query and no call. -/
theorem fails_for_good (r : Run ε) (v : Visit) :
    let o := r.next v
    ((∃ e, o.result = .error e) ↔ o.state.bridge.phase = .poisoned) ∧
    ((∃ e, o.result = .error e) → ∀ later w, (r.extend (v :: later)).next w =
      ⟨.error .poisoned, ⟨o.state.bridge, w.state, o.state.engine⟩, []⟩) ∧
    (r.bridge.phase ≠ v.delivery.awaited → (∃ e, o.result = .error e) ∧
      Trail.queries o.trail = [] ∧ Trail.calls o.trail = []) ∧
    (r.Untimely v.delivery → r.bridge.phase ≠ v.delivery.awaited) := by
  intro o
  have hends := Bridge.deliver_ends v.host r.engine v.delivery ⟨r.bridge, v.state, r.reached.2⟩
  have hpoison : (∃ e, o.result = .error e) ↔ o.state.bridge.phase = .poisoned := by
    rcases hends with ⟨hok, -, hactive⟩ | ⟨e, he, hpoisoned⟩
    · simp [o, next, hok, hactive]
    · simp [o, next, he, hpoisoned]
  refine ⟨hpoison, ?_, ?_, Untimely.phase_ne_awaited⟩
  · intro hfailed later w
    have hphase : (r.extend [v]).bridge.phase = .poisoned := by
      rw [bridge_visit]
      exact hpoison.mp hfailed
    have hstill : (r.extend (v :: later)).reached = (o.state.bridge, o.state.engine) := by
      rw [← reached_visit, ← reached_of_poisoned hphase later, extend_extend]
      rfl
    have hlater : (r.extend (v :: later)).bridge.phase = .poisoned := by
      rw [bridge, hstill]
      exact hpoison.mp hfailed
    rw [next, Bridge.deliver_of_poisoned hlater, bridge, hstill]
  · intro hphase
    refine ⟨?_, Bridge.queries_deliver_of_untimely v.host r.engine v.delivery _ hphase,
      Bridge.calls_deliver_of_untimely v.host r.engine v.delivery _ hphase⟩
    rcases hends with ⟨-, ha, -⟩ | ⟨e, he, -⟩
    · exact absurd ha hphase
    · exact ⟨e, he⟩

/-! ### The ledger -/

/-- The bridge was poisoned by the engine when it rejected an orientation: some visit found it in
another phase, failed as the engine did, and left it poisoned. -/
def PoisonedByUpdate (r : Run ε) : Prop :=
  ∃ before v later, r.visits = before ++ v :: later ∧
    let past : Run ε := { r with visits := before }
    let o := past.next v
    past.bridge.phase ≠ .poisoned ∧ o.state.bridge.phase = .poisoned ∧
      ∃ orientation e, o.result = .error e ∧
        (.orientation orientation, .error e) ∈ Trail.calls o.trail

theorem poisonedByUpdate_iff (r : Run ε) :
    r.PoisonedByUpdate ↔ ∃ orientation e, (.orientation orientation, .error e) ∈ r.trail.calls := by
  constructor
  · rintro ⟨before, v, later, hvisits, -, -, orientation, e, -, hmem⟩
    refine ⟨orientation, e, Trail.mem_calls.mpr (mem_history.mpr ⟨before.map (·.play r.engine),
      v.play r.engine, later.map (·.play r.engine), ?_, ?_⟩)⟩
    · rw [hvisits, List.map_append, List.map_cons]
    · exact Trail.mem_calls.mp hmem
  · rintro ⟨orientation, e, hmem⟩
    obtain ⟨xs, x, ys, hxs, hx⟩ := mem_history.mp (Trail.mem_calls.mp hmem)
    obtain ⟨before, rest, hvisits, rfl, hrest⟩ := List.map_eq_append_iff.mp hxs
    obtain ⟨v, later, rfl, rfl, rfl⟩ := List.map_eq_cons_iff.mp hrest
    obtain ⟨hphase, hresult, hpoisoned⟩ := Bridge.deliver_of_rejected v.host r.engine v.delivery
      ⟨_, v.state, _⟩ (Trail.mem_calls.mpr hx)
    exact ⟨before, v, later, hvisits, hphase, hpoisoned, orientation, e, hresult,
      Trail.mem_calls.mpr hx⟩

/-- **The ledger of every run is balanced**: the phase, the counter and the last orientation agree
with the calls that the engine was made, as long as the counter does not overflow. -/
theorem balanced_ledger (r : Run ε) (few : r.trail.accepted.length < UInt64.size) :
    r.bridge.phase ≠ .initialized ∧
    r.bridge.updatesForwarded.toNat = r.trail.accepted.length ∧
    r.bridge.lastOrientation = r.trail.accepted.getLast? ∧
    (r.bridge.phase = .uninitialized → r.trail.calls = []) ∧
    (r.bridge.phase = .active → (∃ snapshot, r.trail.handed = [(snapshot, .ok ())]) ∧
      1 ≤ r.bridge.updatesForwarded.toNat ∧ ∀ c ∈ r.trail.calls, c.2 = .ok ()) ∧
    (r.trail.updates.length = r.bridge.updatesForwarded.toNat ∧ ¬ r.PoisonedByUpdate ∨
      r.trail.updates.length = r.bridge.updatesForwarded.toNat + 1 ∧ r.PoisonedByUpdate) := by
  obtain ⟨htold, htuned⟩ := r.consistent
  have hcount : r.bridge.updatesForwarded.toNat = r.trail.accepted.length := by
    rw [htuned.counted]
    exact UInt64.toNat_ofNat_of_lt' few
  refine ⟨?_, hcount, htuned.last, ?_, ?_, ?_⟩
  · intro h
    rw [h] at htold
    cases htold
  · intro h
    rw [h] at htold
    exact Bridge.told_uninitialized.mp htold
  · intro h
    rw [h] at htold
    rw [hcount, Trail.accepted, Trail.handed]
    generalize r.trail.calls = calls at htold
    cases htold with
    | serving snapshot orientations nonempty =>
      refine ⟨⟨snapshot, Bridge.handed_served snapshot orientations⟩, ?_,
        fun c => Bridge.ok_of_mem_served⟩
      rw [Bridge.accepted_served]
      exact List.length_pos_iff.mpr nonempty
  · rw [hcount, poisonedByUpdate_iff, Trail.accepted, Trail.updates]
    rcases htold.forms with hc | ⟨snapshot, e, hc⟩ | ⟨snapshot, orientations, -, hc⟩ |
      ⟨snapshot, orientations, orientation, e, hc⟩ <;> rw [hc]
    · simp
    · simp [List.filterMap_cons, acceptedUpdate?, update?]
    · refine Or.inl ⟨by simp, ?_⟩
      rintro ⟨orientation, e, hmem⟩
      cases Bridge.ok_of_mem_served hmem
    · exact Or.inr ⟨by simp [acceptedUpdate?, update?], orientation, e, by simp⟩

/-- A start, and a turn of the screen that the engine rejects. -/
def rejectedTurn : Run Rehearsal.PlannedEngine where
  settings := {}
  engine := Rehearsal.PlannedEngine.engine
  memory :=
    { orientations := [none, some (.boundary "update_orientation" "engine returned status 7")] }
  visits := [⟨Desktop.host, {}, .start⟩, ⟨Desktop.host, {}, .configurationChanged .portrait⟩]

theorem balanced_ledger_rejectedTurn :
    rejectedTurn.trail.accepted.length < UInt64.size ∧
      rejectedTurn.trail.updates.length = rejectedTurn.bridge.updatesForwarded.toNat + 1 ∧
      rejectedTurn.PoisonedByUpdate := by
  have few : rejectedTurn.trail.accepted.length < UInt64.size := by decide
  obtain ⟨-, -, -, -, -, hbalance⟩ := balanced_ledger rejectedTurn few
  exact ⟨few, hbalance.resolve_left fun h => absurd h.1 (by decide)⟩

end Run

end PlatformBridge
