import PlatformBridge.Engine.Recorder
import PlatformBridge.Proofs.Android.Answers
import PlatformBridge.Proofs.Engine.Crossing
import PlatformBridge.Proofs.Lifecycle.Itinerary

/-!
# What a failure tells

A bridge works with a host and an engine, and stands on guard itself. When a visit fails, the kind
of the failure tells which of the three broke.

* `Host.Supplied`, `Engine.Supplied` — the hosts and the engines that the bridge comes with;
* `Effect.Attributed` — a failed query is named by its failure, a failed call is what its failure is
  about; `keptByMoves_attributed`: over supplied hosts and engines nothing else happens;
* `Accounted supplied t` — the last call of the history was rejected exactly if it cannot be marshalled
  or native code answered it with another status than zero;
* `Bridge.failed_cases` — a delivery fails out of its place, or for a query or a call of its own;
  `Bridge.failsOnly_of_snapshots`: so what its failures have in common need be shown of snapshots alone;
* `steps_next_of_failed` — a visit that fails in its place ends with the step that failed;
* `failure_tells` — the kind of a failure tells what broke, and the failure names it.
-/

namespace PlatformBridge

open PlatformBridge.Action Engine
open Bridge (Act Step Followed KeptByMoves)

/-! ### Hosts and engines that come with the bridge -/

/-- The host is one that the bridge comes with: the desktop host, or the Android host with an
activity on a virtual machine. -/
inductive Host.Supplied : {σ : Type} → Host σ → Prop
  | desktop : Supplied Desktop.host
  | android {ν : Type} (m : Java.Machine ν) (activity : Java.Object) :
    Supplied (Android.host m activity)

/-- The engines that the bridge comes with: native code behind a table, and the recording engine. -/
inductive Engine.Supplied : Type → Type 1
  | native {ν : Type} (library : Library ν) (table : Table) : Supplied ν
  | recorder : Supplied Recorder

def Engine.Supplied.engine {ε : Type} : Supplied ε → Engine ε
  | native library table => Engine.native library table
  | recorder => Recorder.engine

def Failure.IsAbout (call : Call) : Failure → Prop
  | .boundary name _ => name = call.nativeName
  | _ => False

theorem Failure.Names.kind_eq {q : Query} {e : Failure} (h : e.Names q) : e.kind = .hostQuery := by
  cases e <;> first | rfl | cases h

theorem Failure.IsAbout.kind_eq {call : Call} {e : Failure} (h : e.IsAbout call) :
    e.kind = .boundary := by
  cases e <;> first | rfl | cases h

section

variable {σ ε : Type}

/-- **A supplied host fails only with failures that name the query.** -/
theorem Host.Supplied.names {host : Host σ} (h : host.Supplied) (q : Query) :
    FailsOnly (Failure.Names q) (host.ask q) := by
  intro s e he
  cases h with
  | desktop =>
    simp only [Desktop.host, Desktop.ask] at he
    split at he
    · cases he
      rfl
    · cases he
  | android m activity =>
    obtain ⟨-, hresult⟩ := Android.settled_ask (q := q) m activity s
    have hask : (Android.ask m activity q s).result = .error e := he
    rw [hask] at hresult
    exact hresult.2

/-- **A supplied engine fails only with failures about the call.** -/
theorem Engine.Supplied.isAbout (supplied : Engine.Supplied ε) (call : Call) :
    FailsOnly (Failure.IsAbout call) (supplied.engine.perform call) := by
  intro s e he
  cases supplied with
  | recorder => cases he
  | native library table =>
    simp only [Supplied.engine] at he
    rcases h : call.marshalled with refusal | raw
    · rw [perform_of_refused h] at he
      cases he
      rfl
    · rw [perform_of_marshalled h] at he
      simp only [checkStatus] at he
      split at he <;> cases he
      rfl

/-! ### Failures in the trail -/

/-- A query that failed is named by its failure; a call that failed is what its failure is about. -/
def Effect.Attributed : Effect → Prop
  | .asked q (.error e) => e.Names q
  | .called call (.error e) => e.IsAbout call
  | _ => True

/-- **Every failure in the trail is attributed** to what failed. -/
theorem keptByMoves_attributed {host : Host σ} (h : host.Supplied) (supplied : Engine.Supplied ε) :
    KeptByMoves host supplied.engine fun _ t => ∀ effect ∈ t, effect.Attributed := by
  refine Bridge.keptByMoves_of_leaves (fun q => ?_) (fun call => ?_) fun _ => trivial
  · refine Bridge.leaves_query (fun _ _ _ => trivial) fun s => ?_
    cases hresult : (host.ask q s).result with
    | ok a => trivial
    | error e => exact h.names q s e hresult
  · refine Bridge.leaves_invoke (fun _ _ _ => trivial) fun s => ?_
    cases hresult : (supplied.engine.perform call s).result with
    | ok a => trivial
    | error e => exact supplied.isAbout call s e hresult

end

/-! ### Why a call was rejected -/

/-- **The engine turns the call away**, with the history up to its reply: native code, because the call
cannot be marshalled or because it was the last one to cross and the status is not zero; the
recording engine never. -/
def Engine.Supplied.TurnsAway {ε : Type} : Engine.Supplied ε → Trail → Call → Prop
  | native _ table, t, call => call.crossing? = none ∨ ∃ raw status, call.crossing? = some raw ∧
      t.crossings.getLast? = some (table, raw, status) ∧ status ≠ 0
  | recorder, _, _ => False

section

variable {σ ε : Type} {supplied : Engine.Supplied ε} {t u : Trail}

theorem Engine.Supplied.turnsAway_congr (h : u.crossings = t.crossings) (call : Call) :
    supplied.TurnsAway u call ↔ supplied.TurnsAway t call := by
  cases supplied with
  | native library table => simp only [TurnsAway, h]
  | recorder => exact Iff.rfl

/-- **The last call is accounted for**: it was rejected exactly if the engine turned it away. -/
def Accounted (supplied : Engine.Supplied ε) (t : Trail) : Prop :=
  ∀ call reply, t.calls.getLast? = some (call, reply) →
    (reply ≠ .ok () ↔ supplied.TurnsAway t call)

namespace Accounted

theorem nil : Accounted supplied [] := by
  intro call reply hlast
  cases hlast

theorem append_of_quiet (h : Accounted supplied t) (hcalls : u.calls = [])
    (hcrossings : u.crossings = []) : Accounted supplied (t ++ u) := by
  intro call reply hlast
  have hsame : Trail.crossings (t ++ u) = t.crossings := by
    rw [Trail.crossings_append, hcrossings, List.append_nil]
  rw [Trail.calls_append, hcalls, List.append_nil] at hlast
  rw [Engine.Supplied.turnsAway_congr hsame]
  exact h call reply hlast

/-- After a call the last call is accounted for, whatever was before. -/
theorem after_invoke (supplied : Engine.Supplied ε) (t : Trail) (call : Call) (memory : ε) :
    Accounted supplied (t ++ (supplied.engine.invoke call memory).trail) := by
  intro call' reply hlast
  simp only [Engine.invoke] at hlast ⊢
  generalize ho : supplied.engine.perform call memory = o at hlast ⊢
  have heq : (call, o.result) = (call', reply) := by simpa using hlast
  cases heq
  cases supplied with
  | recorder =>
    have hok : o.result = .ok () := by rw [← ho]; rfl
    simp [hok, Engine.Supplied.TurnsAway]
  | native library table =>
    have hnative := native_cases library table call memory
    simp only [Engine.Supplied.engine] at ho
    rw [ho] at hnative
    rcases hnative with ⟨hnone, ⟨e, he⟩, -⟩ | ⟨raw, status, hsome, hresult, htrail⟩
    · simp [Engine.Supplied.TurnsAway, hnone, he]
    · have hcrossed : Trail.crossings (t ++ (o.trail.map .engine ++ [.called call o.result])) =
          t.crossings ++ [(table, raw, status)] := by simp [htrail]
      simp only [Engine.Supplied.TurnsAway]
      rw [hcrossed, hresult, hsome]
      by_cases hzero : status = 0 <;> simp [checkStatus, hzero]

end Accounted

theorem keptByMoves_accounted (host : Host σ) (supplied : Engine.Supplied ε) :
    KeptByMoves host supplied.engine fun _ t => Accounted supplied t := by
  refine Bridge.keptByMoves_of_calls (fun t u hcalls hcrossings h => ?_) fun call memory t _ => ?_
  · exact h.append_of_quiet hcalls hcrossings
  · exact .after_invoke supplied t call memory

/-- **The last call of the history was turned away** by the engine. -/
def Engine.Supplied.TurnedAway (supplied : Engine.Supplied ε) (t : Trail) : Prop :=
  ∃ call reply, t.calls.getLast? = some (call, reply) ∧ supplied.TurnsAway t call

theorem Accounted.turnedAway_iff (h : Accounted supplied t) :
    supplied.TurnedAway t ↔ ∃ call e, t.calls.getLast? = some (call, .error e) := by
  constructor
  · rintro ⟨call, reply, hlast, haway⟩
    cases reply with
    | ok u => exact absurd rfl ((h call (.ok ()) hlast).mpr haway)
    | error e => exact ⟨call, e, hlast⟩
  · rintro ⟨call, e, hlast⟩
    exact ⟨call, .error e, hlast, (h call (.error e) hlast).mp nofun⟩

end

/-! ### The step that failed -/

section

variable {t : Trail} {front : List Step} {step : Step} {q : Query} {e : Failure}

theorem Effect.of_step?_failed {effect : Effect} (h : effect.step? = some (step, .error e)) :
    (∃ q, step = .ask q ∧ effect = .asked q (.error e)) ∨
      ∃ call, step = call.step ∧ effect = .called call (.error e) := by
  cases effect with
  | asked q reply =>
    cases reply with
    | ok a => cases h
    | error e' =>
      cases h
      exact Or.inl ⟨q, rfl, rfl⟩
  | called call reply =>
    cases h
    exact Or.inr ⟨call, rfl, rfl⟩
  | logged event => cases h
  | host effect => cases h
  | engine effect => cases h

theorem Trail.mem_steps_ask : (.ask q, .error e) ∈ t.steps ↔ .asked q (.error e) ∈ t := by
  rw [Trail.steps, List.mem_filterMap]
  constructor
  · rintro ⟨effect, hmem, heffect⟩
    rcases Effect.of_step?_failed heffect with ⟨q', hq, rfl⟩ | ⟨call, hcall, -⟩
    · cases hq
      exact hmem
    · cases call <;> cases hcall
  · intro hmem
    exact ⟨_, hmem, rfl⟩

theorem Trail.of_mem_steps (h : (step, .error e) ∈ t.steps) :
    (∃ q, .asked q (.error e) ∈ t) ∨ ∃ call, .called call (.error e) ∈ t := by
  obtain ⟨effect, hmem, heffect⟩ := List.mem_filterMap.mp h
  rcases Effect.of_step?_failed heffect with ⟨q, -, rfl⟩ | ⟨call, -, rfl⟩
  · exact Or.inl ⟨q, hmem⟩
  · exact Or.inr ⟨call, hmem⟩

/-- **A delivery that fails** does so out of its place, or for a query or a call of its own. -/
theorem Bridge.failed_cases {σ ε : Type} {host : Host σ} {engine : Engine ε} {d : Delivery}
    {s : Scene σ ε} (h : (deliver host engine d s).result = .error e) :
    (e = .poisoned ∨ e = d.refusal) ∨
      (∃ q, .asked q (.error e) ∈ (deliver host engine d s).trail) ∨
      ∃ call, .called call (.error e) ∈ (deliver host engine d s).trail := by
  by_cases hp : s.bridge.phase = .poisoned
  · rw [deliver_of_poisoned hp] at h
    cases h
    exact Or.inl (Or.inl rfl)
  by_cases ha : s.bridge.phase = d.awaited
  · have hfollowed := followed_deliver host engine d s ha
    rw [h] at hfollowed
    obtain ⟨front, step, -, -, hsteps⟩ := hfollowed.stopped_at
    have hstep : (step, .error e) ∈ Trail.steps (deliver host engine d s).trail := by
      rw [hsteps]
      exact List.mem_append_right _ (List.mem_singleton.mpr rfl)
    exact Or.inr (Trail.of_mem_steps hstep)
  · rw [deliver_of_untimely hp ha] at h
    cases h
    exact Or.inl (Or.inr rfl)

/-- The engine's reply to a call is what it performs. -/
theorem Bridge.reply_of_called {σ ε : Type} {host : Host σ} {engine : Engine ε} {d : Delivery}
    {s : Scene σ ε} {call : Engine.Call}
    {reply : Except Failure Unit} (h : .called call reply ∈ (deliver host engine d s).trail) :
    ∃ memory, (engine.perform call memory).result = reply := by
  have hkept : KeptByMoves host engine fun _ t => ∀ effect ∈ t, ∀ call reply,
      effect = .called call reply → ∃ memory, (engine.perform call memory).result = reply := by
    refine keptByMoves_of_leaves (fun q => ?_) (fun call => ?_) fun _ _ _ => nofun
    · exact leaves_query (fun _ _ _ _ _ => nofun) fun _ _ _ => nofun
    · refine leaves_invoke (fun _ _ _ _ _ => nofun) fun memory call' reply' heq => ?_
      cases heq
      exact ⟨memory, rfl⟩
  exact hkept.deliver d s [] (List.forall_mem_nil _) _ h call reply rfl

/-- **Failures that have a property** in a delivery from a supplied host to a supplied engine: if all
failures have it that do not come of a snapshot, and those do that come of the snapshots handed over,
then all do. -/
theorem Bridge.failsOnly_of_snapshots {σ ε : Type} {host : Host σ} {E : Failure → Prop}
    (h : host.Supplied) (supplied : Engine.Supplied ε) (d : Delivery)
    (hother : ∀ e, (∀ detail, e ≠ .boundary "initialize_platform_info" detail) → E e)
    (hsnapshots : ∀ s snapshot reply,
      .called (.snapshot snapshot) reply ∈ (deliver host supplied.engine d s).trail →
        FailsOnly E (supplied.engine.perform (.snapshot snapshot))) :
    FailsOnly E (deliver host supplied.engine d) := by
  intro s e he
  have hattributed := (keptByMoves_attributed h supplied).deliver d s [] (List.forall_mem_nil _)
  rcases failed_cases he with (rfl | rfl) | ⟨q, hasked⟩ | ⟨call, hcalled⟩
  · exact hother _ nofun
  · refine hother _ fun detail => ?_
    cases d <;> exact nofun
  · have hnames : e.Names q := hattributed _ hasked
    refine hother _ ?_
    rintro detail rfl
    exact hnames
  · cases call with
    | orientation orientation =>
      have habout : e.IsAbout (.orientation orientation) := hattributed _ hcalled
      refine hother _ ?_
      rintro detail rfl
      have hname : "initialize_platform_info" = "update_orientation" := habout
      exact absurd hname (by decide)
    | snapshot snapshot =>
      obtain ⟨memory, hreply⟩ := reply_of_called hcalled
      exact hsnapshots s snapshot _ hcalled memory e hreply

/-- If the step that failed is a query, it is the last one, and every call was accepted. -/
theorem Trail.queries_of_failed (h : t.steps = front.map (·, .ok ()) ++ [(.ask q, .error e)]) :
    t.queries.getLast? = some q ∧ ∀ c ∈ t.calls, c.2 = .ok () := by
  constructor
  · rw [Trail.queries_eq, h]
    simp [Step.query?]
  · intro c hc
    have hmem : (c.1.step, c.2) ∈ t.steps.filter (·.1.isCall) := by
      rw [Bridge.filter_steps]
      exact List.mem_map_of_mem (f := Prod.map Call.step id) hc
    rw [h, List.mem_filter] at hmem
    obtain ⟨hmem, hcall⟩ := hmem
    rcases List.mem_append.mp hmem with hmem | hmem
    · obtain ⟨step, -, heq⟩ := List.mem_map.mp hmem
      exact (congrArg Prod.snd heq).symm
    · rw [List.mem_singleton.mp hmem] at hcall
      cases hcall

/-- If the step that failed is a call, it is the last one, and no query failed. -/
theorem Trail.calls_of_failed (h : t.steps = front.map (·, .ok ()) ++ [(step, .error e)])
    (hstep : step.isCall = true) :
    (∃ call, t.calls.getLast? = some (call, .error e)) ∧
      ∀ q e', .asked q (.error e') ∉ t := by
  constructor
  · have hcalls := Bridge.filter_steps t
    rw [h, List.filter_append, List.filter_singleton, hstep, cond_true] at hcalls
    obtain ⟨before, last, hsplit, -, hlast⟩ := List.map_eq_append_iff.mp hcalls.symm
    obtain ⟨⟨call, reply⟩, rest, rfl, hhead, hrest⟩ := List.map_eq_cons_iff.mp hlast
    cases hhead
    cases List.map_eq_nil_iff.mp hrest
    exact ⟨call, by rw [hsplit]; exact List.getLast?_concat⟩
  · intro q e' hmem
    have hsteps := Trail.mem_steps_ask.mpr hmem
    rw [h] at hsteps
    rcases List.mem_append.mp hsteps with hsteps | hsteps
    · obtain ⟨step', -, heq⟩ := List.mem_map.mp hsteps
      cases heq
    · cases List.mem_singleton.mp hsteps
      cases hstep

end

/-! ### Failures of a run -/

namespace Run

variable {ε : Type} {r : Run ε} {v : Visit} {e : Failure}

theorem steps_next_of_failed (ha : r.bridge.phase = v.delivery.awaited)
    (he : (r.next v).result = .error e) :
    ∃ (front : List Step) (step : Step),
      Trail.steps (r.next v).trail = front.map (·, .ok ()) ++ [(step, .error e)] := by
  have hfollowed := followed_next ha
  rw [he] at hfollowed
  obtain ⟨front, step, -, -, hsteps⟩ := hfollowed.stopped_at
  exact ⟨front, step, hsteps⟩

theorem calls_next_of_untimely (h : r.bridge.phase ≠ v.delivery.awaited) :
    Trail.calls (r.next v).trail = [] :=
  Bridge.calls_deliver_of_untimely v.host r.engine v.delivery _ h

theorem kind_of_untimely (h : r.bridge.phase ≠ v.delivery.awaited)
    (he : (r.next v).result = .error e) : e.kind = .protocolMisuse := by
  by_cases hp : r.bridge.phase = .poisoned
  · rw [next, Bridge.deliver_of_poisoned hp] at he
    cases he
    rfl
  · rw [next, Bridge.deliver_of_untimely hp h] at he
    cases he
    cases v.delivery <;> rfl

theorem accounted_next {supplied : Engine.Supplied ε} (h : r.engine = supplied.engine) :
    Accounted supplied (r.next v).trail := by
  rw [next, h]
  exact (keptByMoves_accounted v.host supplied).deliver v.delivery _ [] .nil

theorem attributed_next (hhost : v.host.Supplied) {supplied : Engine.Supplied ε}
    (h : r.engine = supplied.engine) : ∀ effect ∈ (r.next v).trail, effect.Attributed := by
  rw [next, h]
  exact (keptByMoves_attributed hhost supplied).deliver v.delivery _ [] (List.forall_mem_nil _)

/-- **A failure tells what broke.** Over the hosts and the engines that the bridge comes with, and
whatever visits there were before, let a visit fail. The failure is about the host exactly if a query
of the visit failed; then it names the last query, and every call of the visit was accepted. It is
about the boundary exactly if the last call was turned away, for it could not be marshalled or native
code answered with another status than zero; then it names that call. It is a misuse exactly if the
bridge was not in the phase that the delivery awaits; then nothing was asked and nothing called. It
is never about the setup. -/
theorem failure_tells (supplied : Engine.Supplied ε) (r : Run ε) (v : Visit) (e : Failure)
    (hengine : r.engine = supplied.engine) (hhost : v.host.Supplied)
    (he : (r.next v).result = .error e) :
    let t : Trail := (r.next v).trail
    (e.kind = .hostQuery ↔ ∃ q e', .asked q (.error e') ∈ t) ∧
    (e.kind = .hostQuery → (∃ q, t.queries.getLast? = some q ∧ e.Names q) ∧
      ∀ c ∈ t.calls, c.2 = .ok ()) ∧
    (e.kind = .boundary ↔ supplied.TurnedAway t) ∧
    (e.kind = .boundary → ∃ call reply, t.calls.getLast? = some (call, reply) ∧ e.IsAbout call) ∧
    (e.kind = .protocolMisuse ↔ r.bridge.phase ≠ v.delivery.awaited) ∧
    (e.kind = .protocolMisuse → t.queries = [] ∧ t.calls = []) ∧
    e.kind ≠ .setup := by
  intro t
  have haway : supplied.TurnedAway t ↔ ∃ call e, t.calls.getLast? = some (call, .error e) :=
    (accounted_next hengine).turnedAway_iff
  have hattributed : ∀ effect ∈ t, effect.Attributed := attributed_next hhost hengine
  by_cases ha : r.bridge.phase = v.delivery.awaited
  · obtain ⟨front, step, hsteps⟩ := steps_next_of_failed ha he
    have hsteps : t.steps = front.map (·, .ok ()) ++ [(step, .error e)] := hsteps
    by_cases hcall : step.isCall = true
    · -- The engine rejected a call.
      obtain ⟨⟨call, hlast⟩, hnone⟩ := Trail.calls_of_failed hsteps hcall
      have habout : e.IsAbout call :=
        hattributed _ (Trail.mem_calls.mp (List.mem_of_getLast? hlast))
      have hkind : e.kind = .boundary := habout.kind_eq
      rw [haway, hkind]
      refine ⟨?_, nofun, ?_, fun _ => ⟨call, _, hlast, habout⟩, ?_, nofun, nofun⟩
      · exact ⟨nofun, fun ⟨q, e', hmem⟩ => absurd hmem (hnone q e')⟩
      · exact ⟨fun _ => ⟨call, e, hlast⟩, fun _ => rfl⟩
      · exact ⟨nofun, fun hne => absurd ha hne⟩
    · -- The host did not answer.
      obtain ⟨q, rfl⟩ : ∃ q, step = .ask q := by
        cases step with
        | ask q => exact ⟨q, rfl⟩
        | snapshot => exact absurd rfl hcall
        | orientation => exact absurd rfl hcall
      obtain ⟨hlast, hok⟩ := Trail.queries_of_failed hsteps
      have hmem : .asked q (.error e) ∈ t := Trail.mem_steps_ask.mp (by rw [hsteps]; simp)
      have hnames : e.Names q := hattributed _ hmem
      have hkind : e.kind = .hostQuery := hnames.kind_eq
      rw [haway, hkind]
      refine ⟨?_, fun _ => ⟨⟨q, hlast, hnames⟩, hok⟩, ?_, nofun, ?_, nofun, nofun⟩
      · exact ⟨fun _ => ⟨q, e, hmem⟩, fun _ => rfl⟩
      · refine ⟨nofun, ?_⟩
        rintro ⟨call, e', hcalls⟩
        cases hok _ (List.mem_of_getLast? hcalls)
      · exact ⟨nofun, fun hne => absurd ha hne⟩
  · -- The bridge refused the delivery.
    have hkind : e.kind = .protocolMisuse := kind_of_untimely ha he
    have hqueries : t.queries = [] := queries_next_of_untimely ha
    have hcalls : t.calls = [] := calls_next_of_untimely ha
    rw [haway, hkind, hcalls]
    refine ⟨?_, nofun, ?_, nofun, ?_, fun _ => ⟨hqueries, rfl⟩, nofun⟩
    · refine ⟨nofun, ?_⟩
      rintro ⟨q, e', hmem⟩
      have hquery : q ∈ t.queries := List.mem_filterMap.mpr ⟨_, hmem, rfl⟩
      rw [hqueries] at hquery
      cases hquery
    · exact ⟨nofun, fun ⟨_, _, hlast⟩ => nomatch hlast⟩
    · exact ⟨fun _ => ha, fun _ => rfl⟩

/-- A start and a turn of the screen, with native code that answers the second orientation with the
status 7. -/
def refusedTurn : Run Rehearsal.Statuses where
  settings := {}
  engine := (Supplied.native Rehearsal.Statuses.library ⟨"rehearsal"⟩).engine
  memory := { orientations := [0, 7] }
  visits := [⟨Desktop.host, {}, .start⟩]

theorem failure_tells_refusedTurn :
    let v : Visit := ⟨Desktop.host, {}, .configurationChanged .portrait⟩
    let e := Failure.boundary "update_orientation" "engine returned status 7"
    (refusedTurn.next v).result = .error e ∧
      (Supplied.native Rehearsal.Statuses.library ⟨"rehearsal"⟩).TurnedAway (refusedTurn.next v).trail ∧
      refusedTurn.bridge.phase = .active := by
  intro v e
  have he : (refusedTurn.next v).result = .error e := by decide +kernel
  obtain ⟨-, -, hboundary, -, hmisuse, -⟩ := failure_tells (.native Rehearsal.Statuses.library
    ⟨"rehearsal"⟩) refusedTurn v e rfl .desktop he
  exact ⟨he, hboundary.mp rfl, not_not.mp (mt hmisuse.mpr nofun)⟩

end Run

end PlatformBridge
