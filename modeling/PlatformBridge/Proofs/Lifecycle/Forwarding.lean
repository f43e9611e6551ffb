import PlatformBridge.Engine.Recorder
import PlatformBridge.Proofs.Lifecycle.Itinerary

/-!
# Every change is forwarded

A run in which nothing fails: hosts answer every query, each time as they please, and the engine
accepts every call. Then the engine is handed the snapshot that was collected and is told one
orientation for the start and one for each change, in order and with the rotation of that moment,
also if it is the same as before.

* `gist t` — the part of a trail that bears on orientations: the axes and rotations that were asked
  for, and the calls;
* `start_of_ok`, `update_of_ok` — the gist of a start and of an update that succeed;
* `forwards_every_change` — the calls of a whole run without failure.
-/

namespace PlatformBridge

open PlatformBridge.Action Engine

/-! ### The gist of a trail -/

def Effect.rotation? : Effect → Option Rotation
  | asked .displayRotation (.ok rotation) => some rotation
  | _ => none

def Effect.axis? : Effect → Option Axis
  | asked .axisOrientation (.ok axis) => some axis
  | _ => none

/-- The effect bears on orientations. -/
def Effect.isPertinent : Effect → Bool
  | asked .displayRotation _ | asked .axisOrientation _ | called .. => true
  | _ => false

namespace Trail

def rotations (t : Trail) : List Rotation := t.filterMap Effect.rotation?

def axes (t : Trail) : List Axis := t.filterMap Effect.axis?

/-- What bears on orientations, in order. -/
def gist (t : Trail) : Trail := t.filter Effect.isPertinent

/-- Nothing failed: every query was answered and every call accepted. -/
def Smooth (t : Trail) : Prop := ∀ x ∈ t.steps, x.2 = .ok ()

instance (t : Trail) : Decidable t.Smooth :=
  inferInstanceAs (Decidable (∀ x ∈ t.steps, x.2 = .ok ()))

theorem smooth_append {t u : Trail} : (t ++ u).Smooth ↔ t.Smooth ∧ u.Smooth := by
  simp [Smooth, or_imp, forall_and]

@[simp] theorem gist_nil : gist [] = [] := rfl

@[simp] theorem gist_append (t u : Trail) : gist (t ++ u) = gist t ++ gist u := List.filter_append ..

@[simp] theorem gist_called (call : Engine.Call) (reply : Except Failure Unit) (t : Trail) :
    gist (.called call reply :: t) = .called call reply :: gist t := rfl

@[simp] theorem gist_rotation (reply : Except Failure Rotation) (t : Trail) :
    gist (.asked .displayRotation reply :: t) = .asked .displayRotation reply :: gist t := rfl

@[simp] theorem gist_axis (reply : Except Failure Axis) (t : Trail) :
    gist (.asked .axisOrientation reply :: t) = .asked .axisOrientation reply :: gist t := rfl

@[simp] theorem gist_logged (event : Log.Event) (t : Trail) : gist (.logged event :: t) = gist t :=
  rfl

@[simp] theorem gist_map_host (t : List Host.Effect) : gist (t.map .host) = [] := by
  simp [gist, Effect.isPertinent]

@[simp] theorem gist_map_engine (t : List Engine.Effect) : gist (t.map .engine) = [] := by
  simp [gist, Effect.isPertinent]

theorem rotations_gist (t : Trail) : (gist t).rotations = t.rotations := by
  refine filterMap_filter (fun effect h => ?_) t
  unfold Effect.isPertinent at h
  split at h <;> simp_all [Effect.rotation?]

theorem axes_gist (t : Trail) : (gist t).axes = t.axes := by
  refine filterMap_filter (fun effect h => ?_) t
  unfold Effect.isPertinent at h
  split at h <;> simp_all [Effect.axis?]

theorem calls_gist (t : Trail) : (gist t).calls = t.calls := by
  refine filterMap_filter (fun effect h => ?_) t
  cases effect with
  | called call reply => cases h
  | _ => rfl

theorem gist_eq_nil {t : Trail} (h : ∀ x ∈ t.steps,
    x.1 ≠ .ask .axisOrientation ∧ x.1 ≠ .ask .displayRotation ∧ x.1.isCall = false) :
    gist t = [] := by
  rw [gist, List.filter_eq_nil_iff]
  intro effect hmem hpertinent
  have hstep : ∀ x, effect.step? = some x → x ∈ t.steps := fun x hx =>
    List.mem_filterMap.mpr ⟨effect, hmem, hx⟩
  unfold Effect.isPertinent at hpertinent
  split at hpertinent
  · exact (h _ (hstep _ rfl)).2.1 rfl
  · exact (h _ (hstep _ rfl)).1 rfl
  · rename_i call reply
    cases call <;> cases (h _ (hstep _ rfl)).2.2
  · cases hpertinent

end Trail

namespace Bridge

variable {σ ε α β : Type} {host : Host σ} {engine : Engine ε}

/-! ### The gist of what succeeds -/

/-- The gist of a start. -/
def startGist (snapshot : Snapshot) (axis : Axis) (rotation : Rotation) : Trail :=
  [.asked .axisOrientation (.ok axis), .asked .displayRotation (.ok rotation),
    .called (.snapshot snapshot) (.ok ()), .called (.orientation (.resolve axis rotation)) (.ok ())]

/-- The gist of a change. -/
def changeGist (axis : Axis) (rotation : Rotation) : Trail :=
  [.asked .displayRotation (.ok rotation),
    .called (.orientation (.resolve axis rotation)) (.ok ())]

theorem Follows.gist_eq_nil {plan : List Step} {x : Action Effect Failure σ α}
    (h : Follows plan x) (hplan : ∀ step ∈ plan, step ≠ .ask .axisOrientation ∧
      step ≠ .ask .displayRotation ∧ step.isCall = false) (s : σ) :
    Trail.gist (x s).trail = [] :=
  Trail.gist_eq_nil fun y hy => hplan _ ((h s).mem_plan y hy)

theorem gist_collect (settings : Settings) (s : Scene σ ε) :
    Trail.gist (onHost (collect host settings) s).trail = [] :=
  (follows_onHost (follows_collect host settings)).gist_eq_nil (by decide) s

theorem gist_transition (phase : Phase) (s : Scene σ ε) :
    Trail.gist (transition phase s).trail = [] :=
  (follows_transition phase).gist_eq_nil nofun s

theorem gist_requestImmersive (s : Scene σ ε) :
    Trail.gist (requestImmersive host s).trail = [] := by
  refine Trail.gist_eq_nil fun y hy => ?_
  have hmem := (followed_requestImmersive host s).mem_plan y hy
  split at hmem
  · rw [List.mem_singleton.mp hmem]
    decide
  · cases hmem

theorem gist_query {q : Query} {s : Scene σ ε} {a : q.Answer}
    (h : (onHost (host.query q) s).result = .ok a) :
    Trail.gist (onHost (host.query q) s).trail =
      Trail.gist [.asked q (.ok a)] := by
  change (host.ask q s.host).result = .ok a at h
  simp [onHost, Host.query, h]

theorem gist_invoke {call : Call} {s : Scene σ ε}
    (h : (onEngine (engine.invoke call) s).result = .ok ()) :
    Trail.gist (onEngine (engine.invoke call) s).trail =
      [.called call (.ok ())] := by
  change (engine.perform call s.engine).result = .ok () at h
  simp [onEngine, Engine.invoke, h]

theorem gist_bind_of_ok {x : Act σ ε α} {f : α → Act σ ε β} {s : Scene σ ε} {b : β}
    (h : ((x >>= f) s).result = .ok b) : ∃ a s', (x s).result = .ok a ∧ (f a s').result = .ok b ∧
      Trail.gist ((x >>= f) s).trail = Trail.gist (x s).trail ++ Trail.gist (f a s').trail := by
  obtain ⟨a, ha, hb⟩ := bind_of_ok h
  rw [hb] at h ⊢
  exact ⟨a, _, ha, h, Trail.gist_append ..⟩

theorem currentOrientation_of_ok {axis : Axis} {s : Scene σ ε} {orientation : Orientation}
    (h : (currentOrientation host axis s).result = .ok orientation) :
    ∃ rotation, orientation = .resolve axis rotation ∧
      Trail.gist (currentOrientation host axis s).trail = [.asked .displayRotation (.ok rotation)] := by
  obtain ⟨rotation, s', hrotation, hresolved, hgist⟩ := gist_bind_of_ok h
  refine ⟨rotation, ?_, ?_⟩
  · cases hresolved
    rfl
  · rw [show Trail.gist (currentOrientation host axis s).trail = _ from hgist, gist_query hrotation]
    rfl

theorem forward_of_ok {orientation : Orientation} {s : Scene σ ε}
    (h : (forward engine orientation s).result = .ok ()) :
    Trail.gist (forward engine orientation s).trail = [.called (.orientation orientation) (.ok ())] := by
  rcases forward_cases engine orientation s with ⟨-, hf⟩ | ⟨e, -, hf⟩ <;> rw [hf] at h ⊢
  · simp
  · cases h

/-- **An update that succeeds** tells the orientation for the rotation that the host tells. -/
theorem update_of_ok {axis : Axis} {s : Scene σ ε} (h : (update host engine axis s).result = .ok ()) :
    ∃ rotation, Trail.gist (update host engine axis s).trail = changeGist axis rotation := by
  obtain ⟨orientation, s', horientation, hforward, hgist⟩ := gist_bind_of_ok h
  obtain ⟨rotation, rfl, hrotation⟩ := currentOrientation_of_ok horientation
  refine ⟨rotation, ?_⟩
  rw [show Trail.gist (update host engine axis s).trail = _ from hgist, hrotation,
    forward_of_ok hforward]
  rfl

/-- An opening that succeeds hands over the snapshot that it collects, and tells the orientation for
the axis and the rotation that the host tells. -/
theorem opening_of_ok {s : Scene σ ε} (h : (opening host engine s).result = .ok ()) :
    ∃ snapshot axis rotation,
      (collect host s.bridge.settings s.host).result = .ok snapshot ∧
      Trail.gist (opening host engine s).trail = startGist snapshot axis rotation := by
  rw [opening, inspect_bind] at h ⊢
  obtain ⟨snapshot, s₁, hsnapshot, h, hgist₁⟩ := gist_bind_of_ok h
  obtain ⟨axis, s₂, haxis, h, hgist₂⟩ := gist_bind_of_ok h
  obtain ⟨orientation, s₃, horientation, h, hgist₃⟩ := gist_bind_of_ok h
  rw [inspect_bind] at h hgist₃
  obtain ⟨_, s₄, -, h, hgist₄⟩ := gist_bind_of_ok h
  obtain ⟨_, s₅, hcall, h, hgist₅⟩ := gist_bind_of_ok h
  obtain ⟨_, s₆, -, h, hgist₆⟩ := gist_bind_of_ok h
  obtain ⟨_, s₇, hforward, h, hgist₇⟩ := gist_bind_of_ok h
  obtain ⟨rotation, rfl, hrotation⟩ := currentOrientation_of_ok horientation
  refine ⟨snapshot, axis, rotation, hsnapshot, ?_⟩
  rw [hgist₁, hgist₂, hgist₃, hgist₄, hgist₅, hgist₆, hgist₇, gist_collect, gist_query haxis,
    hrotation, gist_invoke hcall, gist_transition, forward_of_ok hforward, gist_transition]
  rfl

/-- **A start that succeeds** leaves the gist of its opening. -/
theorem start_of_ok {s : Scene σ ε} (h : (start host engine s).result = .ok ()) :
    ∃ snapshot axis rotation,
      (collect host s.bridge.settings s.host).result = .ok snapshot ∧
      Trail.gist (start host engine s).trail = startGist snapshot axis rotation := by
  rw [start_eq_opening] at h ⊢
  obtain ⟨_, s', hopening, -, hgist⟩ := gist_bind_of_ok h
  obtain ⟨snapshot, axis, rotation, hsnapshot, hopened⟩ := opening_of_ok hopening
  refine ⟨snapshot, axis, rotation, hsnapshot, ?_⟩
  rw [hgist, hopened, gist_requestImmersive, List.append_nil]

theorem deliver_of_ok {d : Delivery} {s : Scene σ ε} (h : (deliver host engine d s).result = .ok ()) :
    s.bridge.phase = d.awaited ∧ (work host engine d s).result = .ok () ∧
      deliver host engine d s = work host engine d s := by
  obtain ⟨-, ha, -⟩ := (deliver_ends host engine d s).resolve_right fun ⟨e, he, _⟩ => by
    cases he.symm.trans h
  rw [deliver_of_awaited ha] at h ⊢
  rcases guarded_cases (work host engine d) s with ⟨hr, hg⟩ | ⟨e, -, hg⟩
  · exact ⟨ha, hr, hg⟩
  · rw [hg] at h
    cases h

end Bridge

namespace Run

variable {ε : Type}

/-! ### A run without failure -/

theorem next_of_smooth {r : Run ε} {v : Visit} (h : r.bridge.phase = v.delivery.awaited)
    (smooth : Trail.Smooth (r.next v).trail) : (r.next v).result = .ok () :=
  ((followed_next h).ok_of_steps smooth).choose_spec

theorem first_of_smooth {r : Run ε} {v : Visit} (fresh : r.visits = []) (start : v.delivery = .start)
    (smooth : Trail.Smooth (r.next v).trail) :
    ∃ snapshot axis rotation,
      (collect v.host r.settings v.state).result = .ok snapshot ∧
      Trail.gist (r.next v).trail = Bridge.startGist snapshot axis rotation := by
  have hbridge : r.bridge = { settings := r.settings } := by
    simp [bridge, reached, fresh]
  have hok := next_of_smooth (by rw [hbridge, start]; rfl) smooth
  obtain ⟨-, hwork, hdeliver⟩ := Bridge.deliver_of_ok hok
  rw [start] at hwork hdeliver
  obtain ⟨snapshot, axis, rotation, hsnapshot, hgist⟩ := Bridge.start_of_ok hwork
  refine ⟨snapshot, axis, rotation, ?_, ?_⟩
  · rw [hbridge] at hsnapshot
    exact hsnapshot
  · rw [next, start, hdeliver]
    exact hgist

theorem later_of_smooth {r : Run ε} {v : Visit} {axis : Axis} (active : r.bridge.phase = .active)
    (change : v.delivery = .configurationChanged axis) (smooth : Trail.Smooth (r.next v).trail) :
    ∃ rotation, Trail.gist (r.next v).trail = Bridge.changeGist axis rotation := by
  have hok := next_of_smooth (by rw [active, change]; rfl) smooth
  obtain ⟨-, hwork, hdeliver⟩ := Bridge.deliver_of_ok hok
  rw [change] at hwork hdeliver
  obtain ⟨rotation, hgist⟩ := Bridge.update_of_ok hwork
  refine ⟨rotation, ?_⟩
  rw [next, change, hdeliver]
  exact hgist

theorem phase_of_ok {r : Run ε} {v : Visit} (h : (r.next v).result = .ok ()) :
    (r.extend [v]).bridge.phase = .active := by
  rw [bridge_visit]
  rcases Bridge.deliver_ends v.host r.engine v.delivery ⟨r.bridge, v.state, r.reached.2⟩ with
    ⟨-, -, hphase⟩ | ⟨e, he, -⟩
  · exact hphase
  · cases he.symm.trans h

/-- **The gist of a run without failure** is that of its start and those of its changes. -/
theorem gist_of_smooth {r : Run ε} {first : Visit} {later : List Visit} {axes : List Axis}
    (visits : r.visits = first :: later) (start : first.delivery = .start)
    (changes : later.map (·.delivery) = axes.map .configurationChanged) (smooth : r.trail.Smooth) :
    ∃ snapshot axis rotation rotations,
      (collect first.host r.settings first.state).result = .ok snapshot ∧
      Trail.axes (({ r with visits := [] } : Run ε).next first).trail = [axis] ∧
      rotations.length = axes.length ∧ r.bridge.phase = .active ∧
      r.trail.gist = Bridge.startGist snapshot axis rotation ++
        (axes.zip rotations).flatMap fun told => Bridge.changeGist told.1 told.2 := by
  induction r using visit_induction generalizing later axes with
  | made => cases visits
  | visited r v ih =>
    rw [trail_visit, Trail.smooth_append] at smooth
    rw [trail_visit, Trail.gist_append]
    have hvisits : r.visits ++ [v] = first :: later := visits
    -- The last visit is the start itself, or a change behind it.
    rcases List.append_eq_cons_iff.mp hvisits with ⟨hfresh, hfirst⟩ | ⟨rest, hr, hrest⟩
    · cases hfirst
      cases List.map_eq_nil_iff.mp changes.symm
      have hbridge : r.bridge.phase = .uninitialized := by simp [bridge, reached, hfresh]
      obtain ⟨snapshot, axis, rotation, hsnapshot, hgist⟩ := first_of_smooth hfresh start smooth.2
      refine ⟨snapshot, axis, rotation, [], hsnapshot, ?_, rfl, ?_, ?_⟩
      · have hr : r = { r with visits := [] } := by rw [← hfresh]
        rw [← Trail.axes_gist]
        change Trail.axes (Trail.gist (({ r with visits := [] } : Run ε).next first).trail) = _
        rw [← hr, hgist]
        rfl
      · exact phase_of_ok (next_of_smooth (by rw [hbridge, start]; rfl) smooth.2)
      · rw [hgist, trail, hfresh]
        rfl
    · rw [hrest, List.map_append, eq_comm, List.map_eq_append_iff] at changes
      obtain ⟨axes, last, rfl, hchanges, hlast⟩ := changes
      obtain ⟨axis', _, rfl, haxis', hnil⟩ := List.map_eq_cons_iff.mp hlast
      cases List.map_eq_nil_iff.mp hnil
      have hchange : v.delivery = .configurationChanged axis' := haxis'.symm
      obtain ⟨snapshot, axis, rotation, rotations, hsnapshot, haxis, hlength, hactive, hgist⟩ :=
        ih hr hchanges.symm smooth.1
      obtain ⟨rotation', hgist'⟩ := later_of_smooth hactive hchange smooth.2
      refine ⟨snapshot, axis, rotation, rotations ++ [rotation'], hsnapshot, haxis, ?_, ?_, ?_⟩
      · simp [hlength]
      · exact phase_of_ok (next_of_smooth (by rw [hactive, hchange]; rfl) smooth.2)
      · rw [hgist, hgist', List.zip_append hlength.symm, List.flatMap_append, List.append_assoc]
        simp

/-- **Every change is forwarded.** After a start and changes to the axes, and no failure, the engine
has been handed the snapshot that the start collected and told one orientation for the start and one
for each change: that of the axis, which is the host's own only at the start, and of the rotation
that the host told then. -/
theorem forwards_every_change (r : Run ε) (first : Visit) (later : List Visit) (axes : List Axis)
    (visits : r.visits = first :: later) (start : first.delivery = .start)
    (changes : later.map (·.delivery) = axes.map .configurationChanged) (smooth : r.trail.Smooth) :
    ∃ snapshot axis,
      (collect first.host r.settings first.state).result = .ok snapshot ∧
      Trail.axes (({ r with visits := [] } : Run ε).next first).trail = [axis] ∧
      r.trail.axes = [axis] ∧ r.trail.rotations.length = axes.length + 1 ∧
      r.trail.calls =
        served snapshot (List.zipWith Orientation.resolve (axis :: axes) r.trail.rotations) ∧
      r.trail.calls.length = axes.length + 2 ∧
      r.bridge.phase = .active ∧ r.bridge.updatesForwarded = UInt64.ofNat (axes.length + 1) := by
  obtain ⟨snapshot, axis, rotation, rotations, hsnapshot, haxis, hlength, hactive, hgist⟩ :=
    gist_of_smooth visits start changes smooth
  -- Axes, rotations and calls are all views of the gist.
  have hview : ∀ {α : Type} {view : Effect → Option α} {xs : List α},
      r.trail.gist.filterMap view = xs →
        xs = (Bridge.startGist snapshot axis rotation).filterMap view ++ (axes.zip rotations).flatMap
          fun told => (Bridge.changeGist told.1 told.2).filterMap view := by
    intro α view xs hxs
    rw [← hxs, hgist, List.filterMap_append, List.filterMap_flatMap]
  have haxes : r.trail.axes = [axis] := by
    rw [hview (Trail.axes_gist r.trail)]
    change [axis] ++ (axes.zip rotations).flatMap (fun _ => []) = _
    simp
  have hrotations : r.trail.rotations = rotation :: rotations := by
    rw [hview (Trail.rotations_gist r.trail)]
    change [rotation] ++ (axes.zip rotations).flatMap (fun told => [told.2]) = _
    rw [← List.map_eq_flatMap, List.map_snd_zip (Nat.le_of_eq hlength)]
    rfl
  have hcalls : r.trail.calls =
      served snapshot (List.zipWith Orientation.resolve (axis :: axes) r.trail.rotations) := by
    rw [hrotations, hview (Trail.calls_gist r.trail)]
    change served snapshot [.resolve axis rotation] ++ (axes.zip rotations).flatMap
      (fun told => [(.orientation (.resolve told.1 told.2), .ok ())]) = _
    rw [← List.map_eq_flatMap, List.map_zip_eq_zipWith, List.zipWith_cons_cons]
    simp only [served, List.map_cons, List.map_zipWith]
    rfl
  refine ⟨snapshot, axis, hsnapshot, haxis, haxes, ?_, hcalls, ?_, hactive, ?_⟩
  · rw [hrotations, List.length_cons, hlength]
  · rw [hcalls, hrotations]
    simp [served, hlength]
  · rw [r.consistent.inTune.counted, Trail.accepted, hcalls, Bridge.accepted_served, hrotations]
    simp [hlength]

/-- A start, and two turns of the screen, each told by another host. -/
def turns : Run Recorder where
  settings := { immersive := false }
  engine := Recorder.engine
  memory := {}
  visits := [⟨Desktop.host, {}, .start⟩,
    ⟨Desktop.host, Desktop.setRotation .deg90 {}, .configurationChanged .landscape⟩,
    ⟨Desktop.host, Desktop.setAxis .portrait {}, .configurationChanged .landscape⟩]

theorem forwards_every_change_turns : turns.trail.Smooth ∧
    turns.trail.calls.drop 1 = [.landscape, .landscapeFlipped, .landscape].map
      (fun orientation => (.orientation orientation, .ok ())) := by
  have smooth : turns.trail.Smooth := by decide
  obtain ⟨snapshot, axis, -, -, haxes, -, hcalls, -⟩ :=
    forwards_every_change turns _ _ [.landscape, .landscape] rfl rfl rfl smooth
  refine ⟨smooth, ?_⟩
  have hrotations : turns.trail.rotations = [.deg0, .deg90, .deg0] := by decide
  have haxis : axis = .landscape := by
    have : turns.trail.axes = [.landscape] := by decide
    rw [haxes] at this
    exact List.head_eq_of_cons_eq this
  rw [hcalls, hrotations, haxis]
  rfl

end Run

end PlatformBridge
