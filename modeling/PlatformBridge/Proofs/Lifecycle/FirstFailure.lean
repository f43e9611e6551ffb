import PlatformBridge.Proofs.Lifecycle.Forwarding

/-!
# The first failure decides a start

A start of a bridge that has not started makes up to twelve steps. The first one that fails is the
last one made, and its failure is what comes of the start. How far the start got can be told from
the bridge: before the engine accepted an orientation it remembers none.

* `Bridge.ToldNothing`, `Bridge.ToldOnce` — what the bridge remembers before and after that;
* `stopped_in_opening` — what a start has not done if it stops in its opening;
* `start_cases` — the three ways in which a start ends: it makes all steps, fails in its opening, or
  fails in asking for the immersive mode;
* `first_failure_decides` — what that means for the first start of any run.
-/

namespace PlatformBridge

open PlatformBridge.Action Engine
open Bridge (Step Followed)

/-! ### Calls and steps -/

namespace Trail

variable {t : Trail}

theorem calls_eq_nil (h : ∀ x ∈ t.steps, x.1.isCall = false) : t.calls = [] := by
  have hcalls := Bridge.filter_steps t
  rw [List.filter_eq_nil_iff.mpr fun x hx => by simp [h x hx]] at hcalls
  exact List.map_eq_nil_iff.mp hcalls.symm

/-- The engine accepts an orientation in a step only. -/
theorem accepted_eq_nil (h : (.orientation, .ok ()) ∉ t.steps) : t.accepted = [] := by
  rw [accepted, List.filterMap_eq_nil_iff]
  rintro ⟨call, reply⟩ hmem
  cases call with
  | snapshot snapshot => rfl
  | orientation orientation =>
    cases reply with
    | error e => rfl
    | ok u =>
      have hstep : (Step.orientation, .ok ()) ∈ t.steps.filter (·.1.isCall) := by
        rw [Bridge.filter_steps]
        exact List.mem_map_of_mem (f := Prod.map Call.step id) hmem
      exact absurd (List.mem_of_mem_filter hstep) h

end Trail

namespace Bridge

variable {σ ε : Type}

/-! ### What the bridge remembers of a start -/

/-- The engine has accepted no orientation. -/
structure ToldNothing (b : Bridge) : Prop where
  last : b.lastOrientation = none
  counted : b.updatesForwarded = 0

/-- The engine has accepted one orientation: that of the axis and the rotation that the host told. -/
structure ToldOnce (b : Bridge) (t : Trail) : Prop where
  resolved : ∃ axis rotation, t.axes = [axis] ∧ t.rotations = [rotation] ∧
    b.lastOrientation = some (.resolve axis rotation)
  counted : b.updatesForwarded = 1

theorem InTune.toldNothing {b : Bridge} {t : Trail} (h : InTune b t)
    (hsteps : (.orientation, .ok ()) ∉ t.steps) : ToldNothing b := by
  have hnone : t.accepted = [] := Trail.accepted_eq_nil hsteps
  constructor
  · rw [h.last, hnone]
    rfl
  · rw [h.counted, hnone]
    rfl

theorem InTune.toldOnce {b : Bridge} {t : Trail} (h : InTune b t) {snapshot : Snapshot} {axis : Axis}
    {rotation : Rotation} (hgist : t.gist = startGist snapshot axis rotation) : ToldOnce b t := by
  have haccepted : t.accepted = [.resolve axis rotation] := by
    rw [Trail.accepted, ← Trail.calls_gist, hgist]
    rfl
  refine ⟨⟨axis, rotation, ?_, ?_, ?_⟩, ?_⟩
  · rw [← Trail.axes_gist, hgist]
    rfl
  · rw [← Trail.rotations_gist, hgist]
    rfl
  · rw [h.last, haccepted]
    rfl
  · rw [h.counted, haccepted]
    rfl

/-! ### Where a start stops -/

/-- The steps of a start up to the active phase. -/
def openingSteps : List Step := survey ++ [.snapshot, .orientation]

/-- Before a step of the opening no orientation is told, and before one of the survey nothing is. -/
theorem opening_front {front back : List Step} {step : Step}
    (h : openingSteps = front ++ step :: back) :
    .orientation ∉ front ∧ (step ∈ survey → ∀ s ∈ front, s.isCall = false) := by
  constructor
  · -- What stands before some step of the opening stands before the last one.
    have hfront : openingSteps.dropLast = front ++ (step :: back).dropLast := by
      rw [h, List.dropLast_append_of_ne_nil (List.cons_ne_nil _ _)]
    intro hmem
    have hearly : .orientation ∈ openingSteps.dropLast := by
      rw [hfront]
      exact List.mem_append_left _ hmem
    exact absurd hearly (by decide)
  · intro hstep s hs
    have hquiet : ∀ s ∈ survey, s.isCall = false := by decide
    rcases List.append_eq_append_iff.mp h with ⟨rest, -, hlast⟩ | ⟨rest, hfront, -⟩
    · have hcall : step ∈ [Step.snapshot, .orientation] := by
        rw [hlast]
        exact List.mem_append_right _ List.mem_cons_self
      have hnone : ∀ s ∈ [Step.snapshot, .orientation], s ∉ survey := by decide
      exact absurd hstep (hnone step hcall)
    · exact hquiet s (by rw [hfront]; exact List.mem_append_left _ hs)

/-- **A start that stops in its opening**: the engine has accepted no orientation, and is not called at
all if it stops in the survey. -/
theorem stopped_in_opening {t : Trail} {front back : List Step} {step : Step} {e : Failure}
    (h : openingSteps = front ++ step :: back)
    (hsteps : t.steps = front.map (·, .ok ()) ++ [(step, .error e)]) :
    step ≠ .ask .requestImmersive ∧ (.orientation, .ok ()) ∉ t.steps ∧
      (step ∈ survey → t.calls = []) := by
  obtain ⟨hearly, hquiet⟩ := opening_front h
  refine ⟨?_, ?_, ?_⟩
  · rintro rfl
    have hmem : .ask .requestImmersive ∈ openingSteps := by
      rw [h]
      exact List.mem_append_right _ List.mem_cons_self
    exact absurd hmem (by decide)
  · rw [hsteps, List.mem_append, List.mem_map, List.mem_singleton]
    rintro (⟨s, hs, heq⟩ | heq)
    · cases heq
      exact hearly hs
    · cases heq
  · intro hstep
    refine Trail.calls_eq_nil fun x hx => ?_
    rw [hsteps, List.mem_append, List.mem_map, List.mem_singleton] at hx
    rcases hx with ⟨s, hs, rfl⟩ | rfl
    · exact hquiet hstep s hs
    · exact (by decide : ∀ s ∈ survey, s.isCall = false) step hstep

section

variable (host : Host σ) (engine : Engine ε) (s : Scene σ ε)

/-- **The three ways in which a start ends.** All steps of its plan succeed, the opening fails, or the
host refuses the immersive mode after the opening. -/
theorem start_cases :
    let o := start host engine s
    let t : Trail := o.trail
    let told := ∃ snapshot axis rotation, t.gist = startGist snapshot axis rotation
    (o.result = .ok () ∧ t.steps = (Delivery.plan s.bridge.settings .start).map (·, .ok ()) ∧ told) ∨
      (∃ e front step back, o.result = .error e ∧ openingSteps = front ++ step :: back ∧
        t.steps = front.map (·, .ok ()) ++ [(step, .error e)]) ∨
      ∃ e, o.result = .error e ∧ s.bridge.settings.immersive = true ∧ told ∧
        t.steps = openingSteps.map (·, .ok ()) ++ [(.ask .requestImmersive, .error e)] := by
  intro o t told
  have hopening := follows_opening host engine s
  have hwork : Followed _ o.result t.steps := followed_work host engine .start s
  have hsettings := (keptByMoves_settings host engine s.bridge.settings).opening s [] rfl
  rcases bind_cases (opening host engine) (fun _ => requestImmersive host) s with
    ⟨e, he, hb⟩ | ⟨⟨⟩, ha, hb⟩ <;> rw [← start_eq_opening] at hb
  · -- The opening fails, at one of its steps.
    rw [he] at hopening
    obtain ⟨front, step, back, hplan, hsteps⟩ := hopening.stopped_at
    refine Or.inr (Or.inl ⟨e, front, step, back, by rw [show o = _ from hb], hplan, ?_⟩)
    rw [show t = _ from congrArg Outcome.trail hb]
    exact hsteps
  · -- The opening succeeds, and what comes of asking for the immersive mode comes of the start.
    have htold : told := by
      obtain ⟨snapshot, axis, rotation, -, hgist⟩ := opening_of_ok ha
      refine ⟨snapshot, axis, rotation, ?_⟩
      rw [show t = _ from congrArg Outcome.trail hb, Trail.gist_append, hgist,
        gist_requestImmersive, List.append_nil]
    have himmersive := followed_requestImmersive host (opening host engine s).state
    rw [hsettings] at himmersive
    rw [ha] at hopening
    have hresult : o.result = (requestImmersive host (opening host engine s).state).result := by
      rw [show o = _ from hb]
    have hsteps : t.steps = openingSteps.map (·, .ok ()) ++
        Trail.steps (requestImmersive host (opening host engine s).state).trail := by
      rw [show t = _ from congrArg Outcome.trail hb, Trail.steps_append, hopening.eq_of_ok]
      rfl
    cases hcome : o.result with
    | ok u =>
      rw [hcome] at hwork
      exact Or.inl ⟨rfl, hwork.eq_of_ok, htold⟩
    | error e =>
      rw [← hresult, hcome] at himmersive
      generalize Trail.steps (requestImmersive host _).trail = made at himmersive hsteps
      cases hwanted : s.bridge.settings.immersive with
      | false =>
        rw [hwanted, if_neg Bool.false_ne_true] at himmersive
        cases himmersive
      | true =>
        rw [hwanted, if_pos rfl] at himmersive
        cases himmersive with
        | stopped => exact Or.inr (Or.inr ⟨e, rfl, rfl, htold, hsteps⟩)
        | passed _ hrest => cases hrest

end

end Bridge

/-! ### The first start of a run -/

namespace Run

variable {ε σ : Type}

/-- The first start of a run is a start of a bridge as it was made; guarding it adds no step. -/
theorem next_start {r : Run ε} (host : Host σ) (state : σ) (fresh : r.bridge.phase = .uninitialized) :
    let o := r.next ⟨host, state, .start⟩
    let x := Bridge.start host r.engine ⟨r.bridge, state, r.reached.2⟩
    o.result = x.result ∧ Trail.steps o.trail = Trail.steps x.trail ∧
      Trail.gist o.trail = Trail.gist x.trail ∧ Bridge.InTune o.state.bridge o.trail := by
  intro o x
  have hguard : o = Bridge.guarded (Bridge.start host r.engine) _ := Bridge.deliver_of_awaited fresh
  have htuned : Bridge.InTune o.state.bridge o.trail := by
    have htuned := (r.extend [⟨host, state, .start⟩]).consistent.inTune
    have hnone : r.trail = [] := by
      rw [trail, visits_of_uninitialized fresh]
      rfl
    rwa [bridge_visit, trail_visit, hnone, List.nil_append] at htuned
  refine ⟨?_, ?_, ?_, htuned⟩ <;>
    rcases Bridge.guarded_cases (Bridge.start host r.engine) ⟨r.bridge, state, r.reached.2⟩ with
      ⟨-, hg⟩ | ⟨e, he, hg⟩ <;> rw [hguard, hg]
  · exact he.symm
  · simp [x]
  · simp [x]

/-- **The first failure decides a start.** A bridge that has not started makes the steps of its plan, each
once and in order, whatever its settings, the host and the engine. The start succeeds exactly if all
steps that it made succeeded, and then these are all of the plan. Else it fails as the step did that
failed first, and that step is the last one made: a failure of the survey reaches the engine with no
call, and the bridge remembers no orientation, unless all that failed was the immersive mode. -/
theorem first_failure_decides (r : Run ε) (host : Host σ) (state : σ)
    (fresh : r.bridge.phase = .uninitialized) :
    let o := r.next ⟨host, state, .start⟩
    let t : Trail := o.trail
    let plan := Delivery.plan r.settings .start
    plan.Nodup ∧
    (o.result = .ok () ↔ ∀ x ∈ t.steps, x.2 = .ok ()) ∧
    (o.result = .ok () → t.steps = plan.map (·, .ok ())) ∧
    ∀ e, o.result = .error e → ∃ front step back, plan = front ++ step :: back ∧
      t.steps = front.map (·, .ok ()) ++ [(step, .error e)] ∧
      (step ∈ Bridge.survey → t.calls = []) ∧
      if step = .ask .requestImmersive then o.state.bridge.ToldOnce t
      else o.state.bridge.ToldNothing := by
  intro o t plan
  obtain ⟨hresult, hsteps, hgist, htuned⟩ := next_start host state fresh
  have hfollowed : Followed plan o.result t.steps := followed_next (v := ⟨host, state, .start⟩) fresh
  have hplan : plan = Bridge.openingSteps ++
      if r.settings.immersive then [.ask .requestImmersive] else [] := rfl
  have hcases := Bridge.start_cases host r.engine ⟨r.bridge, state, r.reached.2⟩
  simp only [← hresult, ← hsteps, ← hgist, settings_bridge] at hcases
  refine ⟨?_, ⟨?_, ?_⟩, ?_, ?_⟩
  · rw [hplan]
    cases r.settings.immersive <;> decide
  · intro hok x hx
    rw [hok] at hfollowed
    rw [hfollowed.eq_of_ok] at hx
    obtain ⟨step, -, rfl⟩ := List.mem_map.mp hx
    rfl
  · intro hall
    exact (hfollowed.ok_of_steps hall).choose_spec
  · intro hok
    rw [hok] at hfollowed
    exact hfollowed.eq_of_ok
  · intro e he
    rcases hcases with ⟨hok, -⟩ | ⟨e', front, step, back, he', hopening, hmade⟩ |
      ⟨e', he', hwanted, ⟨snapshot, axis, rotation, htold⟩, hmade⟩
    · cases he.symm.trans hok
    · cases he.symm.trans he'
      obtain ⟨himmersive, hnone, hsurvey⟩ := Bridge.stopped_in_opening hopening hmade
      refine ⟨front, step, back ++ _, by rw [hplan, hopening, List.append_assoc]; rfl, hmade, hsurvey, ?_⟩
      rw [if_neg himmersive]
      exact htuned.toldNothing hnone
    · cases he.symm.trans he'
      refine ⟨Bridge.openingSteps, _, [], by rw [hplan, hwanted]; rfl, hmade, ?_, ?_⟩
      · intro hstep
        exact absurd hstep (by decide)
      · rw [if_pos rfl]
        exact htuned.toldOnce htold

def waiting : Run Recorder where
  settings := {}
  engine := Recorder.engine
  memory := {}
  visits := []

/-- A desktop host that refuses the immersive mode ends the start at its last step. -/
theorem first_failure_decides_immersive :
    let o := waiting.next ⟨Desktop.host, { profile := { failQuery := "request_immersive" } }, .start⟩
    waiting.bridge.phase = .uninitialized ∧
      o.result = .error (.hostQuery "request_immersive" "injected failure") ∧
      (Trail.steps o.trail).length = 12 ∧ o.state.bridge.ToldOnce o.trail := by
  intro o
  have fresh : waiting.bridge.phase = .uninitialized := rfl
  have he : o.result = .error (.hostQuery "request_immersive" "injected failure") := by decide +kernel
  have hsteps : (Trail.steps o.trail).length = 12 := by decide +kernel
  obtain ⟨-, -, -, hfailed⟩ := first_failure_decides waiting Desktop.host
    { profile := { failQuery := "request_immersive" } } fresh
  obtain ⟨front, step, back, hplan, hmade, -, hremembers⟩ := hfailed _ he
  -- Twelve steps are all that the plan has, so the one that failed is the last.
  have hlength : front.length = 11 := by
    rw [show Trail.steps o.trail = _ from hmade] at hsteps
    simpa using hsteps
  have hstep : step = .ask .requestImmersive := by
    have hlast : (Delivery.plan waiting.settings .start)[11]? = some step := by
      rw [hplan, List.getElem?_append_right (by omega), hlength]
      rfl
    exact (Option.some.inj hlast).symm
  rw [if_pos hstep] at hremembers
  exact ⟨fresh, he, hsteps, hremembers⟩

end Run

end PlatformBridge
