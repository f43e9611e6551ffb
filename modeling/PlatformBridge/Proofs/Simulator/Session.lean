import PlatformBridge.Proofs.Host.Survey
import PlatformBridge.Simulator.Session

/-!
# What comes of a session

A session succeeds or fails with its start. A start fails only for a query that the profile
refuses; once it succeeded, that query is not the one that changes make, and the recording engine
takes everything.

* `start_recorded` — the start of a session;
* `Underway stage` — a stage on which no change can fail, with `apply_underway`, one change, and
  `applyAll_underway`, all of them;
* `comes_to` — so the result of a session can be written down from the profile, the settings and the
  changes.
-/

namespace PlatformBridge.Simulator

/-- The orientation to which the device turns. -/
def Change.orientation (change : Change) : Orientation := .resolve change.axis change.rotation

namespace Session

open PlatformBridge.Action
open Engine (Recorder Yields)

/-! ### The recording engine takes everything -/

theorem forward_recorded {σ : Type} (orientation : Orientation) (s : Scene σ Recorder) :
    let o := Bridge.forward Recorder.engine orientation s
    o.result = .ok () ∧ o.state = ⟨s.bridge.noteUpdate orientation, s.host,
      { s.engine with orientations := s.engine.orientations ++ [orientation] }⟩ := by
  rcases Bridge.forward_cases Recorder.engine orientation s with ⟨-, hf⟩ | ⟨e, he, -⟩
  · rw [hf]
    exact ⟨rfl, rfl⟩
  · cases he

theorem introduce_recorded {σ : Type} (host : Host σ) (snapshot : Snapshot)
    (orientation : Orientation) (s : Scene σ Recorder) :
    let o := Bridge.introduce host Recorder.engine snapshot orientation s
    o.result = .ok () ∧ o.state.host = s.host ∧ o.state.bridge.phase = .active ∧
      o.state.bridge.settings = s.bridge.settings ∧
      o.state.engine = ⟨some snapshot, s.engine.orientations ++ [orientation]⟩ := by
  simp [Bridge.introduce, Bridge.transition, Bridge.forward, Bridge.log, Bridge.change, Bridge.onEngine,
    Engine.invoke, Recorder.engine, Recorder.record, Bridge.moveTo, Bridge.noteUpdate, bind_apply]

/-! ### The start -/

/-- **The start of a session** fails for the first query that the profile refuses. If there is none
the engine has recorded the snapshot and the orientation that the profile spells. -/
theorem start_recorded (profile : Profile) (settings : Settings) :
    let o := Bridge.onStart Desktop.host Recorder.engine (opening profile settings)
    Yields ((Bridge.startQueries settings).flatMap profile.refusals) o.result fun _ =>
      o.state.bridge.phase = .active ∧ o.state.host.profile = profile ∧
      o.state.engine = ⟨some (profile.snapshot settings), [profile.orientation]⟩ := by
  let P (stage : Stage) : Prop := stage.bridge.phase = .active ∧ stage.host.profile = profile ∧
    stage.engine = ⟨some (profile.snapshot settings), [profile.orientation]⟩
  refine Bridge.yields_guarded (P := P) ?_
  rw [Bridge.startQueries_eq, List.flatMap_append]
  have hp : (opening profile settings).host.profile = profile := rfl
  have hs : (opening profile settings).bridge.settings = settings := rfl
  rcases Bridge.start_over_desktop Recorder.engine hp hs with
    ⟨e, rest, hfaults, he, -, -⟩ | ⟨hnone, s, t, hprofile, hbridge, hengine, -, hlater⟩
  · rw [hfaults]
    exact he
  · rw [hnone, List.nil_append]
    -- The engine takes everything, so what can still fail is the request at the end.
    obtain ⟨hok, hhost, hphase, hsettings, hrecord⟩ := introduce_recorded Desktop.host
      (profile.snapshot settings) profile.orientation s
    have hlast := Bridge.found_requestImmersive (Bridge.introduce Desktop.host Recorder.engine
      (profile.snapshot settings) profile.orientation s).state
    rw [hsettings, hhost, hbridge, hprofile] at hlast
    rw [hlater, bind_after_ok _ hok]
    refine hlast.result.mono fun _ _ => ⟨?_, hlast.profile, ?_⟩
    · exact (congrArg Bridge.phase hlast.bridge).trans hphase
    · refine hlast.engine.trans (hrecord.trans ?_)
      rw [hengine]
      rfl

/-! ### The changes -/

/-- A stage on which no change can fail: the bridge is active, and the rotation is told. -/
structure Underway (stage : Stage) : Prop where
  active : stage.bridge.phase = .active
  willing : stage.host.profile.failQuery ≠ some Query.displayRotation.name

/-- **A change succeeds**, and the engine has recorded one more orientation. -/
theorem apply_underway (change : Change) {stage : Stage} (h : Underway stage) :
    let o := apply change stage
    o.result = .ok () ∧ Underway o.state ∧ o.state.engine =
      { stage.engine with orientations := stage.engine.orientations ++ [change.orientation] } := by
  intro o
  let turned : Stage :=
    { stage with host := (stage.host.setRotation change.rotation).setAxis change.axis }
  have ho : o = Bridge.deliver Desktop.host Recorder.engine (.configurationChanged change.axis) turned :=
    rfl
  rw [Bridge.deliver_of_awaited h.active] at ho
  -- The rotation is told, and it is the one of the change.
  have htold : [Query.displayRotation].flatMap turned.host.profile.refusals = [] :=
    Profile.refusals_eq_nil_iff.mpr fun q hq => List.mem_singleton.mp hq ▸ h.willing
  have hfound := Bridge.finds_currentOrientation (ε := Recorder) change.axis turned rfl
  rw [htold] at hfound
  obtain ⟨⟨orientation, hfirst, horientation⟩, hprofile, hbridge, hengine, -⟩ := hfound
  have hok : (Bridge.currentOrientation Desktop.host change.axis turned).result =
      .ok change.orientation := by
    rw [hfirst, horientation]
    rfl
  obtain ⟨hforwarded, hstate⟩ := forward_recorded change.orientation
    (Bridge.currentOrientation Desktop.host change.axis turned).state
  have hupdate : Bridge.work Desktop.host Recorder.engine (.configurationChanged change.axis) turned = _ :=
    bind_after_ok (Bridge.forward Recorder.engine) hok
  rcases Bridge.guarded_cases (Bridge.work Desktop.host Recorder.engine
    (.configurationChanged change.axis)) turned with ⟨hr, hg⟩ | ⟨e, he, -⟩
  · rw [ho, hg, hupdate]
    refine ⟨hforwarded, ?_, ?_⟩ <;> rw [hstate]
    · refine ⟨(congrArg Bridge.phase hbridge).trans h.active, ?_⟩
      rw [hprofile]
      exact h.willing
    · rw [hengine]
  · rw [hupdate] at he
    cases he.symm.trans hforwarded

/-- **All changes succeed**, and the engine has recorded their orientations in order. -/
theorem applyAll_underway (changes : List Change) {stage : Stage} (h : Underway stage) :
    let o := applyAll changes stage
    o.result = .ok () ∧ Underway o.state ∧ o.state.engine =
      { stage.engine with
        orientations := stage.engine.orientations ++ changes.map Change.orientation } := by
  induction changes generalizing stage with
  | nil => exact ⟨rfl, h, by simp [applyAll]⟩
  | cons change changes ih =>
    obtain ⟨hok, hunderway, hrecord⟩ := apply_underway change h
    obtain ⟨hlast, hend, hall⟩ := ih hunderway
    have hboth : applyAll (change :: changes) stage = _ := bind_after_ok _ hok
    rw [hboth]
    refine ⟨hlast, hend, hall.trans ?_⟩
    rw [hrecord]
    simp

/-! ### The whole session -/

/-- **What comes of a session.** It succeeds if the profile refuses none of the queries that a start
makes, whatever the changes. Then the bridge is active, and the engine was told the snapshot that the
profile spells, its orientation, and those of the changes in order. Else the session fails for a query
of the start that the profile refuses. -/
theorem comes_to (profile : Profile) (settings : Settings) (changes : List Change) :
    let result := (run profile settings changes).result
    ((∃ summary, result = .ok summary) ↔
      ∀ q ∈ Bridge.startQueries settings, profile.failQuery ≠ some q.name) ∧
    (∀ summary, result = .ok summary →
      summary.host = Desktop.hostName ∧ summary.finalPhase = .active ∧
      summary.snapshot = some (profile.snapshot settings) ∧
      summary.orientations.map Orientation.code =
        (Orientation.resolve profile.axis profile.rotation).code ::
          changes.map fun change => (Orientation.resolve change.axis change.rotation).code) ∧
    ∀ e, result = .error e → ∃ q ∈ Bridge.startQueries settings, profile.failQuery = some q.name ∧
      e = .hostQuery q.name "injected failure" := by
  intro result
  have hstart := start_recorded profile settings
  rcases hfaults : (Bridge.startQueries settings).flatMap profile.refusals with - | ⟨e, rest⟩ <;>
    rw [hfaults] at hstart
  · -- Nothing is refused, so the start succeeds and the changes do.
    obtain ⟨⟨⟩, hok, hactive, hprofile, hrecord⟩ := hstart
    have hwilling := Profile.refusals_eq_nil_iff.mp hfaults
    have hunderway : Underway (Bridge.onStart Desktop.host Recorder.engine
        (opening profile settings)).state := by
      refine ⟨hactive, ?_⟩
      rw [hprofile]
      exact hwilling _ (by simp [Bridge.startQueries])
    obtain ⟨hall, hend, hlast⟩ := applyAll_underway changes hunderway
    have hresult : result = _ := congrArg Outcome.result (bind_after_ok _ hok)
    rw [bind_after_ok _ hall] at hresult
    rw [hresult]
    refine ⟨⟨fun _ => hwilling, fun _ => ⟨_, rfl⟩⟩, ?_, ?_⟩
    · rintro _ ⟨⟩
      refine ⟨rfl, hend.active, ?_, ?_⟩
      · exact congrArg Recorder.snapshot (hlast.trans (by rw [hrecord]))
      · have horientations := congrArg Recorder.orientations hlast
        rw [hrecord] at horientations
        refine (congrArg (List.map Orientation.code) horientations).trans ?_
        rw [List.map_append, List.map_map]
        rfl
    · rintro _ ⟨⟩
  · have hfailed : result = .error e := congrArg Outcome.result (bind_after_error _ hstart)
    obtain ⟨q, hq, hrefused, rfl⟩ := Profile.refused_of_cons hfaults
    rw [hfailed]
    refine ⟨⟨?_, fun hwilling => absurd hrefused (hwilling q hq)⟩, ?_, ?_⟩
    · rintro ⟨_, ⟨⟩⟩
    · rintro _ ⟨⟩
    · rintro _ ⟨⟩
      exact ⟨q, hq, hrefused, rfl⟩

end Session

end PlatformBridge.Simulator
