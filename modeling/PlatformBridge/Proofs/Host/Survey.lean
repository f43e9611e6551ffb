import PlatformBridge.Host.Desktop
import PlatformBridge.Proofs.Engine.Marshalling
import PlatformBridge.Proofs.Lifecycle.Itinerary
import PlatformBridge.Proofs.Lifecycle.StandIn

/-!
# A start over a desktop host

A start asks its host nine things before it turns to the engine. A desktop host answers from its
profile, or refuses the one query that the profile names, so what the start finds is known from the
profile and the settings.

* `Profile.snapshot`, `Profile.refusals` — the snapshot that the profile spells, and the failures that
  it makes of queries;
* `Finds p faults x a` — over a desktop host with the profile the action comes to `a`, or to the
  first of the faults, and touches neither the bridge nor the engine; composed step by step
  (`Finds.bind`);
* `finds_inquire` — what a start finds;
* `start_over_desktop` — so a start fails for the first query that is refused, or goes on to the
  engine with the snapshot and the orientation that the profile spells.
-/

namespace PlatformBridge

open PlatformBridge.Action
open Engine (Yields)

/-! ### What a profile spells -/

/-- The snapshot that the profile and the settings spell. -/
def Profile.snapshot (p : Profile) (settings : Settings) : Snapshot where
  appId := p.packageName
  manufacturer := p.manufacturer
  model := p.model
  buildId := p.buildId
  osVersion := p.osRelease
  locale := p.locale
  cacheDir := p.cacheDir.getD settings.cacheDirSentinel
  executablePath := executablePath p.nativeLibraryDir settings.engineLibrary
  nativeLibDir := p.nativeLibraryDir
  screenWidth := p.display.width
  screenHeight := p.display.height

/-- The orientation that the profile spells. -/
def Profile.orientation (p : Profile) : Orientation := .resolve p.axis p.rotation

/-- How the query fails, if the profile refuses it. -/
def Profile.refusals (p : Profile) (q : Query) : List Failure :=
  if p.failQuery = some q.name then [.hostQuery q.name "injected failure"] else []

theorem Profile.refusals_eq_nil_iff {p : Profile} {qs : List Query} :
    qs.flatMap p.refusals = [] ↔ ∀ q ∈ qs, p.failQuery ≠ some q.name := by
  rw [List.flatMap_eq_nil_iff]
  refine forall₂_congr fun q _ => ?_
  by_cases h : p.failQuery = some q.name <;> simp [refusals, h]

theorem Profile.refused_of_cons {p : Profile} {qs : List Query} {e : Failure} {rest : List Failure}
    (h : qs.flatMap p.refusals = e :: rest) :
    ∃ q ∈ qs, p.failQuery = some q.name ∧ e = .hostQuery q.name "injected failure" := by
  have hmem : e ∈ qs.flatMap p.refusals := by
    rw [h]
    exact List.mem_cons_self
  obtain ⟨q, hq, he⟩ := List.mem_flatMap.mp hmem
  unfold refusals at he
  split at he
  · exact ⟨q, hq, ‹_›, List.mem_singleton.mp he⟩
  · cases he

namespace Bridge

variable {ε α β : Type} {p : Profile} {faults later : List Failure}

/-! ### What an action finds -/

/-- What came of an action over a desktop host with the profile. -/
structure Found (p : Profile) (faults : List Failure) (a : α) (s : Scene Desktop ε)
    (o : Outcome Effect Failure (Scene Desktop ε) α) : Prop where
  result : Yields faults o.result (· = a)
  profile : o.state.host.profile = p
  bridge : o.state.bridge = s.bridge
  engine : o.state.engine = s.engine
  side : Trail.engineSide o.trail = []

/-- **Over a desktop host with the profile the action comes to the value**, or to the first of the
faults. -/
def Finds (p : Profile) (faults : List Failure) (x : Act Desktop ε α) (a : α) : Prop :=
  ∀ s, s.host.profile = p → Found p faults a s (x s)

theorem finds_pure (a : α) : Finds p [] (pure a : Act Desktop ε α) a :=
  fun _ hp => ⟨⟨a, rfl, rfl⟩, hp, rfl, rfl, rfl⟩

theorem finds_log (event : Log.Event) : Finds p [] (log event : Act Desktop ε Unit) () :=
  fun _ hp => ⟨⟨(), rfl, rfl⟩, hp, rfl, rfl, rfl⟩

theorem finds_query (q : Query) :
    Finds p (p.refusals q) (onHost (Desktop.host.query q) : Act Desktop ε q.Answer) (p.answer q) := by
  rintro ⟨b, d, engine⟩ rfl
  by_cases h : d.profile.failQuery = some q.name
  · simp only [Profile.refusals, if_pos h, onHost, zoom_apply, Host.query, Desktop.host, Desktop.ask]
    exact ⟨rfl, rfl, rfl, rfl, by simp⟩
  · simp only [Profile.refusals, if_neg h, onHost, zoom_apply, Host.query, Desktop.host, Desktop.ask]
    exact ⟨⟨_, rfl, rfl⟩, rfl, rfl, rfl, by simp⟩

/-- First one thing and then another: the faults come in this order. -/
theorem Finds.bind {x : Act Desktop ε α} {f : α → Act Desktop ε β} {a : α} {b : β}
    (hx : Finds p faults x a) (hf : Finds p later (f a) b) : Finds p (faults ++ later) (x >>= f) b := by
  intro s hp
  obtain ⟨hresult, hprofile, hbridge, hengine, hside⟩ := hx s hp
  rcases bind_cases x f s with ⟨e, he, hb⟩ | ⟨a', ha, hb⟩ <;> rw [hb]
  · -- A failure is the first fault of the first part.
    rw [he] at hresult
    cases faults with
    | nil =>
      obtain ⟨_, hok, -⟩ := hresult
      cases hok
    | cons fault faults =>
      cases (hresult : Except.error e = .error fault)
      exact ⟨rfl, hprofile, hbridge, hengine, hside⟩
  · rw [ha] at hresult
    cases faults with
    | nil =>
      obtain ⟨_, hok, rfl⟩ := hresult
      cases hok
      have hlast := hf (x s).state hprofile
      refine ⟨hlast.result, hlast.profile, hlast.bridge.trans hbridge, hlast.engine.trans hengine, ?_⟩
      rw [Trail.engineSide_append, hside, hlast.side]
      rfl
    | cons fault faults => cases (hresult : Except.ok a' = .error fault)

/-- What finds no fault can stand before anything else. -/
theorem Finds.quiet {x : Act Desktop ε α} {f : α → Act Desktop ε β} {a : α} {b : β}
    (hx : Finds p [] x a) (hf : Finds p later (f a) b) : Finds p later (x >>= f) b :=
  hx.bind hf

theorem finds_ask {q : Query} {qs : List Query} {f : q.Answer → Act Desktop ε β} {b : β}
    (hf : Finds p (qs.flatMap p.refusals) (f (p.answer q)) b) :
    Finds p ((q :: qs).flatMap p.refusals) (onHost (Desktop.host.query q) >>= f) b := by
  rw [List.flatMap_cons]
  exact (finds_query q).bind hf

/-- What is read off the host must not matter. -/
theorem Finds.aside {g : Scene Desktop ε → α} {f : α → Act Desktop ε β} {b : β}
    (hf : ∀ a, Finds p later (f a) b) : Finds p later (inspect g >>= f) b :=
  fun s hp => hf (g s) s hp

/-! ### What a start finds -/

theorem finds_effectiveCacheDir (settings : Settings) (reported : Option String) :
    Finds p [] (onHost (effectiveCacheDir settings reported) : Act Desktop ε String)
      (reported.getD settings.cacheDirSentinel) := by
  cases reported with
  | none =>
    simp only [effectiveCacheDir, onHost_bind, onHost_tell, onHost_pure]
    exact (finds_log _).quiet (finds_pure settings.cacheDirSentinel)
  | some dir => exact finds_pure dir

theorem finds_collect (settings : Settings) :
    Finds p ([.packageName, .deviceIdentity, .osRelease, .locale, .realDisplaySize, .cacheDir,
        .nativeLibraryDir].flatMap p.refusals)
      (onHost (collect Desktop.host settings) : Act Desktop ε Snapshot) (p.snapshot settings) := by
  simp only [collect, onHost_bind, onHost_inspect, onHost_tell, onHost_pure]
  refine finds_ask <| finds_ask <| finds_ask <| finds_ask <| finds_ask <| finds_ask ?_
  refine (finds_effectiveCacheDir settings p.cacheDir).quiet <| finds_ask <| .aside fun _ => ?_
  exact (finds_log _).quiet (finds_pure (p.snapshot settings))

theorem finds_currentOrientation (axis : Axis) :
    Finds p ([.displayRotation].flatMap p.refusals)
      (currentOrientation Desktop.host axis : Act Desktop ε Orientation)
      (.resolve axis p.rotation) := by
  unfold currentOrientation
  exact finds_ask <| (finds_log _).quiet (finds_pure (Orientation.resolve axis p.rotation))

/-- What a start asks before it turns to the engine. -/
def surveyed : List Query :=
  [.packageName, .deviceIdentity, .osRelease, .locale, .realDisplaySize, .cacheDir,
    .nativeLibraryDir, .axisOrientation, .displayRotation]

theorem startQueries_eq (settings : Settings) :
    startQueries settings = surveyed ++ if settings.immersive then [.requestImmersive] else [] := rfl

section

variable {σ : Type} (host : Host σ)

/-- A start asks its host. -/
def inquire (settings : Settings) : Act σ ε (Snapshot × Orientation) := do
  let snapshot ← onHost (collect host settings)
  let axis : Axis ← onHost (host.query .axisOrientation)
  let orientation ← currentOrientation host axis
  return (snapshot, orientation)

/-- A start turns to the engine with what it found. -/
def introduce (engine : Engine ε) (snapshot : Snapshot) (orientation : Orientation) : Act σ ε Unit := do
  let name ← .inspect fun scene => host.name scene.host
  log (.initializing name snapshot)
  onEngine (engine.invoke (.snapshot snapshot))
  transition .initialized
  forward engine orientation
  transition .active

theorem start_eq_inquire (engine : Engine ε) (s : Scene σ ε) :
    start host engine s = (inquire host s.bridge.settings >>= fun found =>
      introduce host engine found.1 found.2 >>= fun _ => requestImmersive host) s := by
  simp only [start, inquire, introduce, bind_assoc, pure_bind, inspect_bind]

end

theorem finds_inquire (settings : Settings) : Finds p (surveyed.flatMap p.refusals)
    (inquire Desktop.host settings : Act Desktop ε _) (p.snapshot settings, p.orientation) := by
  have hsplit : surveyed.flatMap p.refusals =
      [.packageName, .deviceIdentity, .osRelease, .locale, .realDisplaySize, .cacheDir,
        .nativeLibraryDir].flatMap p.refusals ++
      [.axisOrientation, .displayRotation].flatMap p.refusals := by
    rw [← List.flatMap_append]
    rfl
  rw [hsplit]
  unfold inquire
  refine (finds_collect settings).bind <| finds_ask ?_
  rw [← List.append_nil ([Query.displayRotation].flatMap p.refusals)]
  refine (finds_currentOrientation p.axis).bind ?_
  exact finds_pure (p.snapshot settings, p.orientation)

theorem yields_guarded {σ : Type} {x : Act σ ε Unit} {s : Scene σ ε} {P : Scene σ ε → Prop}
    (h : Yields faults (x s).result fun _ => P (x s).state) :
    Yields faults (guarded x s).result fun _ => P (guarded x s).state := by
  rcases guarded_cases x s with ⟨-, hg⟩ | ⟨e, he, hg⟩ <;> rw [hg]
  · exact h
  · cases faults with
    | nil =>
      obtain ⟨a, ha, -⟩ := h
      cases he.symm.trans ha
    | cons fault faults => exact he.symm.trans h

theorem found_requestImmersive (s : Scene Desktop ε) :
    Found s.host.profile
      ((if s.bridge.settings.immersive then [Query.requestImmersive] else []).flatMap
        s.host.profile.refusals) () s (requestImmersive Desktop.host s) := by
  unfold requestImmersive
  rw [inspect_bind]
  cases hwanted : s.bridge.settings.immersive with
  | false => exact finds_pure () s rfl
  | true =>
    have hquery := finds_query .requestImmersive s rfl
    rwa [← List.append_nil (s.host.profile.refusals _)] at hquery

/-- **A start over a desktop host** fails for the first query that is refused, before it turns to the
engine, or goes on from where it has found what the profile spells. -/
theorem start_over_desktop (engine : Engine ε) {s : Scene Desktop ε} {settings : Settings}
    (hp : s.host.profile = p) (hs : s.bridge.settings = settings) :
    let o := start Desktop.host engine s
    (∃ e rest, surveyed.flatMap p.refusals = e :: rest ∧ o.result = .error e ∧
        o.state.engine = s.engine ∧ Trail.engineSide o.trail = []) ∨
      surveyed.flatMap p.refusals = [] ∧ ∃ (s' : Scene Desktop ε) (t : Trail),
        s'.host.profile = p ∧ s'.bridge = s.bridge ∧ s'.engine = s.engine ∧ Trail.engineSide t = [] ∧
        let later := (introduce Desktop.host engine (p.snapshot settings) p.orientation >>=
          fun _ => requestImmersive Desktop.host) s'
        o = ⟨later.result, later.state, t ++ later.trail⟩ := by
  intro o
  subst hs
  have ho : o = _ := start_eq_inquire Desktop.host engine s
  obtain ⟨hresult, hprofile, hbridge, hengine, hside⟩ :=
    finds_inquire (p := p) (ε := ε) s.bridge.settings s hp
  rcases hfaults : surveyed.flatMap p.refusals with - | ⟨e, rest⟩ <;> rw [hfaults] at hresult
  · obtain ⟨found, hok, rfl⟩ := hresult
    refine Or.inr ⟨rfl, (inquire Desktop.host s.bridge.settings s).state,
      (inquire Desktop.host s.bridge.settings s).trail, hprofile, hbridge, hengine, hside, ?_⟩
    rw [ho, bind_after_ok _ hok]
  · have hfailed : (inquire Desktop.host s.bridge.settings s).result = .error e := hresult
    refine Or.inl ⟨e, rest, rfl, ?_⟩
    rw [ho, bind_after_error _ hfailed]
    exact ⟨rfl, hengine, hside⟩

end Bridge

end PlatformBridge
