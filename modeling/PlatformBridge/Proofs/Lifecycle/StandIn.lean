import PlatformBridge.Host.Desktop
import PlatformBridge.Proofs.Lifecycle.Delivery
import PlatformBridge.Proofs.Lifecycle.Trail

/-!
# The desktop host as a stand-in

A desktop host whose profile gives the replies that another host gave can stand in for it: the
bridge and the engine do not notice.

* `Profile.StandsFor p t` — the profile gives the replies of the trail: the same answers, and a
  refusal where the host failed;
* `Mirrors p o o'` — the second outcome, with a desktop host, is the first one as far as the bridge
  and the engine see it;
* `Alike p x y` — from scenes that differ in their hosts only, the second action mirrors the first;
  composed step by step (`Alike.bind`);
* `mirrors_deliver` — a delivery from the stand-in mirrors the other host's delivery.
-/

namespace PlatformBridge

open PlatformBridge.Action

/-! ### The engine's side of a trail -/

def Effect.isEngineSide : Effect → Bool
  | called .. | engine _ => true
  | _ => false

namespace Trail

/-- The calls of the engine and what it did of its own, in order. -/
def engineSide (t : Trail) : Trail := t.filter Effect.isEngineSide

@[simp] theorem engineSide_nil : engineSide [] = [] := rfl

@[simp] theorem engineSide_append (t u : Trail) :
    engineSide (t ++ u) = engineSide t ++ engineSide u :=
  List.filter_append ..

@[simp] theorem engineSide_asked (q : Query) (reply : Except Failure q.Answer) (t : Trail) :
    engineSide (.asked q reply :: t) = engineSide t := rfl

@[simp] theorem engineSide_logged (event : Log.Event) (t : Trail) :
    engineSide (.logged event :: t) = engineSide t := rfl

@[simp] theorem engineSide_host (effect : Host.Effect) (t : Trail) :
    engineSide (.host effect :: t) = engineSide t := rfl

@[simp] theorem engineSide_map_host (t : List Host.Effect) : engineSide (t.map .host) = [] := by
  simp [engineSide, Effect.isEngineSide]

theorem crossings_engineSide (t : Trail) : (engineSide t).crossings = t.crossings := by
  refine filterMap_filter (fun effect h => ?_) t
  cases effect with
  | engine effect => cases h
  | _ => rfl

end Trail

/-! ### Standing in -/

/-- **The profile gives the replies of the trail.** -/
def Profile.StandsFor (p : Profile) (t : Trail) : Prop :=
  ∀ q reply, .asked q reply ∈ t → match reply with
    | .ok a => p.failQuery ≠ some q.name ∧ p.answer q = a
    | .error _ => p.failQuery = some q.name

theorem Profile.standsFor_append {p : Profile} {t u : Trail} :
    p.StandsFor (t ++ u) ↔ p.StandsFor t ∧ p.StandsFor u := by
  simp [StandsFor, or_imp, forall_and]

namespace Bridge

variable {σ ε α β : Type} {p : Profile}

/-- What a stand-in makes of a result: the same, or its refusal of the query that failed. -/
inductive Echo (t : Trail) : Except Failure α → Except Failure α → Prop
  | same (result : Except Failure α) : Echo t result result
  | refused (q : Query) (e : Failure) : .asked q (.error e) ∈ t →
    Echo t (.error e) (.error (.hostQuery q.name "injected failure"))

theorem Echo.mono {t u : Trail} {r r' : Except Failure α} (h : Echo t r r')
    (hsub : ∀ effect ∈ t, effect ∈ u) : Echo u r r' := by
  cases h with
  | same => exact .same r
  | refused q e hmem => exact .refused q e (hsub _ hmem)

/-- **The outcome with a desktop host mirrors the other one.** -/
structure Mirrors (p : Profile) (o : Outcome Effect Failure (Scene σ ε) α)
    (o' : Outcome Effect Failure (Scene Desktop ε) α) : Prop where
  bridge : o'.state.bridge = o.state.bridge
  engine : o'.state.engine = o.state.engine
  profile : o'.state.host.profile = p
  side : Trail.engineSide o'.trail = Trail.engineSide o.trail
  result : Echo o.trail o.result o'.result

/-- **From scenes that differ in their hosts only, the second action mirrors the first**, if the
profile stands for the other host. -/
def Alike (p : Profile) (x : Act σ ε α) (y : Act Desktop ε α) : Prop :=
  ∀ (b : Bridge) (host : σ) (desktop : Desktop) (engine : ε), desktop.profile = p →
    p.StandsFor (x ⟨b, host, engine⟩).trail → Mirrors p (x ⟨b, host, engine⟩) (y ⟨b, desktop, engine⟩)

/-! ### Steps -/

theorem alike_pure (a : α) : Alike p (pure a : Act σ ε α) (pure a) :=
  fun _ _ _ _ hp _ => ⟨rfl, rfl, hp, rfl, .same _⟩

theorem alike_log (event event' : Log.Event) : Alike p (log event : Act σ ε Unit) (log event') :=
  fun _ _ _ _ hp _ => ⟨rfl, rfl, hp, rfl, .same _⟩

theorem alike_change (f : Bridge → Bridge) : Alike p (change f : Act σ ε Unit) (change f) :=
  fun _ _ _ _ hp _ => ⟨rfl, rfl, hp, rfl, .same _⟩

theorem alike_inspect (f : Bridge → α) : Alike p (inspect fun s => f s.bridge : Act σ ε α)
    (inspect fun s => f s.bridge) :=
  fun _ _ _ _ hp _ => ⟨rfl, rfl, hp, rfl, .same _⟩

/-- What is read off the host must not matter. -/
theorem Alike.aside {γ : Type} {g : Scene σ ε → α} {g' : Scene Desktop ε → β}
    {f : α → Act σ ε γ} {f' : β → Act Desktop ε γ} (h : ∀ a b, Alike p (f a) (f' b)) :
    Alike p (inspect g >>= f) (inspect g' >>= f') := by
  intro b host desktop engine hp hstands
  rw [inspect_bind] at hstands ⊢
  rw [inspect_bind]
  exact h _ _ b host desktop engine hp hstands

theorem alike_query (host : Host σ) (q : Query) :
    Alike p (onHost (host.query q) : Act σ ε q.Answer) (onHost (Desktop.host.query q)) := by
  rintro b s desktop engine rfl hstands
  have hlast : .asked q (host.ask q s).result ∈
      (onHost (host.query q) (⟨b, s, engine⟩ : Scene σ ε)).trail := by
    simp [onHost, Host.query]
  have hreply := hstands q _ hlast
  cases hr : (host.ask q s).result with
  | ok a =>
    rw [hr] at hreply
    obtain ⟨hfail, rfl⟩ := hreply
    simp only [onHost, zoom_apply, Host.query, hr, Desktop.host, Desktop.ask, if_neg hfail]
    exact ⟨rfl, rfl, rfl, by simp, .same _⟩
  | error e =>
    rw [hr] at hreply
    simp only [onHost, zoom_apply, Host.query, hr, Desktop.host, Desktop.ask, if_pos hreply]
    exact ⟨rfl, rfl, rfl, by simp, .refused q e (by simp)⟩

theorem alike_invoke (engine : Engine ε) (call : Engine.Call) :
    Alike p (onEngine (engine.invoke call) : Act σ ε Unit) (onEngine (engine.invoke call)) :=
  fun _ _ _ _ hp _ => ⟨rfl, rfl, hp, rfl, .same _⟩

theorem Alike.bind {x : Act σ ε α} {y : Act Desktop ε α} {f : α → Act σ ε β}
    {g : α → Act Desktop ε β} (h : Alike p x y) (hf : ∀ a, Alike p (f a) (g a)) :
    Alike p (x >>= f) (y >>= g) := by
  intro b host desktop engine hp hstands
  rcases hx : x ⟨b, host, engine⟩ with ⟨e | a, s, t⟩
  · rw [bind_error hx] at hstands ⊢
    have hfirst := h b host desktop engine hp (by rwa [hx])
    rw [hx] at hfirst
    rcases hy : y ⟨b, desktop, engine⟩ with ⟨e' | a', s', t'⟩ <;> rw [hy] at hfirst
    · -- An echo of a failure is one, so both end here.
      rw [bind_error hy]
      refine ⟨hfirst.bridge, hfirst.engine, hfirst.profile, hfirst.side, ?_⟩
      cases hfirst.result with
      | same => exact .same _
      | refused q e hmem => exact .refused q e hmem
    · cases hfirst.result
  · rw [bind_ok hx] at hstands ⊢
    obtain ⟨hstands₁, hstands₂⟩ := Profile.standsFor_append.mp hstands
    have hfirst := h b host desktop engine hp (by rwa [hx])
    rw [hx] at hfirst
    rcases hy : y ⟨b, desktop, engine⟩ with ⟨e' | a', ⟨b', desktop', engine'⟩, t'⟩ <;>
      rw [hy] at hfirst
    · cases hfirst.result
    · -- The rest starts from scenes that differ in their hosts only.
      cases hfirst.result
      obtain ⟨bridge, host, engine⟩ := s
      cases hfirst.bridge
      cases hfirst.engine
      have hlast := hf a _ _ _ _ hfirst.profile hstands₂
      rw [bind_ok hy]
      refine ⟨hlast.bridge, hlast.engine, hlast.profile, ?_, ?_⟩
      · rw [Trail.engineSide_append, Trail.engineSide_append, hlast.side, hfirst.side]
      · exact hlast.result.mono fun effect => List.mem_append_right _

theorem Alike.guarded {x : Act σ ε Unit} {y : Act Desktop ε Unit} (h : Alike p x y) :
    Alike p (guarded x) (guarded y) := by
  intro b host desktop engine hp hstands
  rcases guarded_cases x ⟨b, host, engine⟩ with ⟨hr, hg⟩ | ⟨e, hr, hg⟩ <;> rw [hg] at hstands ⊢
  · have hxy := h b host desktop engine hp hstands
    have hresult := hxy.result
    rcases guarded_cases y ⟨b, desktop, engine⟩ with ⟨-, hg'⟩ | ⟨e', hr', -⟩
    · rw [hg']
      exact hxy
    · rw [hr, hr'] at hresult
      cases hresult
  · have hxy := h b host desktop engine hp (Profile.standsFor_append.mp hstands).1
    have hresult := hxy.result
    rcases guarded_cases y ⟨b, desktop, engine⟩ with ⟨hr', -⟩ | ⟨e', hr', hg'⟩
    · rw [hr, hr'] at hresult
      cases hresult
    · rw [hr, hr'] at hresult
      rw [hg']
      refine ⟨?_, hxy.engine, hxy.profile, ?_, ?_⟩
      · simp only [hxy.bridge]
      · simp [hxy.side]
      · exact hresult.mono fun effect => List.mem_append_left _

/-! ### Deliveries -/

section

variable (host : Host σ) (engine : Engine ε)

theorem alike_collect (settings : Settings) :
    Alike p (onHost (collect host settings) : Act σ ε Snapshot)
      (onHost (collect Desktop.host settings)) := by
  simp only [PlatformBridge.collect, onHost_bind, onHost_inspect, onHost_tell, onHost_pure]
  refine (alike_query host _).bind fun _ => (alike_query host _).bind fun _ =>
    (alike_query host _).bind fun _ => (alike_query host _).bind fun _ =>
    (alike_query host _).bind fun _ => (alike_query host _).bind fun reported => ?_
  refine .bind ?_ fun _ => (alike_query host _).bind fun _ => .aside fun _ _ =>
    (alike_log _ _).bind fun _ => alike_pure _
  cases reported with
  | none => exact (alike_log _ _).bind fun _ => alike_pure _
  | some dir => exact alike_pure _

theorem alike_currentOrientation (axis : Axis) :
    Alike p (currentOrientation host axis : Act σ ε Orientation)
      (currentOrientation Desktop.host axis) :=
  (alike_query host _).bind fun _ => (alike_log _ _).bind fun _ => alike_pure _

theorem alike_forward (orientation : Orientation) :
    Alike p (forward engine orientation : Act σ ε Unit) (forward engine orientation) :=
  (alike_inspect _).bind fun _ => (alike_invoke engine _).bind fun _ =>
    (alike_change _).bind fun _ => alike_log _ _

theorem alike_transition (phase : Phase) :
    Alike p (transition phase : Act σ ε Unit) (transition phase) :=
  (alike_inspect _).bind fun _ => (alike_change _).bind fun _ => alike_log _ _

theorem alike_requestImmersive :
    Alike p (requestImmersive host : Act σ ε Unit) (requestImmersive Desktop.host) := by
  refine (alike_inspect fun b => b.settings.immersive).bind fun wanted => ?_
  cases wanted with
  | true => exact alike_query host _
  | false => exact alike_pure _

theorem alike_work (d : Delivery) : Alike p (work host engine d) (work Desktop.host engine d) := by
  cases d with
  | start =>
    exact (alike_inspect _).bind fun _ => (alike_collect host _).bind fun _ =>
      (alike_query host _).bind fun _ => (alike_currentOrientation host _).bind fun _ =>
      .aside fun _ _ => (alike_log _ _).bind fun _ => (alike_invoke engine _).bind fun _ =>
      (alike_transition _).bind fun _ => (alike_forward engine _).bind fun _ =>
      (alike_transition _).bind fun _ => alike_requestImmersive host
  | configurationChanged axis =>
    exact (alike_currentOrientation host _).bind fun _ => alike_forward engine _

/-- **A delivery from the stand-in mirrors the other host's delivery.** -/
theorem mirrors_deliver (d : Delivery) (b : Bridge) (s : σ) (desktop : Desktop) (memory : ε)
    (hstands : desktop.profile.StandsFor (deliver host engine d ⟨b, s, memory⟩).trail) :
    Mirrors desktop.profile (deliver host engine d ⟨b, s, memory⟩)
      (deliver Desktop.host engine d ⟨b, desktop, memory⟩) := by
  by_cases hp : b.phase = .poisoned
  · rw [deliver_of_poisoned hp, deliver_of_poisoned hp]
    exact ⟨rfl, rfl, rfl, rfl, .same _⟩
  by_cases ha : b.phase = d.awaited
  · rw [deliver_of_awaited ha] at hstands ⊢
    rw [deliver_of_awaited ha]
    exact (alike_work host engine d).guarded b s desktop memory rfl hstands
  · rw [deliver_of_untimely hp ha, deliver_of_untimely hp ha]
    exact ⟨rfl, rfl, rfl, rfl, .same _⟩

end

end Bridge

end PlatformBridge
