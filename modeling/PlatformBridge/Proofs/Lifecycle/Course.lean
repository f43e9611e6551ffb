import PlatformBridge.Proofs.Lifecycle.Delivery

/-!
# The course of a delivery

A *step* of the bridge is a query to its host or a call of its engine. What a delivery is going to
do is a *plan*, a list of steps that is known beforehand; what it did is the list of its steps with
whether each succeeded.

* `Followed plan result steps` — the plan was followed up to its first failure, which is the result;
* `Follows plan x` — whatever host and engine do, the action follows the plan; composed step by
  step (`Follows.cons`, `Follows.quiet`);
* `followed_work` — every delivery that the bridge lets through follows its plan.
-/

namespace PlatformBridge

/-! ### Steps and plans -/

/-- A step towards the host or the engine. -/
inductive Bridge.Step where
  | ask (query : Query)
  | snapshot
  | orientation
  deriving DecidableEq, Repr

open Bridge (Step)

def Bridge.Step.isCall : Step → Bool
  | ask _ => false
  | snapshot | orientation => true

def Engine.Call.step : Engine.Call → Step
  | snapshot _ => .snapshot
  | orientation _ => .orientation

def Effect.step? : Effect → Option (Step × Except Failure Unit)
  | asked query reply => some (.ask query, reply.map fun _ => ())
  | called call reply => some (call.step, reply)
  | _ => none

def Trail.steps (t : Trail) : List (Step × Except Failure Unit) := t.filterMap Effect.step?

/-- **A plan followed up to its first failure**: either every step succeeded, or the last one made
failed and its failure is the result. -/
inductive Bridge.Followed {α : Type} :
    List Step → Except Failure α → List (Step × Except Failure Unit) → Prop
  | done (a : α) : Followed [] (.ok a) []
  | stopped (step : Step) (rest : List Step) (e : Failure) :
    Followed (step :: rest) (.error e) [(step, .error e)]
  | passed (step : Step) {plan : List Step} {result : Except Failure α}
    {steps : List (Step × Except Failure Unit)} :
    Followed plan result steps → Followed (step :: plan) result ((step, .ok ()) :: steps)

/-- The steps that collect a snapshot. -/
def Bridge.collection : List Step :=
  [.ask .packageName, .ask .deviceIdentity, .ask .osRelease, .ask .locale, .ask .realDisplaySize,
    .ask .cacheDir, .ask .nativeLibraryDir]

/-- The steps that a start makes before it turns to the engine. -/
def Bridge.survey : List Step := collection ++ [.ask .axisOrientation, .ask .displayRotation]

/-- **The plan of a delivery.** -/
def Delivery.plan (settings : Settings) : Delivery → List Step
  | start => Bridge.survey ++ [.snapshot, .orientation] ++
      if settings.immersive then [.ask .requestImmersive] else []
  | configurationChanged _ => [.ask .displayRotation, .orientation]

namespace Trail

@[simp] theorem steps_nil : steps [] = [] := rfl

@[simp] theorem steps_append (t u : Trail) : steps (t ++ u) = steps t ++ steps u :=
  List.filterMap_append

@[simp] theorem steps_asked (q : Query) (reply : Except Failure q.Answer) (t : Trail) :
    steps (.asked q reply :: t) = (.ask q, reply.map fun _ => ()) :: steps t := rfl

@[simp] theorem steps_called (call : Engine.Call) (reply : Except Failure Unit) (t : Trail) :
    steps (.called call reply :: t) = (call.step, reply) :: steps t := rfl

@[simp] theorem steps_logged (event : Log.Event) (t : Trail) :
    steps (.logged event :: t) = steps t := rfl

@[simp] theorem steps_map_host (t : List Host.Effect) : steps (t.map .host) = [] := by
  simp [steps, List.filterMap_map, Function.comp_def, Effect.step?]

@[simp] theorem steps_map_engine (t : List Engine.Effect) : steps (t.map .engine) = [] := by
  simp [steps, List.filterMap_map, Function.comp_def, Effect.step?]

end Trail

namespace Bridge

open PlatformBridge.Action

variable {σ ε α β : Type}

/-! ### Plans in parts -/

namespace Followed

variable {p q : List Step} {r : Except Failure α} {r' : Except Failure β} {e : Failure} {a : α}
  {xs ys zs : List (Step × Except Failure Unit)}

theorem append (h : Followed p (.ok a : Except Failure α) xs) (h' : Followed q r' ys) :
    Followed (p ++ q) r' (xs ++ ys) := by
  generalize hr : (Except.ok a : Except Failure α) = r at h
  induction h with
  | done => exact h'
  | stopped => cases hr
  | passed step _ ih => exact .passed step (ih hr)

theorem append_of_error (h : Followed p (.error e : Except Failure α) xs) (q : List Step) :
    Followed (p ++ q) (.error e : Except Failure β) xs := by
  generalize hr : (Except.error e : Except Failure α) = r at h
  induction h with
  | done => cases hr
  | stopped step rest e' =>
    cases hr
    exact .stopped step _ e
  | passed step _ ih => exact .passed step (ih hr)

theorem of_append (h : Followed (p ++ q) r zs) :
    (∃ e, r = .error e ∧ Followed p (.error e : Except Failure Unit) zs) ∨
      ∃ xs ys, zs = xs ++ ys ∧ Followed p (.ok () : Except Failure Unit) xs ∧ Followed q r ys := by
  induction p generalizing zs with
  | nil => exact Or.inr ⟨[], zs, rfl, .done (), h⟩
  | cons step p ih =>
    rw [List.cons_append] at h
    cases h with
    | stopped _ _ e => exact Or.inl ⟨e, rfl, .stopped step p e⟩
    | passed _ h =>
      rcases ih h with ⟨e, rfl, hp⟩ | ⟨xs, ys, rfl, hp, hq⟩
      · exact Or.inl ⟨e, rfl, .passed step hp⟩
      · exact Or.inr ⟨_, ys, rfl, .passed step hp, hq⟩

theorem mem_plan (h : Followed p r xs) : ∀ x ∈ xs, x.1 ∈ p := by
  induction h with
  | done => simp
  | stopped => simp
  | passed step _ ih =>
    intro x hx
    rcases List.mem_cons.mp hx with rfl | hx
    · exact List.mem_cons_self
    · exact List.mem_cons_of_mem _ (ih x hx)

end Followed

/-! ### Actions that follow a plan -/

/-- **Whatever host and engine do, the action follows the plan.** -/
def Follows (plan : List Step) (x : Action Effect Failure σ α) : Prop :=
  ∀ s, Followed plan (x s).result (Trail.steps (x s).trail)

theorem Follows.bind {p q : List Step} {x : Action Effect Failure σ α}
    {f : α → Action Effect Failure σ β} (hx : Follows p x) (hf : ∀ a, Follows q (f a)) :
    Follows (p ++ q) (x >>= f) := by
  intro s
  have h := hx s
  rcases bind_cases x f s with ⟨e, he, hb⟩ | ⟨a, ha, hb⟩
  · rw [he] at h
    rw [hb]
    exact h.append_of_error q
  · rw [ha] at h
    rw [hb, Trail.steps_append]
    exact h.append (hf a _)

/-- A first step, then the rest of the plan. -/
theorem Follows.cons {step : Step} {q : List Step} {x : Action Effect Failure σ α}
    {f : α → Action Effect Failure σ β} (hx : Follows [step] x) (hf : ∀ a, Follows q (f a)) :
    Follows (step :: q) (x >>= f) :=
  hx.bind hf

/-- What makes no step can stand before any plan. -/
theorem Follows.quiet {q : List Step} {x : Action Effect Failure σ α}
    {f : α → Action Effect Failure σ β} (hx : Follows [] x) (hf : ∀ a, Follows q (f a)) :
    Follows q (x >>= f) :=
  hx.bind hf

theorem follows_pure (a : α) : Follows [] (pure a : Action Effect Failure σ α) := fun _ => .done a

theorem follows_inspect (f : σ → α) : Follows [] (inspect f : Action Effect Failure σ α) :=
  fun s => .done (f s)

theorem follows_change (f : σ → σ) : Follows [] (Action.change f : Action Effect Failure σ Unit) :=
  fun _ => .done ()

theorem follows_tell (event : Log.Event) :
    Follows [] (tell (.logged event) : Action Effect Failure σ Unit) := fun _ => .done ()

theorem follows_query (host : Host σ) (q : Query) : Follows [.ask q] (host.query q) := by
  intro s
  rcases hq : host.ask q s with ⟨_ | a, h, t⟩
  · simpa [Host.query, hq, Except.map] using .stopped (.ask q) [] _
  · simpa [Host.query, hq, Except.map] using .passed (.ask q) (.done a)

theorem follows_invoke (engine : Engine ε) (call : Engine.Call) :
    Follows [call.step] (engine.invoke call) := by
  intro s
  rcases hc : engine.perform call s with ⟨_ | ⟨⟩, m, t⟩
  · simpa [Engine.invoke, hc] using .stopped call.step [] _
  · simpa [Engine.invoke, hc] using .passed call.step (.done ())

/-! ### The plans of the bridge -/

section

variable (host : Host σ) (engine : Engine ε)

theorem follows_collect (settings : Settings) : Follows collection (collect host settings) := by
  refine (follows_query host _).cons fun _ => (follows_query host _).cons fun _ =>
    (follows_query host _).cons fun _ => (follows_query host _).cons fun _ =>
    (follows_query host _).cons fun _ => (follows_query host _).cons fun reported => ?_
  refine .quiet ?_ fun _ => (follows_query host _).cons fun _ => (follows_inspect _).quiet fun _ =>
    (follows_tell _).quiet fun _ => follows_pure _
  cases reported with
  | none => exact (follows_tell _).quiet fun _ => follows_pure _
  | some dir => exact follows_pure _

theorem follows_onHost {plan : List Step} {x : Action Effect Failure σ α} (h : Follows plan x) :
    Follows plan (onHost x : Act σ ε α) := fun s => h s.host

theorem follows_onEngine {plan : List Step} {x : Action Effect Failure ε α} (h : Follows plan x) :
    Follows plan (onEngine x : Act σ ε α) := fun s => h s.engine

theorem follows_currentOrientation (axis : Axis) :
    Follows [.ask .displayRotation] (currentOrientation host axis : Act σ ε Orientation) :=
  (follows_onHost (follows_query host _)).cons fun _ => (follows_tell _).quiet fun _ =>
    follows_pure _

theorem follows_forward (orientation : Orientation) :
    Follows [.orientation] (forward engine orientation : Act σ ε Unit) :=
  (follows_inspect _).quiet fun _ =>
    (follows_onEngine (follows_invoke engine (.orientation orientation))).cons fun _ =>
    (follows_change _).quiet fun _ => follows_tell _

theorem follows_transition (phase : Phase) : Follows [] (transition phase : Act σ ε Unit) :=
  (follows_inspect _).quiet fun _ => (follows_change _).quiet fun _ => follows_tell _

theorem follows_update (axis : Axis) :
    Follows [.ask .displayRotation, .orientation] (update host engine axis) :=
  (follows_currentOrientation host axis).cons fun _ => follows_forward engine _

theorem follows_opening : Follows (survey ++ [.snapshot, .orientation]) (opening host engine) := by
  refine (follows_inspect _).quiet fun settings => (follows_onHost (follows_collect host _)).bind
    fun snapshot => (follows_onHost (follows_query host _)).cons fun axis =>
    (follows_currentOrientation host axis).cons fun _ => (follows_inspect _).quiet fun _ =>
    (follows_tell _).quiet fun _ =>
    (follows_onEngine (follows_invoke engine (.snapshot snapshot))).cons fun _ =>
    (follows_transition _).quiet fun _ => (follows_forward engine _).cons fun _ =>
    follows_transition _

theorem followed_requestImmersive (s : Scene σ ε) :
    Followed (if s.bridge.settings.immersive then [.ask .requestImmersive] else [])
      (requestImmersive host s).result (Trail.steps (requestImmersive host s).trail) := by
  cases hw : s.bridge.settings.immersive with
  | true =>
    simpa [requestImmersive, bind_apply, hw] using
      follows_onHost (follows_query host .requestImmersive) s
  | false => simpa [requestImmersive, bind_apply, hw] using .done ()

/-- **What a delivery makes the bridge do follows its plan.** -/
theorem followed_work (d : Delivery) (s : Scene σ ε) :
    Followed (d.plan s.bridge.settings) (work host engine d s).result
      (Trail.steps (work host engine d s).trail) := by
  cases d with
  | configurationChanged axis => exact follows_update host engine axis s
  | start =>
    have h := follows_opening host engine s
    have hset := (keptByMoves_settings host engine s.bridge.settings).opening s [] rfl
    simp only [work, start_eq_opening]
    rcases bind_cases (opening host engine) (fun _ => requestImmersive host) s with
      ⟨e, he, hb⟩ | ⟨⟨⟩, ha, hb⟩
    · rw [he] at h
      rw [hb]
      exact h.append_of_error _
    · have h' := followed_requestImmersive host (opening host engine s).state
      rw [ha] at h
      rw [hset] at h'
      rw [hb, Trail.steps_append]
      exact h.append h'

end

end Bridge

end PlatformBridge
