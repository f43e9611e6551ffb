import PlatformBridge.Lifecycle.Bridge
import PlatformBridge.Proofs.Action.History

/-!
# What a delivery does

A delivery finds the bridge in the phase that it awaits, in another one, or poisoned.

* `deliver_of_awaited` — in the awaited phase its work is done, guarded;
* `deliver_of_untimely` — in another phase it is refused, which poisons the bridge;
* `deliver_of_poisoned` — a poisoned bridge does nothing at all;
* `deliver_ends` — so every delivery ends in one of two ways: it succeeds and the bridge is active,
  or it fails and the bridge is poisoned;
* `KeptByMoves.deliver` — whatever a bridge does is made of five moves, and what all of them keep every
  delivery keeps.
-/

namespace PlatformBridge

/-- The phase in which the delivery has its place. -/
def Delivery.awaited : Delivery → Phase
  | start => .uninitialized
  | configurationChanged _ => .active

def Delivery.complaint : Delivery → Log.Event
  | start => .startedTwice
  | configurationChanged _ => .changedTooEarly

def Delivery.refusal : Delivery → Failure
  | start => .alreadyStarted
  | configurationChanged _ => .notStarted

namespace Bridge

open PlatformBridge.Action

variable {σ ε α β : Type}

/-! ### Actions of the host, in a scene -/

@[simp] theorem onHost_bind (x : Action Effect Failure σ α) (f : α → Action Effect Failure σ β) :
    (onHost (x >>= f) : Act σ ε β) = onHost x >>= fun a => onHost (f a) := by
  funext s
  rcases hx : x s.host with ⟨_ | a, h, t⟩
  · simp [onHost, bind_apply, hx]
  · simp [onHost, bind_apply, hx]

@[simp] theorem onHost_pure (a : α) : (onHost (pure a : Action Effect Failure σ α) : Act σ ε α) =
    pure a := rfl

@[simp] theorem onHost_tell (event : Log.Event) :
    (onHost (.tell (.logged event) : Action Effect Failure σ Unit) : Act σ ε Unit) = log event :=
  rfl

@[simp] theorem onHost_inspect (f : σ → α) :
    (onHost (.inspect f : Action Effect Failure σ α) : Act σ ε α) =
      .inspect fun scene => f scene.host := rfl

/-! ### The three ways to find the bridge -/

section

variable (host : Host σ) (engine : Engine ε)

/-- The part of a start that does not depend on the settings, up to the active phase. -/
def opening : Act σ ε Unit := do
  let settings ← .inspect fun scene => scene.bridge.settings
  let snapshot ← onHost (collect host settings)
  let axis : Axis ← onHost (host.query .axisOrientation)
  let orientation ← currentOrientation host axis
  let name ← .inspect fun scene => host.name scene.host
  log (.initializing name snapshot)
  onEngine (engine.invoke (.snapshot snapshot))
  transition .initialized
  forward engine orientation
  transition .active

theorem start_eq_opening : start host engine = opening host engine >>= fun _ =>
    requestImmersive host := by
  simp only [start, opening, bind_assoc]

/-- What a delivery makes the bridge do in the awaited phase. -/
def work : Delivery → Act σ ε Unit
  | .start => start host engine
  | .configurationChanged axis => update host engine axis

variable {host engine} {d : Delivery} {s : Scene σ ε}

theorem deliver_of_awaited (h : s.bridge.phase = d.awaited) :
    deliver host engine d s = guarded (work host engine d) s := by
  cases d <;>
    simp_all [deliver, onStart, onConfigurationChanged, work, bind_apply, Delivery.awaited]

theorem deliver_of_poisoned (h : s.bridge.phase = .poisoned) :
    deliver host engine d s = ⟨.error .poisoned, s, []⟩ := by
  cases d <;> simp [deliver, onStart, onConfigurationChanged, bind_apply, h]

theorem deliver_of_untimely (hp : s.bridge.phase ≠ .poisoned) (ha : s.bridge.phase ≠ d.awaited) :
    deliver host engine d s = ⟨.error d.refusal, { s with bridge := s.bridge.moveTo .poisoned },
      [.logged d.complaint]⟩ := by
  cases d <;> rcases hs : s.bridge.phase <;>
    simp_all [deliver, onStart, onConfigurationChanged, misuse, log, change, bind_apply,
      Delivery.awaited, Delivery.refusal, Delivery.complaint]

end

/-- Guarded work that succeeds is left as it is; a failure is logged and poisons the bridge. -/
theorem guarded_cases (x : Act σ ε Unit) (s : Scene σ ε) :
    ((x s).result = .ok () ∧ guarded x s = x s) ∨
      ∃ e, (x s).result = .error e ∧ guarded x s =
        ⟨.error e, { (x s).state with bridge := (x s).state.bridge.moveTo .poisoned },
          (x s).trail ++ [.logged (.fatal e)]⟩ := by
  rcases hx : x s with ⟨e | ⟨⟩, s', t⟩
  · exact Or.inr ⟨e, rfl, by simp [guarded, onFailure_error hx, bind_apply, log, change]⟩
  · exact Or.inl ⟨rfl, by simp [guarded, onFailure_ok hx]⟩

/-! ### The moves of a bridge -/

/-- **The five moves that a bridge is made of** all keep the relation: it asks its host, logs, moves
to a phase, hands the engine a snapshot, or tells it an orientation and notes that. -/
structure KeptByMoves (host : Host σ) (engine : Engine ε) (I : Scene σ ε → Trail → Prop) :
    Prop where
  asks (q : Query) : Keeps I (onHost (host.query q))
  logs (event : Log.Event) : Keeps I (log event)
  moves (phase : Phase) : Keeps I (change (·.moveTo phase))
  hands (snapshot : Snapshot) : Keeps I (onEngine (engine.invoke (.snapshot snapshot)))
  forwards (orientation : Orientation) : Keeps I (forward engine orientation)

section

variable {host : Host σ} {engine : Engine ε} {I : Scene σ ε → Trail → Prop}

theorem KeptByMoves.collect (h : KeptByMoves host engine I) (settings : Settings) :
    Keeps I (onHost (collect host settings)) := by
  simp only [PlatformBridge.collect, onHost_bind, onHost_inspect, onHost_tell, onHost_pure]
  refine (h.asks _).bind fun _ => (h.asks _).bind fun _ => (h.asks _).bind fun _ =>
    (h.asks _).bind fun _ => (h.asks _).bind fun _ => (h.asks _).bind fun reported => ?_
  refine .bind ?_ fun _ => (h.asks _).bind fun _ => (keeps_inspect _).bind fun _ =>
    (h.logs _).bind fun _ => keeps_pure _
  cases reported with
  | none => exact (h.logs _).bind fun _ => keeps_pure _
  | some dir => exact keeps_pure _

theorem KeptByMoves.currentOrientation (h : KeptByMoves host engine I) (axis : Axis) :
    Keeps I (currentOrientation host axis) :=
  (h.asks _).bind fun _ => (h.logs _).bind fun _ => keeps_pure _

theorem KeptByMoves.transition (h : KeptByMoves host engine I) (phase : Phase) :
    Keeps I (transition phase) :=
  (keeps_inspect _).bind fun _ => (h.moves _).bind fun _ => h.logs _

theorem KeptByMoves.requestImmersive (h : KeptByMoves host engine I) :
    Keeps I (requestImmersive host) := by
  refine (keeps_inspect _).bind fun wanted => ?_
  cases wanted with
  | true => exact h.asks _
  | false => exact keeps_pure _

theorem KeptByMoves.opening (h : KeptByMoves host engine I) : Keeps I (opening host engine) :=
  (keeps_inspect _).bind fun _ => (h.collect _).bind fun _ => (h.asks _).bind fun _ =>
    (h.currentOrientation _).bind fun _ => (keeps_inspect _).bind fun _ =>
    (h.logs _).bind fun _ => (h.hands _).bind fun _ => (h.transition _).bind fun _ =>
    (h.forwards _).bind fun _ => h.transition _

theorem KeptByMoves.work (h : KeptByMoves host engine I) (d : Delivery) :
    Keeps I (work host engine d) := by
  cases d with
  | start =>
    simp only [Bridge.work, start_eq_opening]
    exact h.opening.bind fun _ => h.requestImmersive
  | configurationChanged axis => exact (h.currentOrientation _).bind fun _ => h.forwards _

/-- **What the moves keep, every delivery keeps.** -/
theorem KeptByMoves.deliver (h : KeptByMoves host engine I) (d : Delivery) :
    Keeps I (deliver host engine d) := by
  have hmisuse : ∀ event failure, Keeps I (misuse event failure : Act σ ε Unit) :=
    fun _ _ => (h.logs _).bind fun _ => (h.moves _).bind fun _ => keeps_fail _
  have hguarded : Keeps I (guarded (Bridge.work host engine d)) :=
    (h.work d).onFailure fun _ => (h.logs _).bind fun _ => h.moves _
  cases d <;> refine (keeps_inspect _).bind fun phase => ?_ <;> cases phase <;>
    first | exact keeps_fail _ | exact hmisuse _ _ | exact hguarded

end

/-- What a query leaves has a property if what the host does meanwhile has it, and the reply. -/
theorem leaves_query {host : Host σ} {q : Query} {P : Effect → Prop}
    (hown : Leaves (fun effect => P (.host effect)) (host.ask q))
    (hreply : ∀ s, P (.asked q (host.ask q s).result)) : Leaves P (host.query q) := by
  intro s
  exact List.forall_mem_append.mpr
    ⟨List.forall_mem_map.mpr (hown s), List.forall_mem_singleton.mpr (hreply s)⟩

/-- What a call leaves has a property if what the engine does meanwhile has it, and the reply. -/
theorem leaves_invoke {engine : Engine ε} {call : Engine.Call} {P : Effect → Prop}
    (hown : Leaves (fun effect => P (.engine effect)) (engine.perform call))
    (hreply : ∀ s, P (.called call (engine.perform call s).result)) :
    Leaves P (engine.invoke call) := by
  intro s
  exact List.forall_mem_append.mpr
    ⟨List.forall_mem_map.mpr (hown s), List.forall_mem_singleton.mpr (hreply s)⟩

/-- **What holds of the host and of every effect** is kept by the moves, if asking the host keeps it
and neither calls nor logs leave anything else. -/
theorem keptByMoves_of_effects {host : Host σ} {engine : Engine ε} {C : σ → Prop} {P : Effect → Prop}
    (asks : ∀ q, Keeps (fun s t => C s ∧ ∀ effect ∈ t, P effect) (host.query q))
    (calls : ∀ call, Leaves P (engine.invoke call)) (logs : ∀ event, P (.logged event)) :
    KeptByMoves host engine fun s t => C s.host ∧ ∀ effect ∈ t, P effect := by
  have hchange : ∀ f, Keeps (fun s t => C s.host ∧ ∀ effect ∈ t, P effect)
      (change f : Act σ ε Unit) := by
    intro f s t h
    rw [show (change f s).trail = [] from rfl, List.append_nil]
    exact h
  have hlog : ∀ event, Keeps (fun s t => C s.host ∧ ∀ effect ∈ t, P effect)
      (log event : Act σ ε Unit) := by
    intro event s t h
    exact ⟨h.1, List.forall_mem_append.mpr ⟨h.2, List.forall_mem_singleton.mpr (logs event)⟩⟩
  have hcall : ∀ call, Keeps (fun s t => C s.host ∧ ∀ effect ∈ t, P effect)
      (onEngine (engine.invoke call) : Act σ ε Unit) := by
    intro call s t h
    exact ⟨h.1, List.forall_mem_append.mpr ⟨h.2, calls call s.engine⟩⟩
  exact ⟨fun q s => asks q s.host, hlog, fun _ => hchange _, fun _ => hcall _, fun orientation =>
    (keeps_inspect _).bind fun _ => (hcall _).bind fun _ => (hchange _).bind fun _ => hlog _⟩

theorem keptByMoves_of_leaves {host : Host σ} {engine : Engine ε} {P : Effect → Prop}
    (asks : ∀ q, Leaves P (host.query q)) (calls : ∀ call, Leaves P (engine.invoke call))
    (logs : ∀ event, P (.logged event)) :
    KeptByMoves host engine fun _ t => ∀ effect ∈ t, P effect := by
  have hasks : ∀ q, Keeps (fun _ t => True ∧ ∀ effect ∈ t, P effect) (host.query q) :=
    fun q s t h => ⟨trivial, (asks q).keeps s t h.2⟩
  simpa only [true_and] using keptByMoves_of_effects (C := fun _ => True) hasks calls logs

/-! ### What the moves leave alone -/

theorem forward_cases (engine : Engine ε) (orientation : Orientation) (s : Scene σ ε) :
    let o := engine.perform (.orientation orientation) s.engine
    (o.result = .ok () ∧ forward engine orientation s =
        ⟨.ok (), ⟨s.bridge.noteUpdate orientation, s.host, o.state⟩,
          o.trail.map .engine ++ [.called (.orientation orientation) (.ok ()),
            .logged (.forwarded orientation (s.bridge.lastOrientation ≠ some orientation))]⟩) ∨
      ∃ e, o.result = .error e ∧ forward engine orientation s =
        ⟨.error e, { s with engine := o.state },
          o.trail.map .engine ++ [.called (.orientation orientation) (.error e)]⟩ := by
  intro o
  rcases ho : engine.perform (.orientation orientation) s.engine with ⟨e | ⟨⟩, m, t⟩
  · refine Or.inr ⟨e, by simp [o, ho], ?_⟩
    simp [o, forward, bind_apply, onEngine, Engine.invoke, ho]
  · refine Or.inl ⟨by simp [o, ho], ?_⟩
    simp [o, forward, bind_apply, onEngine, Engine.invoke, change, log, ho]

theorem keptByMoves_settings (host : Host σ) (engine : Engine ε) (settings : Settings) :
    KeptByMoves host engine fun s _ => s.bridge.settings = settings where
  asks _ _ _ h := h
  logs _ _ _ h := h
  moves _ _ _ h := h
  hands _ _ _ h := h
  forwards orientation s _ h := by
    rcases forward_cases engine orientation s with ⟨-, hf⟩ | ⟨e, -, hf⟩ <;> rw [hf] <;> exact h

section

variable (host : Host σ) (engine : Engine ε) (d : Delivery) (s : Scene σ ε)

/-- **The settings of a bridge never change.** -/
theorem settings_deliver : (deliver host engine d s).state.bridge.settings = s.bridge.settings :=
  (keptByMoves_settings host engine s.bridge.settings).deliver d s [] rfl

theorem bridge_requestImmersive : (requestImmersive host s).state.bridge = s.bridge := by
  cases hw : s.bridge.settings.immersive <;> simp [requestImmersive, bind_apply, onHost, hw]

theorem bridge_currentOrientation (axis : Axis) :
    (currentOrientation host axis s).state.bridge = s.bridge := by
  have h : Keeps (fun s' _ => s'.bridge = s.bridge) (currentOrientation host axis : Act σ ε _) :=
    .bind (fun _ _ h => h) fun _ => .bind (fun _ _ h => h) fun _ => keeps_pure _
  exact h s [] rfl

theorem phase_forward (orientation : Orientation) :
    (forward engine orientation s).state.bridge.phase = s.bridge.phase := by
  rcases forward_cases engine orientation s with ⟨-, h⟩ | ⟨e, -, h⟩
  · rw [h]
    rfl
  · rw [h]

theorem work_attains (hs : s.bridge.phase = d.awaited)
    (h : (work host engine d s).result = .ok ()) :
    (work host engine d s).state.bridge.phase = .active := by
  cases d with
  | start =>
    have hopening : Attains (fun s : Scene σ ε => s.bridge.phase = .active)
        (opening host engine) := by
      refine .of_last fun _ => .of_last fun _ => .of_last fun _ => .of_last fun _ =>
        .of_last fun _ => .of_last fun _ => .of_last fun _ => .of_last fun _ => .of_last fun _ =>
        fun _ _ _ => rfl
    have hstart := hopening.of_first (f := fun _ => requestImmersive host) fun _ s hs => by
      rwa [bridge_requestImmersive]
    simp only [work, start_eq_opening] at h ⊢
    exact hstart s () h
  | configurationChanged axis =>
    rcases bind_cases (currentOrientation host axis) (forward engine) s with
      ⟨e, -, hb⟩ | ⟨orientation, -, hb⟩ <;> simp only [work, update, hb]
    · rw [bridge_currentOrientation]
      exact hs
    · rw [phase_forward, bridge_currentOrientation]
      exact hs

/-- **Every delivery ends in one of two ways**: it succeeds, in the phase that it awaits, and the
bridge is active, or it fails and the bridge is poisoned. -/
theorem deliver_ends :
    let o := deliver host engine d s
    (o.result = .ok () ∧ s.bridge.phase = d.awaited ∧ o.state.bridge.phase = .active) ∨
      ∃ e, o.result = .error e ∧ o.state.bridge.phase = .poisoned := by
  intro o
  by_cases hp : s.bridge.phase = .poisoned
  · refine Or.inr ⟨.poisoned, ?_, ?_⟩ <;> simp only [o, deliver_of_poisoned hp]
    exact hp
  by_cases ha : s.bridge.phase = d.awaited
  · simp only [o, deliver_of_awaited ha]
    rcases guarded_cases (work host engine d) s with ⟨hr, hg⟩ | ⟨e, -, hg⟩
    · rw [hg]
      exact Or.inl ⟨hr, ha, work_attains host engine d s ha hr⟩
    · rw [hg]
      exact Or.inr ⟨e, rfl, rfl⟩
  · exact Or.inr ⟨d.refusal, by simp only [o, deliver_of_untimely hp ha],
      by simp only [o, deliver_of_untimely hp ha]; rfl⟩

theorem phase_deliver : (deliver host engine d s).state.bridge.phase = .active ∨
    (deliver host engine d s).state.bridge.phase = .poisoned := by
  rcases deliver_ends host engine d s with ⟨-, -, h⟩ | ⟨-, -, h⟩
  · exact Or.inl h
  · exact Or.inr h

end

theorem phase_of_failed {host : Host σ} {engine : Engine ε} {d : Delivery} {s : Scene σ ε} {e : Failure}
    (h : (deliver host engine d s).result = .error e) :
    (deliver host engine d s).state.bridge.phase = .poisoned := by
  rcases deliver_ends host engine d s with ⟨hok, -, -⟩ | ⟨-, -, hpoisoned⟩
  · cases hok.symm.trans h
  · exact hpoisoned

end Bridge

end PlatformBridge
