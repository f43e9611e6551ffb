import PlatformBridge.Proofs.Lifecycle.Course
import PlatformBridge.Proofs.Lifecycle.Trail

/-!
# The ledger of the calls

What a bridge remembers, and the phase it is in, against the calls that its engine was made.

* `InTune b t` — the bridge remembers the latest accepted orientation of the history and counts all;
* `Told phase calls` — the lists of calls that a bridge in the phase can have behind it;
* `consistent_deliver` — every delivery keeps both, whatever host and engine do.
-/

namespace PlatformBridge

namespace Engine

def acceptedUpdate? : Call × Except Failure Unit → Option Orientation
  | (.orientation orientation, .ok _) => some orientation
  | _ => none

def update? : Call × Except Failure Unit → Option Orientation
  | (.orientation orientation, _) => some orientation
  | _ => none

def handed? : Call × Except Failure Unit → Option (Snapshot × Except Failure Unit)
  | (.snapshot snapshot, reply) => some (snapshot, reply)
  | _ => none

/-- The calls of an engine that accepted a snapshot and then orientations. -/
def served (snapshot : Snapshot) (orientations : List Orientation) :
    List (Call × Except Failure Unit) :=
  (.snapshot snapshot, .ok ()) :: orientations.map fun o => (.orientation o, .ok ())

end Engine

def Trail.handed (t : Trail) : List (Snapshot × Except Failure Unit) :=
  t.calls.filterMap Engine.handed?

/-- The orientations that the engine accepted, in order. -/
def Trail.accepted (t : Trail) : List Orientation := t.calls.filterMap Engine.acceptedUpdate?

def Trail.updates (t : Trail) : List Orientation := t.calls.filterMap Engine.update?

@[simp] theorem Trail.accepted_append (t u : Trail) :
    (t ++ u).accepted = t.accepted ++ u.accepted := by
  simp [Trail.accepted]

namespace Bridge

open PlatformBridge.Action Engine

variable {σ ε : Type} {host : Host σ} {engine : Engine ε}

/-! ### What a bridge remembers -/

/-- **The bridge is in tune with the history.** -/
structure InTune (b : Bridge) (t : Trail) : Prop where
  last : b.lastOrientation = t.accepted.getLast?
  counted : b.updatesForwarded = UInt64.ofNat t.accepted.length

theorem InTune.of_accepted_nil {b : Bridge} {t u : Trail} (h : InTune b t) (hu : u.accepted = []) :
    InTune b (t ++ u) := by
  constructor
  · rw [Trail.accepted_append, hu, List.append_nil]
    exact h.last
  · rw [Trail.accepted_append, hu, List.append_nil]
    exact h.counted

theorem InTune.noteUpdate {b : Bridge} {t u : Trail} {orientation : Orientation} (h : InTune b t)
    (hu : u.accepted = [orientation]) : InTune (b.noteUpdate orientation) (t ++ u) := by
  constructor
  · simp [Bridge.noteUpdate, hu]
  · simp [Bridge.noteUpdate, hu, h.counted]

theorem keptByMoves_inTune (host : Host σ) (engine : Engine ε) :
    KeptByMoves host engine fun s t => InTune s.bridge t where
  asks q s t h := h.of_accepted_nil (by simp [onHost, Host.query, Trail.accepted])
  logs event s t h := h.of_accepted_nil rfl
  moves phase s t h := by simpa [change] using ⟨h.last, h.counted⟩
  hands snapshot s t h := h.of_accepted_nil (by
    simp [onEngine, Engine.invoke, Trail.accepted, acceptedUpdate?])
  forwards orientation s t h := by
    rcases forward_cases engine orientation s with ⟨-, hf⟩ | ⟨e, -, hf⟩ <;> rw [hf]
    · exact h.noteUpdate (by simp [Trail.accepted, acceptedUpdate?])
    · exact h.of_accepted_nil (by simp [Trail.accepted, acceptedUpdate?])

/-! ### The calls of a delivery -/

theorem filter_steps (t : Trail) :
    t.steps.filter (·.1.isCall) = t.calls.map (Prod.map Call.step id) := by
  induction t with
  | nil => rfl
  | cons effect t ih =>
    cases effect with
    | asked q reply => simpa [Step.isCall] using ih
    | called call reply => cases call <;> simpa [Step.isCall, Call.step] using ih
    | logged event => simpa using ih
    | host effect => exact ih
    | engine effect => exact ih

theorem snapshot_cons {calls : List (Call × Except Failure Unit)} {r : Except Failure Unit}
    {steps : List (Step × Except Failure Unit)}
    (h : calls.map (Prod.map Call.step id) = (.snapshot, r) :: steps) :
    ∃ snapshot rest, calls = (.snapshot snapshot, r) :: rest ∧
      rest.map (Prod.map Call.step id) = steps := by
  obtain ⟨⟨call, r'⟩, rest, rfl, hc, hrest⟩ := List.map_eq_cons_iff.mp h
  cases call with
  | snapshot snapshot =>
    cases hc
    exact ⟨snapshot, rest, rfl, hrest⟩
  | orientation orientation => cases hc

theorem orientation_cons {calls : List (Call × Except Failure Unit)} {r : Except Failure Unit}
    {steps : List (Step × Except Failure Unit)}
    (h : calls.map (Prod.map Call.step id) = (.orientation, r) :: steps) :
    ∃ orientation rest, calls = (.orientation orientation, r) :: rest ∧
      rest.map (Prod.map Call.step id) = steps := by
  obtain ⟨⟨call, r'⟩, rest, rfl, hc, hrest⟩ := List.map_eq_cons_iff.mp h
  cases call with
  | snapshot snapshot => cases hc
  | orientation orientation =>
    cases hc
    exact ⟨orientation, rest, rfl, hrest⟩

section

variable {p : List Step} {r : Except Failure Unit} {xs : List (Step × Except Failure Unit)}

theorem Followed.filter_eq_nil (h : Followed p r xs) (hp : ∀ step ∈ p, step.isCall = false) :
    xs.filter (·.1.isCall) = [] := by
  rw [List.filter_eq_nil_iff]
  intro x hx
  rw [hp _ (h.mem_plan x hx)]
  exact Bool.false_ne_true

/-- A call that is the next step of a plan: it is rejected and the last step, or accepted. -/
theorem Followed.filter_of_call {step : Step} (h : Followed (step :: p) r xs)
    (hs : step.isCall = true) :
    (∃ e, r = .error e ∧ xs.filter (·.1.isCall) = [(step, .error e)]) ∨
      ∃ ys, Followed p r ys ∧
        xs.filter (·.1.isCall) = (step, .ok ()) :: ys.filter (·.1.isCall) := by
  cases h with
  | stopped _ _ e => exact Or.inl ⟨e, rfl, by simp [hs]⟩
  | passed _ h => exact Or.inr ⟨_, h, by simp [hs]⟩

end

/-- The calls of a start: none, a rejected snapshot, or an accepted one and an orientation. -/
theorem calls_start (host : Host σ) (engine : Engine ε) (s : Scene σ ε) :
    let o := start host engine s
    let calls := Trail.calls o.trail
    (calls = [] ∧ ∃ e, o.result = .error e) ∨
      (∃ snapshot e, calls = [(.snapshot snapshot, .error e)] ∧ o.result = .error e) ∨
      (∃ snapshot orientation e,
        calls = served snapshot [] ++ [(.orientation orientation, .error e)] ∧
          o.result = .error e) ∨
      ∃ snapshot orientation, calls = served snapshot [orientation] := by
  intro o calls
  have h : Followed _ o.result (Trail.steps o.trail) := followed_work host engine .start s
  have hcalls : _ = calls.map _ := filter_steps o.trail
  simp only [Delivery.plan, List.append_assoc] at h
  rcases h.of_append with ⟨e, he, hx⟩ | ⟨xs, ys, hxy, hx, hy⟩
  · rw [hx.filter_eq_nil (by decide)] at hcalls
    exact Or.inl ⟨List.map_eq_nil_iff.mp hcalls.symm, e, he⟩
  rw [hxy, List.filter_append, hx.filter_eq_nil (by decide), List.nil_append] at hcalls
  rcases Followed.filter_of_call hy rfl with ⟨e, he, hs⟩ | ⟨zs, hz, hs⟩ <;> rw [hs] at hcalls
  · obtain ⟨snapshot, rest, hrest, hnil⟩ := snapshot_cons hcalls.symm
    rw [List.map_eq_nil_iff.mp hnil] at hrest
    exact Or.inr (Or.inl ⟨snapshot, e, hrest, he⟩)
  obtain ⟨snapshot, rest, hrest, hnext⟩ := snapshot_cons hcalls.symm
  rcases Followed.filter_of_call hz rfl with ⟨e, he, ho⟩ | ⟨us, hu, ho⟩ <;> rw [ho] at hnext
  · obtain ⟨orientation, rest', rfl, hnil⟩ := orientation_cons hnext
    rw [List.map_eq_nil_iff.mp hnil] at hrest
    exact Or.inr (Or.inr (Or.inl ⟨snapshot, orientation, e, hrest, he⟩))
  · obtain ⟨orientation, rest', rfl, hnil⟩ := orientation_cons hnext
    -- Asking for the immersive mode, if the start gets there at all, is no call.
    have hlast : us.filter (·.1.isCall) = [] := hu.filter_eq_nil fun step hstep => by
      split at hstep
      · rw [List.mem_singleton.mp hstep]
        rfl
      · cases hstep
    rw [hlast] at hnil
    rw [List.map_eq_nil_iff.mp hnil] at hrest
    exact Or.inr (Or.inr (Or.inr ⟨snapshot, orientation, hrest⟩))

/-- The calls of an update: none, or an orientation, whose acceptance is the result. -/
theorem calls_update (host : Host σ) (engine : Engine ε) (axis : Axis) (s : Scene σ ε) :
    let o := update host engine axis s
    let calls := Trail.calls o.trail
    (calls = [] ∧ ∃ e, o.result = .error e) ∨
      (∃ orientation e, calls = [(.orientation orientation, .error e)] ∧ o.result = .error e) ∨
      ∃ orientation, calls = [(.orientation orientation, .ok ())] ∧ o.result = .ok () := by
  intro o calls
  have h : Followed _ o.result (Trail.steps o.trail) := follows_update host engine axis s
  have hcalls : _ = calls.map _ := filter_steps o.trail
  rcases Followed.of_append (p := [_]) h with ⟨e, he, hx⟩ | ⟨xs, ys, hxy, hx, hy⟩
  · rw [hx.filter_eq_nil (by decide)] at hcalls
    exact Or.inl ⟨List.map_eq_nil_iff.mp hcalls.symm, e, he⟩
  rw [hxy, List.filter_append, hx.filter_eq_nil (by decide), List.nil_append] at hcalls
  rcases Followed.filter_of_call hy rfl with ⟨e, he, ho⟩ | ⟨zs, hz, ho⟩ <;> rw [ho] at hcalls
  · obtain ⟨orientation, rest, hrest, hnil⟩ := orientation_cons hcalls.symm
    rw [List.map_eq_nil_iff.mp hnil] at hrest
    exact Or.inr (Or.inl ⟨orientation, e, hrest, he⟩)
  · obtain ⟨orientation, rest, hrest, hnil⟩ := orientation_cons hcalls.symm
    generalize hr : o.result = r at hz
    cases hz
    rw [List.filter_nil, List.map_eq_nil_iff] at hnil
    rw [hnil] at hrest
    exact Or.inr (Or.inr ⟨orientation, hrest, rfl⟩)

/-! ### The calls behind a bridge -/

/-- **The calls that a bridge in the phase can have behind it.** Active: an accepted snapshot and
accepted orientations. Poisoned: as much of that as there was, and perhaps one rejected call. -/
inductive Told : Phase → List (Call × Except Failure Unit) → Prop
  | idle : Told .uninitialized []
  | serving (snapshot : Snapshot) (orientations : List Orientation) (nonempty : orientations ≠ []) :
    Told .active (served snapshot orientations)
  | silent : Told .poisoned []
  | refused (snapshot : Snapshot) (e : Failure) : Told .poisoned [(.snapshot snapshot, .error e)]
  | broken (snapshot : Snapshot) (orientations : List Orientation) (nonempty : orientations ≠ []) :
    Told .poisoned (served snapshot orientations)
  | rejected (snapshot : Snapshot) (orientations : List Orientation) (orientation : Orientation)
    (e : Failure) :
    Told .poisoned (served snapshot orientations ++ [(.orientation orientation, .error e)])

/-- **A bridge that is consistent with its history.** -/
structure Consistent (b : Bridge) (t : Trail) : Prop where
  told : Told b.phase t.calls
  inTune : InTune b t

@[simp] theorem accepted_served (snapshot : Snapshot) (orientations : List Orientation) :
    (served snapshot orientations).filterMap acceptedUpdate? = orientations := by
  rw [served, List.filterMap_cons_none rfl, List.filterMap_map]
  exact List.filterMap_some

@[simp] theorem updates_served (snapshot : Snapshot) (orientations : List Orientation) :
    (served snapshot orientations).filterMap update? = orientations := by
  rw [served, List.filterMap_cons_none rfl, List.filterMap_map]
  exact List.filterMap_some

@[simp] theorem handed_served (snapshot : Snapshot) (orientations : List Orientation) :
    (served snapshot orientations).filterMap handed? = [(snapshot, .ok ())] := by
  rw [served, List.filterMap_cons, List.filterMap_map]
  simp [Function.comp_def, handed?]

theorem ok_of_mem_served {snapshot : Snapshot} {orientations : List Orientation}
    {c : Call × Except Failure Unit} (h : c ∈ served snapshot orientations) : c.2 = .ok () := by
  rcases List.mem_cons.mp h with rfl | h
  · rfl
  · obtain ⟨orientation, -, rfl⟩ := List.mem_map.mp h
    rfl

theorem served_append (snapshot : Snapshot) (orientations : List Orientation)
    (orientation : Orientation) :
    served snapshot orientations ++ [(.orientation orientation, .ok ())] =
      served snapshot (orientations ++ [orientation]) := by
  simp [served]

theorem Told.poison {phase : Phase} {calls : List (Call × Except Failure Unit)}
    (h : Told phase calls) : Told .poisoned calls := by
  cases h with
  | idle => exact .silent
  | serving snapshot orientations nonempty => exact .broken snapshot orientations nonempty
  | silent => exact .silent
  | refused snapshot e => exact .refused snapshot e
  | broken snapshot orientations nonempty => exact .broken snapshot orientations nonempty
  | rejected snapshot orientations orientation e =>
    exact .rejected snapshot orientations orientation e

/-- The four forms of what can be behind a bridge in any phase. -/
theorem Told.forms {phase : Phase} {calls : List (Call × Except Failure Unit)}
    (h : Told phase calls) :
    calls = [] ∨ (∃ snapshot e, calls = [(.snapshot snapshot, .error e)]) ∨
      (∃ snapshot orientations, orientations ≠ [] ∧ calls = served snapshot orientations) ∨
      ∃ snapshot orientations orientation e,
        calls = served snapshot orientations ++ [(.orientation orientation, .error e)] := by
  cases h with
  | idle => exact Or.inl rfl
  | serving snapshot orientations nonempty =>
    exact Or.inr (Or.inr (Or.inl ⟨snapshot, orientations, nonempty, rfl⟩))
  | silent => exact Or.inl rfl
  | refused snapshot e => exact Or.inr (Or.inl ⟨snapshot, e, rfl⟩)
  | broken snapshot orientations nonempty =>
    exact Or.inr (Or.inr (Or.inl ⟨snapshot, orientations, nonempty, rfl⟩))
  | rejected snapshot orientations orientation e =>
    exact Or.inr (Or.inr (Or.inr ⟨snapshot, orientations, orientation, e, rfl⟩))

/-- A snapshot comes first, and if it was not accepted nothing else comes. -/
theorem Told.snapshot_first {phase : Phase} {calls : List (Call × Except Failure Unit)}
    (h : Told phase calls) :
    calls = [] ∨ ∃ snapshot reply updates,
      calls = (.snapshot snapshot, reply) :: updates.map (Prod.map .orientation id) ∧
        (updates = [] ∨ reply = .ok ()) := by
  rcases h.forms with rfl | ⟨snapshot, e, rfl⟩ | ⟨snapshot, orientations, -, rfl⟩ |
    ⟨snapshot, orientations, orientation, e, rfl⟩
  · exact Or.inl rfl
  · exact Or.inr ⟨snapshot, .error e, [], rfl, Or.inl rfl⟩
  · refine Or.inr ⟨snapshot, .ok (), orientations.map fun o => (o, .ok ()), ?_, Or.inr rfl⟩
    simp [served]
  · refine Or.inr ⟨snapshot, .ok (),
      orientations.map (fun o => (o, .ok ())) ++ [(orientation, .error e)], ?_, Or.inr rfl⟩
    simp [served]

theorem told_uninitialized {calls : List (Call × Except Failure Unit)} :
    Told .uninitialized calls ↔ calls = [] := by
  constructor
  · intro h
    cases h
    rfl
  · rintro rfl
    exact .idle

section

variable (host : Host σ) (engine : Engine ε) (d : Delivery) (s : Scene σ ε)

/-- The delivery makes the calls of its work, and fails if that fails. -/
theorem calls_deliver_of_awaited (h : s.bridge.phase = d.awaited) :
    Trail.calls (deliver host engine d s).trail = Trail.calls (work host engine d s).trail ∧
      (deliver host engine d s).result = (work host engine d s).result := by
  rw [deliver_of_awaited h]
  rcases guarded_cases (work host engine d) s with ⟨-, hg⟩ | ⟨e, he, hg⟩
  · rw [hg]
    exact ⟨rfl, rfl⟩
  · simp [hg, he]

theorem calls_deliver_of_untimely (h : s.bridge.phase ≠ d.awaited) :
    Trail.calls (deliver host engine d s).trail = [] := by
  by_cases hp : s.bridge.phase = .poisoned
  · rw [deliver_of_poisoned hp]
    rfl
  · rw [deliver_of_untimely hp h]
    rfl

theorem queries_deliver_of_untimely (h : s.bridge.phase ≠ d.awaited) :
    Trail.queries (deliver host engine d s).trail = [] := by
  by_cases hp : s.bridge.phase = .poisoned
  · rw [deliver_of_poisoned hp]
    rfl
  · rw [deliver_of_untimely hp h]
    rfl

theorem told_work {calls : List (Call × Except Failure Unit)} (h : Told d.awaited calls) :
    ((work host engine d s).result = .ok () →
        Told .active (calls ++ Trail.calls (work host engine d s).trail)) ∧
      Told .poisoned (calls ++ Trail.calls (work host engine d s).trail) := by
  cases d with
  | start =>
    simp only [work, told_uninitialized.mp h, List.nil_append]
    rcases calls_start host engine s with ⟨hc, e, he⟩ | ⟨snapshot, e, hc, he⟩ |
      ⟨snapshot, orientation, e, hc, he⟩ | ⟨snapshot, orientation, hc⟩ <;> rw [hc]
    · exact ⟨by simp [he], .silent⟩
    · exact ⟨by simp [he], .refused snapshot e⟩
    · exact ⟨by simp [he], .rejected snapshot [] orientation e⟩
    · exact ⟨fun _ => .serving snapshot _ (by simp), .broken snapshot _ (by simp)⟩
  | configurationChanged axis =>
    have hpoison := h.poison
    change Told .active calls at h
    cases h with
    | serving snapshot orientations nonempty =>
      simp only [work]
      rcases calls_update host engine axis s with ⟨hc, e, he⟩ | ⟨orientation, e, hc, he⟩ |
        ⟨orientation, hc, -⟩ <;> rw [hc]
      · rw [List.append_nil]
        exact ⟨by simp [he], hpoison⟩
      · exact ⟨by simp [he], .rejected snapshot orientations orientation e⟩
      · rw [served_append]
        exact ⟨fun _ => .serving snapshot _ (by simp), .broken snapshot _ (by simp)⟩

/-- **Every delivery keeps the bridge's phase and the calls behind it together.** -/
theorem told_deliver {calls : List (Call × Except Failure Unit)} (h : Told s.bridge.phase calls) :
    let o := deliver host engine d s
    Told o.state.bridge.phase (calls ++ Trail.calls o.trail) := by
  intro o
  have hends := deliver_ends host engine d s
  by_cases ha : s.bridge.phase = d.awaited
  · rw [ha] at h
    obtain ⟨hok, hany⟩ := told_work host engine d s h
    obtain ⟨hc, hr⟩ := calls_deliver_of_awaited host engine d s ha
    rw [hc]
    rcases hends with ⟨hresult, -, hphase⟩ | ⟨e, -, hphase⟩ <;> rw [hphase]
    · exact hok (hr.symm.trans hresult)
    · exact hany
  · rw [calls_deliver_of_untimely host engine d s ha, List.append_nil]
    rcases hends with ⟨-, hawaited, -⟩ | ⟨e, -, hphase⟩
    · exact absurd hawaited ha
    · rw [hphase]
      exact h.poison

/-- **Every delivery keeps a bridge consistent with its history.** -/
theorem consistent_deliver {t : Trail} (h : Consistent s.bridge t) :
    let o := deliver host engine d s
    Consistent o.state.bridge (t ++ o.trail) := by
  refine ⟨?_, (keptByMoves_inTune host engine).deliver d s t h.inTune⟩
  rw [Trail.calls_append]
  exact told_deliver host engine d s h.told

/-- A rejected call is how the work fails. -/
theorem work_of_rejected {call : Call} {e : Failure}
    (h : (call, .error e) ∈ Trail.calls (work host engine d s).trail) :
    (work host engine d s).result = .error e := by
  cases d with
  | start =>
    simp only [work] at h ⊢
    rcases calls_start host engine s with ⟨hc, -⟩ | ⟨snapshot, e', hc, he⟩ |
      ⟨snapshot, orientation, e', hc, he⟩ | ⟨snapshot, orientation, hc⟩ <;> rw [hc] at h
    · cases h
    · cases List.mem_singleton.mp h
      exact he
    · rcases List.mem_append.mp h with h | h
      · cases ok_of_mem_served h
      · cases List.mem_singleton.mp h
        exact he
    · cases ok_of_mem_served h
  | configurationChanged axis =>
    simp only [work] at h ⊢
    rcases calls_update host engine axis s with ⟨hc, -⟩ | ⟨orientation, e', hc, he⟩ |
      ⟨orientation, hc, -⟩ <;> rw [hc] at h
    · cases h
    · cases List.mem_singleton.mp h
      exact he
    · cases List.mem_singleton.mp h

theorem deliver_of_rejected {call : Call} {e : Failure}
    (h : (call, .error e) ∈ Trail.calls (deliver host engine d s).trail) :
    s.bridge.phase ≠ .poisoned ∧ (deliver host engine d s).result = .error e ∧
      (deliver host engine d s).state.bridge.phase = .poisoned := by
  have ha : s.bridge.phase = d.awaited := by
    refine Decidable.byContradiction fun ha => ?_
    rw [calls_deliver_of_untimely host engine d s ha] at h
    cases h
  obtain ⟨hc, hr⟩ := calls_deliver_of_awaited host engine d s ha
  rw [hc] at h
  have hresult : (deliver host engine d s).result = .error e :=
    hr.trans (work_of_rejected host engine d s h)
  refine ⟨?_, hresult, ?_⟩
  · rw [ha]
    cases d <;> exact nofun
  · rcases deliver_ends host engine d s with ⟨hok, -, -⟩ | ⟨-, -, hphase⟩
    · cases hok.symm.trans hresult
    · exact hphase

end

end Bridge

end PlatformBridge
