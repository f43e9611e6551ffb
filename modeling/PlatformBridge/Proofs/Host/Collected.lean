import PlatformBridge.Proofs.Host.Survey
import PlatformBridge.Proofs.Lifecycle.FirstFailure

/-!
# What a collected snapshot is made of

Whatever the host, a collection that succeeds was answered seven times, and its snapshot is the one
that a profile with those answers spells. A delivery hands its engine no other snapshot.

* `gathered` — the queries of a collection, in order;
* `Collected settings t snapshot` — the snapshot is spelled by the replies on the trail;
* `collected_of_ok` — every collection that succeeds is such a one;
* `collected_of_called` — and what a delivery hands to the engine was collected in it before.
-/

namespace PlatformBridge

open PlatformBridge.Action

/-- The queries of a collection, in order. -/
def gathered : List Query :=
  [.packageName, .deviceIdentity, .osRelease, .locale, .realDisplaySize, .cacheDir, .nativeLibraryDir]

/-- **The snapshot is the one that the replies on the trail spell**: those of a profile. -/
def Collected (settings : Settings) (t : Trail) (snapshot : Snapshot) : Prop :=
  ∃ p : Profile, snapshot = p.snapshot settings ∧
    t.replies = gathered.map fun q => ⟨q, .ok (p.answer q)⟩

/-- A reply on the trail is what the profile of the snapshot answers. -/
theorem Collected.exists_answers {settings : Settings} {t : Trail} {snapshot : Snapshot}
    (h : Collected settings t snapshot) : ∃ p : Profile, snapshot = p.snapshot settings ∧
      ∀ q ∈ gathered, ∀ reply, .asked q reply ∈ t ↔ reply = .ok (p.answer q) := by
  obtain ⟨p, hsnapshot, hreplies⟩ := h
  refine ⟨p, hsnapshot, fun q hq reply => ?_⟩
  rw [← Trail.mem_replies, hreplies, List.mem_map]
  constructor
  · rintro ⟨q', -, heq⟩
    cases heq
    rfl
  · rintro rfl
    exact ⟨q, hq, rfl⟩

section

variable {σ β : Type} {host : Host σ} {settings : Settings} {s : σ}

/-- A query and what is done with its answer: if all succeeds, the trail begins with the reply. -/
theorem query_bind_of_ok {q : Query} {f : q.Answer → Action Effect Failure σ β} {b : β}
    (h : ((host.query q >>= f) s).result = .ok b) :
    ∃ a s', (f a s').result = .ok b ∧
      Trail.replies ((host.query q >>= f) s).trail = ⟨q, .ok a⟩ :: Trail.replies (f a s').trail := by
  obtain ⟨a, ha, hb⟩ := bind_of_ok h
  have htrail : Trail.replies (host.query q s).trail = [⟨q, (host.query q s).result⟩] := by
    simp [Host.query]
  rw [hb] at h ⊢
  refine ⟨a, (host.query q s).state, h, ?_⟩
  rw [Trail.replies_append, htrail, ha]
  rfl

theorem effectiveCacheDir_bind (reported : Option String) (f : String → Action Effect Failure σ β) :
    ((effectiveCacheDir settings reported >>= f) s).result =
        (f (reported.getD settings.cacheDirSentinel) s).result ∧
      Trail.replies ((effectiveCacheDir settings reported >>= f) s).trail =
        Trail.replies (f (reported.getD settings.cacheDirSentinel) s).trail := by
  cases reported with
  | none => exact ⟨rfl, rfl⟩
  | some dir => exact ⟨rfl, rfl⟩

/-- **A collection that succeeds** was answered seven times, and its snapshot spells the answers. -/
theorem collected_of_ok {snapshot : Snapshot} (h : (collect host settings s).result = .ok snapshot) :
    Collected settings (collect host settings s).trail snapshot := by
  unfold collect at h ⊢
  obtain ⟨appId, s₁, h, ht₁⟩ := query_bind_of_ok h
  obtain ⟨device, s₂, h, ht₂⟩ := query_bind_of_ok h
  obtain ⟨osVersion, s₃, h, ht₃⟩ := query_bind_of_ok h
  obtain ⟨locale, s₄, h, ht₄⟩ := query_bind_of_ok h
  obtain ⟨display, s₅, h, ht₅⟩ := query_bind_of_ok h
  obtain ⟨reported, s₆, h, ht₆⟩ := query_bind_of_ok h
  rw [(effectiveCacheDir_bind reported _).1] at h
  obtain ⟨nativeLibraryDir, s₇, h, ht₇⟩ := query_bind_of_ok h
  let p : Profile := {
    packageName := appId
    manufacturer := device.manufacturer
    model := device.model
    buildId := device.buildId
    osRelease := osVersion
    locale
    cacheDir := reported
    nativeLibraryDir
    display }
  refine ⟨p, ?_, ?_⟩
  · cases h
    rfl
  · rw [ht₁, ht₂, ht₃, ht₄, ht₅, ht₆, (effectiveCacheDir_bind reported _).2, ht₇]
    rfl

end

/-! ### What is handed to the engine -/

/-- The effect hands the engine no snapshot but this one. -/
def Effect.Hands (snapshot? : Option Snapshot) (effect : Effect) : Prop :=
  ∀ snapshot reply, effect = .called (.snapshot snapshot) reply → snapshot? = some snapshot

namespace Bridge

variable {σ ε : Type}

/-- What a start does with the snapshot. -/
def conclude (host : Host σ) (engine : Engine ε) (snapshot : Snapshot) : Act σ ε Unit := do
  let axis : Axis ← onHost (host.query .axisOrientation)
  let orientation ← currentOrientation host axis
  introduce host engine snapshot orientation
  requestImmersive host

variable {host : Host σ} {engine : Engine ε} {s : Scene σ ε} {snapshot? : Option Snapshot}
  {snapshot : Snapshot}

theorem start_eq_conclude : start host engine s =
    (onHost (collect host s.bridge.settings) >>= conclude host engine) s := by
  delta conclude
  simp only [start, introduce, bind_assoc, inspect_bind]

theorem hands_query (q : Query) :
    Leaves (Effect.Hands snapshot?) (onHost (host.query q) : Act σ ε q.Answer) := by
  have hquery : Leaves (Effect.Hands snapshot?) (host.query q) :=
    leaves_query (fun _ _ _ => nofun) fun _ => nofun
  exact fun s => hquery s.host

theorem hands_log (event : Log.Event) :
    Leaves (Effect.Hands snapshot?) (log event : Act σ ε Unit) :=
  fun _ => List.forall_mem_singleton.mpr nofun

theorem hands_invoke {call : Engine.Call}
    (h : ∀ snapshot, call = .snapshot snapshot → snapshot? = some snapshot) :
    Leaves (Effect.Hands snapshot?) (onEngine (engine.invoke call) : Act σ ε Unit) := by
  have hinvoke : Leaves (Effect.Hands snapshot?) (engine.invoke call) := by
    refine leaves_invoke (fun _ _ _ => nofun) fun memory snapshot reply heq => h snapshot ?_
    cases heq
    rfl
  exact fun s => hinvoke s.engine

theorem hands_currentOrientation (axis : Axis) :
    Leaves (Effect.Hands snapshot?) (currentOrientation host axis : Act σ ε Orientation) :=
  (hands_query _).bind fun _ => (hands_log _).bind fun _ => leaves_pure _

theorem hands_forward (orientation : Orientation) :
    Leaves (Effect.Hands snapshot?) (forward engine orientation : Act σ ε Unit) := by
  have hinvoke : Leaves (Effect.Hands snapshot?)
      (onEngine (engine.invoke (.orientation orientation)) : Act σ ε Unit) := hands_invoke nofun
  exact .bind (.of_silent fun _ => rfl) fun _ => hinvoke.bind fun _ =>
    .bind (.of_silent fun _ => rfl) fun _ => hands_log _

theorem hands_transition (phase : Phase) :
    Leaves (Effect.Hands snapshot?) (transition phase : Act σ ε Unit) :=
  .bind (.of_silent fun _ => rfl) fun _ => .bind (.of_silent fun _ => rfl) fun _ => hands_log _

theorem hands_requestImmersive :
    Leaves (Effect.Hands snapshot?) (requestImmersive host : Act σ ε Unit) := by
  refine .bind (.of_silent fun _ => rfl) fun wanted => ?_
  cases wanted with
  | true => exact hands_query _
  | false => exact leaves_pure ()

theorem hands_conclude :
    Leaves (Effect.Hands (some snapshot)) (conclude host engine snapshot) := by
  have hintroduce : ∀ orientation, Leaves (Effect.Hands (some snapshot))
      (introduce host engine snapshot orientation) := by
    intro orientation
    refine .bind (.of_silent fun _ => rfl) fun _ => (hands_log _).bind fun _ =>
      (hands_invoke ?_).bind fun _ => (hands_transition _).bind fun _ =>
      (hands_forward _).bind fun _ => hands_transition _
    rintro _ ⟨⟩
    rfl
  exact (hands_query _).bind fun _ => (hands_currentOrientation _).bind fun _ =>
    (hintroduce _).bind fun _ => hands_requestImmersive

theorem calls_collect (settings : Settings) (s : Scene σ ε) :
    Trail.calls (onHost (collect host settings) s).trail = [] := by
  refine Trail.calls_eq_nil fun x hx => ?_
  have hstep := (follows_collect host settings s.host).mem_plan x hx
  have hquiet : ∀ step ∈ collection, step.isCall = false := by decide
  exact hquiet x.1 hstep

theorem collected_of_called_work {d : Delivery} {reply : Except Failure Unit}
    (h : .called (.snapshot snapshot) reply ∈ (work host engine d s).trail) :
    ∃ t, t <+: (work host engine d s).trail ∧ Collected s.bridge.settings t snapshot := by
  cases d with
  | configurationChanged axis =>
    have hnone : Leaves (Effect.Hands none) (update host engine axis) :=
      (hands_currentOrientation _).bind fun _ => hands_forward _
    cases hnone s _ h _ _ rfl
  | start =>
    simp only [work, start_eq_conclude] at h ⊢
    have hcollect : .called (.snapshot snapshot) reply ∉
        (onHost (collect host s.bridge.settings) s).trail := by
      rw [← Trail.mem_calls, calls_collect]
      exact List.not_mem_nil
    rcases bind_cases (onHost (collect host s.bridge.settings)) (conclude host engine) s with
      ⟨e, -, hb⟩ | ⟨collected, hok, hb⟩ <;> rw [hb] at h ⊢
    · exact absurd h hcollect
    · have hlater := (List.mem_append.mp h).resolve_left hcollect
      have hsame := hands_conclude _ _ hlater snapshot reply rfl
      cases hsame
      have hcollected : (collect host s.bridge.settings s.host).result = .ok snapshot := hok
      exact ⟨_, List.prefix_append _ _, collected_of_ok hcollected⟩

/-- **What a delivery hands to the engine was collected** at its beginning. -/
theorem collected_of_called {d : Delivery} {reply : Except Failure Unit}
    (h : .called (.snapshot snapshot) reply ∈ (deliver host engine d s).trail) :
    ∃ t, t <+: (deliver host engine d s).trail ∧ Collected s.bridge.settings t snapshot := by
  by_cases hp : s.bridge.phase = .poisoned
  · rw [deliver_of_poisoned hp] at h
    cases h
  by_cases ha : s.bridge.phase = d.awaited
  · rw [deliver_of_awaited ha] at h ⊢
    rcases guarded_cases (work host engine d) s with ⟨-, hg⟩ | ⟨e, -, hg⟩ <;> rw [hg] at h ⊢
    · exact collected_of_called_work h
    · have hwork : .called (.snapshot snapshot) reply ∈ (work host engine d s).trail := by
        simpa using h
      obtain ⟨t, hprefix, hcollected⟩ := collected_of_called_work hwork
      exact ⟨t, hprefix.trans (List.prefix_append _ _), hcollected⟩
  · rw [deliver_of_untimely hp ha] at h
    cases List.mem_singleton.mp h

end Bridge

end PlatformBridge
