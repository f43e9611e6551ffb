import PlatformBridge.Proofs.Host.Survey

/-!
# What is put on record

The bridge logs when it moves to another phase, when the engine took an orientation, and when it
fails. That part of its log and the calls of the engine are what is looked at here.

* `record t` — the calls of a trail, and the bridge's own events about phases, orientations and
  failures, in order;
* `Unrecorded x` — the action leaves nothing of that kind: asking a host does not;
* `record_start`, `record_update` — what a start and a change put on record;
* `Accounts t` — the records there can be of a bridge that has not failed, or that fails next;
* `OnRecord phase t` — a record as a bridge in the phase has it: an account, behind which a poisoned
  bridge has one event of the level `ERROR`;
* `onRecord_deliver` — every delivery keeps that, whatever host and engine do.
-/

namespace PlatformBridge

open PlatformBridge.Action Engine
open Log (Event)

/-! ### Events -/

/-- The event tells of a phase, of an orientation, or of a failure. -/
def Log.Event.isNotable : Event → Bool
  | transition .. | forwarded .. => true
  | event => event.level = .error

theorem Log.Event.isNotable_of_error {event : Event} (h : event.level = .error) :
    event.isNotable = true := by
  cases event <;> simp_all [isNotable, level]

/-- The effect is a call, or a notable event of the bridge itself. -/
def Effect.isRecorded : Effect → Bool
  | called .. => true
  | logged event => event.isNotable
  | _ => false

namespace Trail

/-- **What is put on record**: the calls, and the notable events of the bridge itself. -/
def record (t : Trail) : Trail := t.filter Effect.isRecorded

@[simp] theorem record_nil : record [] = [] := rfl

@[simp] theorem record_append (t u : Trail) : record (t ++ u) = record t ++ record u :=
  List.filter_append ..

@[simp] theorem record_called (call : Call) (reply : Except Failure Unit) (t : Trail) :
    record (.called call reply :: t) = .called call reply :: record t := rfl

@[simp] theorem record_transition (before after : Phase) (t : Trail) :
    record (.logged (.transition before after) :: t) =
      .logged (.transition before after) :: record t := rfl

@[simp] theorem record_forwarded (orientation : Orientation) (changed : Bool) (t : Trail) :
    record (.logged (.forwarded orientation changed) :: t) =
      .logged (.forwarded orientation changed) :: record t := rfl

@[simp] theorem record_initializing (name : String) (snapshot : Snapshot) (t : Trail) :
    record (.logged (.initializing name snapshot) :: t) = record t := rfl

@[simp] theorem record_map_engine (t : List Engine.Effect) : record (t.map .engine) = [] := by
  simp [record, Effect.isRecorded]

theorem record_error {event : Event} (h : event.level = .error) :
    record [.logged event] = [.logged event] := by
  simp [record, Effect.isRecorded, Event.isNotable_of_error h]

theorem calls_record (t : Trail) : (record t).calls = t.calls := by
  refine filterMap_filter (fun effect h => ?_) t
  cases effect with
  | called call reply => cases h
  | _ => rfl

/-- What is read off notable events only is read off the record. -/
theorem filterMap_record {α : Type} {view : Event → Option α}
    (h : ∀ {event : Event}, event.isNotable = false → view event = none) (t : Trail) :
    (record t).ownEvents.filterMap view = t.ownEvents.filterMap view := by
  simp only [ownEvents, List.filterMap_filterMap]
  refine filterMap_filter (fun effect hplain => ?_) t
  cases effect with
  | logged event => exact h hplain
  | _ => rfl

theorem mem_record {t : Trail} {event : Event} (severe : event.level = .error)
    (h : event ∈ t.ownEvents) : event ∈ (record t).ownEvents := by
  obtain ⟨effect, hmem, heffect⟩ := List.mem_filterMap.mp h
  refine List.mem_filterMap.mpr ⟨effect, List.mem_filter.mpr ⟨hmem, ?_⟩, heffect⟩
  cases effect with
  | logged event' =>
    cases heffect
    exact Event.isNotable_of_error severe
  | _ => cases heffect

@[simp] theorem ownEvents_append (t u : Trail) :
    ownEvents (t ++ u) = ownEvents t ++ ownEvents u := List.filterMap_append

end Trail

namespace Bridge

variable {σ ε α : Type} (host : Host σ) (engine : Engine ε)

/-! ### What a start and a change put on record -/

abbrev Unrecorded (x : Action Effect Failure σ α) : Prop := Leaves (·.isRecorded = false) x

theorem Unrecorded.record_eq {x : Action Effect Failure σ α} (h : Unrecorded x) (s : σ) :
    Trail.record (x s).trail = [] :=
  List.filter_eq_nil_iff.mpr fun effect hmem => by simp [h s effect hmem]

theorem unrecorded_query (q : Query) : Unrecorded (host.query q) :=
  leaves_query (fun _ _ _ => rfl) fun _ => rfl

theorem unrecorded_inspect (f : σ → α) : Unrecorded (inspect f : Action Effect Failure σ α) :=
  .of_silent fun _ => rfl

theorem unrecorded_tell {event : Event} (h : event.isNotable = false) :
    Unrecorded (tell (.logged event) : Action Effect Failure σ Unit) := by
  intro s effect hmem
  rw [List.mem_singleton.mp hmem]
  exact h

theorem unrecorded_onHost {x : Action Effect Failure σ α} (h : Unrecorded x) :
    Unrecorded (onHost x : Act σ ε α) := fun s => h s.host

theorem unrecorded_collect (settings : Settings) : Unrecorded (collect host settings) := by
  refine (unrecorded_query host _).bind fun _ => (unrecorded_query host _).bind fun _ =>
    (unrecorded_query host _).bind fun _ => (unrecorded_query host _).bind fun _ =>
    (unrecorded_query host _).bind fun _ => (unrecorded_query host _).bind fun reported => ?_
  refine .bind ?_ fun _ => (unrecorded_query host _).bind fun _ => (unrecorded_inspect _).bind fun _ =>
    (unrecorded_tell rfl).bind fun _ => leaves_pure _
  cases reported with
  | none => exact (unrecorded_tell rfl).bind fun _ => leaves_pure _
  | some dir => exact leaves_pure _

theorem unrecorded_currentOrientation (axis : Axis) :
    Unrecorded (currentOrientation host axis : Act σ ε Orientation) :=
  (unrecorded_onHost (unrecorded_query host _)).bind fun _ => (unrecorded_tell rfl).bind fun _ =>
    leaves_pure _

theorem unrecorded_inquire (settings : Settings) : Unrecorded (inquire host settings : Act σ ε _) :=
  (unrecorded_onHost (unrecorded_collect host settings)).bind fun _ =>
    (unrecorded_onHost (unrecorded_query host _)).bind fun axis =>
    (unrecorded_currentOrientation host axis).bind fun _ => leaves_pure _

theorem unrecorded_requestImmersive : Unrecorded (requestImmersive host : Act σ ε Unit) := by
  refine (unrecorded_inspect _).bind fun wanted => ?_
  cases wanted with
  | true => exact unrecorded_onHost (unrecorded_query host _)
  | false => exact leaves_pure _

theorem record_bind {x : Action Effect Failure σ α} {β : Type} {f : α → Action Effect Failure σ β}
    (h : ∀ a, Unrecorded (f a)) (s : σ) :
    Trail.record ((x >>= f) s).trail = Trail.record (x s).trail := by
  rcases bind_cases x f s with ⟨e, -, hb⟩ | ⟨a, -, hb⟩ <;> rw [hb]
  rw [Trail.record_append, (h a).record_eq, List.append_nil]

theorem bridge_inquire (settings : Settings) (s : Scene σ ε) :
    (inquire host settings s).state.bridge = s.bridge := by
  have hquery : ∀ q, Keeps (fun s' _ => s'.bridge = s.bridge)
      (onHost (host.query q) : Act σ ε q.Answer) := fun _ _ _ h => h
  have hasked : Keeps (fun s' _ => s'.bridge = s.bridge) (inquire host settings : Act σ ε _) :=
    .bind (fun _ _ h => h) fun _ => (hquery _).bind fun _ =>
      .bind ((hquery _).bind fun _ => .bind (fun _ _ h => h) fun _ => keeps_pure _) fun _ =>
        keeps_pure _
  exact hasked s [] rfl

/-- The engine takes orientations, one after the other, and the bridge says so. -/
def telling : Option Orientation → List Orientation → Trail
  | _, [] => []
  | last, o :: os => .called (.orientation o) (.ok ()) :: .logged (.forwarded o (last ≠ some o)) ::
      telling (some o) os

def initializing (snapshot : Snapshot) : Trail :=
  [.called (.snapshot snapshot) (.ok ()), .logged (.transition .uninitialized .initialized)]

/-- The engine takes a snapshot and orientations. -/
def account (snapshot : Snapshot) (first : Orientation) (later : List Orientation) : Trail :=
  initializing snapshot ++ telling none [first] ++ [.logged (.transition .initialized .active)] ++
    telling (some first) later

theorem record_forward (orientation : Orientation) (s : Scene σ ε) :
    let o := forward engine orientation s
    (o.result = .ok () ∧ Trail.record o.trail = telling s.bridge.lastOrientation [orientation]) ∨
      ∃ e, o.result = .error e ∧
        Trail.record o.trail = [.called (.orientation orientation) (.error e)] := by
  rcases forward_cases engine orientation s with ⟨-, hf⟩ | ⟨e, -, hf⟩ <;> rw [hf]
  · exact Or.inl ⟨rfl, by simp [telling]⟩
  · exact Or.inr ⟨e, rfl, by simp⟩

theorem record_firstUpdate (orientation : Orientation) {s : Scene σ ε}
    (introduced : s.bridge.phase = .initialized) :
    let o := (forward engine orientation >>= fun _ => transition .active) s
    (o.result = .ok () ∧ Trail.record o.trail = telling s.bridge.lastOrientation [orientation] ++
        [.logged (.transition .initialized .active)]) ∨
      ∃ e, o.result = .error e ∧
        Trail.record o.trail = [.called (.orientation orientation) (.error e)] := by
  have hphase := (phase_forward engine s orientation).trans introduced
  rcases record_forward engine orientation s with ⟨hok, hrecord⟩ | ⟨e, he, hrecord⟩
  · have hmove : (transition .active (forward engine orientation s).state).trail =
        [.logged (.transition .initialized .active)] := by
      rw [← hphase]
      rfl
    rw [bind_after_ok _ hok]
    exact Or.inl ⟨rfl, by simp [hrecord, hmove]⟩
  · rw [bind_after_error _ he]
    exact Or.inr ⟨e, rfl, hrecord⟩

theorem record_introduce (snapshot : Snapshot) (orientation : Orientation) {s : Scene σ ε}
    (fresh : s.bridge.phase = .uninitialized) (silent : s.bridge.lastOrientation = none) :
    let o := introduce host engine snapshot orientation s
    (o.result = .ok () ∧ Trail.record o.trail = account snapshot orientation []) ∨
      ∃ e, o.result = .error e ∧
        (Trail.record o.trail = [.called (.snapshot snapshot) (.error e)] ∨
          Trail.record o.trail =
            initializing snapshot ++ [.called (.orientation orientation) (.error e)]) := by
  intro o
  let told (s' : Scene σ ε) := (forward engine orientation >>= fun _ => transition .active) s'
  rcases hc : engine.perform (.snapshot snapshot) s.engine with ⟨e | ⟨⟩, memory, t⟩
  · have ho : o = ⟨.error e, { s with engine := memory },
        .logged (.initializing (host.name s.host) snapshot) ::
          (t.map .engine ++ [.called (.snapshot snapshot) (.error e)])⟩ := by
      simp [o, introduce, bind_apply, log, onEngine, Engine.invoke, hc]
    rw [ho]
    exact Or.inr ⟨e, rfl, Or.inl (by simp)⟩
  · -- The engine took the snapshot: what is left is to tell it the orientation.
    obtain ⟨s', hphase, hlast, ho⟩ : ∃ s' : Scene σ ε, s'.bridge.phase = .initialized ∧
        s'.bridge.lastOrientation = none ∧ o = ⟨(told s').result, (told s').state,
          .logged (.initializing (host.name s.host) snapshot) ::
            (t.map .engine ++ (initializing snapshot ++ (told s').trail))⟩ := by
      refine ⟨⟨s.bridge.moveTo .initialized, s.host, memory⟩, rfl, silent, ?_⟩
      have hcall : onEngine (engine.invoke (.snapshot snapshot)) s = ⟨.ok (), { s with engine := memory },
          t.map .engine ++ [.called (.snapshot snapshot) (.ok ())]⟩ := by
        simp [onEngine, Engine.invoke, hc]
      have hmove : transition .initialized { s with engine := memory } =
          ⟨.ok (), ⟨s.bridge.moveTo .initialized, s.host, memory⟩,
            [.logged (.transition .uninitialized .initialized)]⟩ := by
        simp [transition, bind_apply, change, log, fresh]
      simp only [o, introduce, inspect_bind]
      rw [bind_ok (show log _ s = ⟨.ok (), s, [_]⟩ from rfl), bind_ok hcall, bind_ok hmove]
      simp [told, initializing]
    rw [ho]
    rcases record_firstUpdate engine orientation hphase with ⟨hok, hrecord⟩ | ⟨e, he, hrecord⟩
    · exact Or.inl ⟨hok, by simp [told, hrecord, hlast, account, initializing, telling]⟩
    · exact Or.inr ⟨e, he, Or.inr (by simp [told, hrecord, initializing])⟩

/-- **What a start puts on record**, of a bridge as it was made. -/
theorem record_start {s : Scene σ ε} (fresh : s.bridge.phase = .uninitialized)
    (silent : s.bridge.lastOrientation = none) :
    let o := start host engine s
    (∃ snapshot orientation, Trail.record o.trail = account snapshot orientation []) ∨
      ∃ e, o.result = .error e ∧ (Trail.record o.trail = [] ∨
        ∃ snapshot, Trail.record o.trail = [.called (.snapshot snapshot) (.error e)] ∨
          ∃ orientation, Trail.record o.trail =
            initializing snapshot ++ [.called (.orientation orientation) (.error e)]) := by
  intro o
  have hasked := (unrecorded_inquire (ε := ε) host s.bridge.settings).record_eq s
  have hkept := bridge_inquire host s.bridge.settings s
  have hlast : ∀ u : Unit, Unrecorded (requestImmersive host : Act σ ε Unit) :=
    fun _ => unrecorded_requestImmersive host
  rw [show o = _ from start_eq_inquire host engine s]
  rcases bind_cases (inquire host s.bridge.settings) _ s with ⟨e, he, hb⟩ | ⟨found, hfound, hb⟩ <;>
    rw [hb]
  · exact Or.inr ⟨e, rfl, Or.inl hasked⟩
  · simp only [Trail.record_append, hasked, List.nil_append, record_bind hlast]
    rcases record_introduce host engine found.1 found.2
      (s := (inquire host s.bridge.settings s).state) (by rw [hkept, fresh]) (by rw [hkept, silent]) with
      ⟨-, hrecord⟩ | ⟨e, he, hrecord⟩
    · exact Or.inl ⟨_, _, hrecord⟩
    · refine Or.inr ⟨e, by rw [bind_after_error _ he], Or.inr ⟨found.1, ?_⟩⟩
      exact hrecord.imp_right fun h => ⟨found.2, h⟩

/-- **What a change puts on record.** -/
theorem record_update (axis : Axis) (s : Scene σ ε) :
    let o := update host engine axis s
    (∃ orientation, o.result = .ok () ∧
        Trail.record o.trail = telling s.bridge.lastOrientation [orientation]) ∨
      ∃ e, o.result = .error e ∧ (Trail.record o.trail = [] ∨
        ∃ orientation, Trail.record o.trail = [.called (.orientation orientation) (.error e)]) := by
  intro o
  have hasked := (unrecorded_currentOrientation (ε := ε) host axis).record_eq s
  rcases bind_cases (currentOrientation host axis) (forward engine) s with
    ⟨e, he, hb⟩ | ⟨orientation, -, hb⟩ <;> rw [show o = _ from hb]
  · exact Or.inr ⟨e, rfl, Or.inl hasked⟩
  · simp only [Trail.record_append, hasked, List.nil_append]
    rcases record_forward engine orientation (currentOrientation host axis s).state with
      ⟨hok, hrecord⟩ | ⟨e, he, hrecord⟩
    · rw [bridge_currentOrientation] at hrecord
      exact Or.inl ⟨orientation, hok, hrecord⟩
    · exact Or.inr ⟨e, he, Or.inr ⟨orientation, hrecord⟩⟩

/-! ### Accounts -/

/-- **The records there can be** of a bridge that has not failed, or that fails next: of an engine
that takes what it is told, up to a call that it rejects. -/
inductive Accounts : Trail → Prop
  | nothing : Accounts []
  | refused (snapshot : Snapshot) (e : Failure) : Accounts [.called (.snapshot snapshot) (.error e)]
  | mute (snapshot : Snapshot) (orientation : Orientation) (e : Failure) :
    Accounts (initializing snapshot ++ [.called (.orientation orientation) (.error e)])
  | whole (snapshot : Snapshot) (first : Orientation) (later : List Orientation) :
    Accounts (account snapshot first later)
  | rejected (snapshot : Snapshot) (first : Orientation) (later : List Orientation)
    (orientation : Orientation) (e : Failure) :
    Accounts (account snapshot first later ++ [.called (.orientation orientation) (.error e)])

/-- **A record as a bridge in the phase has it.** -/
inductive OnRecord : Phase → Trail → Prop
  | idle : OnRecord .uninitialized []
  | serving (snapshot : Snapshot) (first : Orientation) (later : List Orientation) :
    OnRecord .active (account snapshot first later)
  | failed {t : Trail} (event : Event) (severe : event.level = .error) (h : Accounts t) :
    OnRecord .poisoned (t ++ [.logged event])

theorem telling_append (last : Option Orientation) (os : List Orientation) (o : Orientation) :
    telling last (os ++ [o]) = telling last os ++ telling (os.getLast?.or last) [o] := by
  induction os generalizing last with
  | nil => rfl
  | cons a os ih =>
    rw [List.cons_append, telling, ih, telling, List.getLast?_cons]
    cases os.getLast? <;> rfl

@[simp] theorem calls_telling (last : Option Orientation) (os : List Orientation) :
    (telling last os).calls = os.map fun o => (.orientation o, .ok ()) := by
  induction os generalizing last with
  | nil => rfl
  | cons o os ih => simp [telling, ih]

theorem calls_account (snapshot : Snapshot) (first : Orientation) (later : List Orientation) :
    (account snapshot first later).calls = served snapshot (first :: later) := by
  simp [account, initializing, served]

theorem account_append (snapshot : Snapshot) (first : Orientation) (later : List Orientation)
    (o : Orientation) : account snapshot first (later ++ [o]) =
      account snapshot first later ++ telling ((first :: later).getLast?) [o] := by
  rw [account, telling_append, List.getLast?_cons, account, List.append_assoc]
  cases later.getLast? <;> rfl

theorem OnRecord.accounts {phase : Phase} {t : Trail} (h : OnRecord phase t)
    (sound : phase ≠ .poisoned) : Accounts t := by
  cases h with
  | idle => exact .nothing
  | serving snapshot first later => exact .whole snapshot first later
  | failed event severe h => exact absurd rfl sound

theorem Delivery.severe_complaint (d : Delivery) : d.complaint.level = .error := by
  cases d <;> rfl

section

variable (d : Delivery) (s : Scene σ ε) {t : Trail}

/-- The work of a delivery carries the account on. -/
theorem onRecord_work (h : OnRecord s.bridge.phase t.record) (tuned : InTune s.bridge t)
    (hs : s.bridge.phase = d.awaited) :
    let o := work host engine d s
    Accounts (Trail.record (t ++ o.trail)) ∧
      (o.result = .ok () → OnRecord .active (Trail.record (t ++ o.trail))) := by
  intro o
  have hlast := tuned.last
  rw [Trail.accepted, ← Trail.calls_record] at hlast
  rw [Trail.record_append]
  rw [hs] at h
  generalize t.record = front at h hlast
  cases d with
  | start =>
    change OnRecord .uninitialized front at h
    cases h with
    | idle =>
      rw [List.nil_append]
      rcases record_start host engine hs hlast with
        ⟨snapshot, orientation, hrecord⟩ | ⟨e, he, hrecord⟩
      · rw [show Trail.record o.trail = _ from hrecord]
        exact ⟨.whole snapshot orientation [], fun _ => .serving snapshot orientation []⟩
      · have hfailed : o.result ≠ .ok () := fun hok => by cases he.symm.trans hok
        refine ⟨?_, fun hok => absurd hok hfailed⟩
        rcases hrecord with hrecord | ⟨snapshot, hrecord | ⟨orientation, hrecord⟩⟩ <;>
          rw [show Trail.record o.trail = _ from hrecord]
        · exact .nothing
        · exact .refused snapshot e
        · exact .mute snapshot orientation e
  | configurationChanged axis =>
    change OnRecord .active front at h
    cases h with
    | serving snapshot first later =>
      rw [calls_account, accepted_served] at hlast
      rcases record_update host engine axis s with
        ⟨orientation, hok, hrecord⟩ | ⟨e, he, hrecord⟩
      · rw [show Trail.record o.trail = _ from hrecord, hlast, ← account_append]
        exact ⟨.whole snapshot first _, fun _ => .serving snapshot first _⟩
      · have hfailed : o.result ≠ .ok () := fun hok => by cases he.symm.trans hok
        refine ⟨?_, fun hok => absurd hok hfailed⟩
        rcases hrecord with hrecord | ⟨orientation, hrecord⟩ <;>
          rw [show Trail.record o.trail = _ from hrecord]
        · rw [List.append_nil]
          exact .whole snapshot first later
        · exact .rejected snapshot first later orientation e

/-- **Every delivery keeps the record in order.** -/
theorem onRecord_deliver (h : OnRecord s.bridge.phase t.record) (tuned : InTune s.bridge t) :
    let o := deliver host engine d s
    OnRecord o.state.bridge.phase (Trail.record (t ++ o.trail)) := by
  intro o
  by_cases hp : s.bridge.phase = .poisoned
  · simp only [o, deliver_of_poisoned hp, List.append_nil]
    exact h
  by_cases ha : s.bridge.phase = d.awaited
  · obtain ⟨haccounts, hserving⟩ := onRecord_work host engine d s h tuned ha
    simp only [o, deliver_of_awaited ha]
    rcases guarded_cases (work host engine d) s with ⟨hok, hg⟩ | ⟨e, -, hg⟩ <;> rw [hg]
    · rw [work_attains host engine d s ha hok]
      exact hserving hok
    · rw [← List.append_assoc, Trail.record_append, Trail.record_error rfl]
      exact .failed (.fatal e) rfl haccounts
  · simp only [o, deliver_of_untimely hp ha]
    rw [Trail.record_append, Trail.record_error (Delivery.severe_complaint d)]
    exact .failed d.complaint (Delivery.severe_complaint d) (h.accounts hp)

end

/-- A delivery that fails, of a bridge that has not failed before, logs an error last of all. -/
theorem logs_error_last {host : Host σ} {engine : Engine ε} {d : Delivery} {s : Scene σ ε} {e : Failure}
    (sound : s.bridge.phase ≠ .poisoned) (he : (deliver host engine d s).result = .error e) :
    ∃ t event, (deliver host engine d s).trail = t ++ [.logged event] ∧ event.level = .error := by
  by_cases ha : s.bridge.phase = d.awaited
  · rw [deliver_of_awaited ha] at he ⊢
    rcases guarded_cases (work host engine d) s with ⟨hok, hg⟩ | ⟨e', -, hg⟩
    · rw [hg, hok] at he
      cases he
    · rw [hg]
      exact ⟨_, .fatal e', rfl, rfl⟩
  · rw [deliver_of_untimely sound ha]
    exact ⟨[], d.complaint, rfl, Delivery.severe_complaint d⟩

/-- Behind an account a poisoned bridge has one failure on record, and any other bridge nothing. -/
theorem OnRecord.cases {phase : Phase} {t : Trail} (h : OnRecord phase t) :
    phase ≠ .poisoned ∧ Accounts t ∨
      phase = .poisoned ∧ ∃ u event, event.level = .error ∧ Accounts u ∧ t = u ++ [.logged event] := by
  cases h with
  | idle => exact Or.inl ⟨nofun, .nothing⟩
  | serving snapshot first later => exact Or.inl ⟨nofun, .whole snapshot first later⟩
  | failed event severe h => exact Or.inr ⟨rfl, _, event, severe, h, rfl⟩

end Bridge

end PlatformBridge
