import PlatformBridge.Proofs.Lifecycle.Itinerary
import PlatformBridge.Proofs.Lifecycle.Record

/-!
# What the log tells

After any number of visits, whatever hosts and engine did, the log of the bridge can be believed.

* `Log.Event.transition?`, `Log.Event.forwarding?` — what an event tells of phases and orientations;
* `Accounts.forwardings`, `Accounts.transitions`, `Accounts.sound` — what is read off an account;
* `exists_accounts` — every run has an account;
* `first_failure` — the visit of a run that failed first, if any did;
* `log_tells_truth` — what the log of a whole run tells.
-/

namespace PlatformBridge

open PlatformBridge.Action Engine
open Log (Event)

/-! ### What events tell -/

/-- The phases, if the event tells of a move between phases. -/
def Log.Event.transition? : Event → Option (Phase × Phase)
  | transition before after => some (before, after)
  | _ => none

/-- The code and the flag, if the event tells that the engine took an orientation. -/
def Log.Event.forwarding? : Event → Option (Int32 × Bool)
  | forwarded orientation changed => some (orientation.code, changed)
  | _ => none

namespace Log.Event

variable {event : Event}

theorem transition?_of_error (h : event.level = .error) : event.transition? = none := by
  cases event <;> simp_all [transition?, level]

theorem forwarding?_of_error (h : event.level = .error) : event.forwarding? = none := by
  cases event <;> simp_all [forwarding?, level]

theorem transition?_of_plain (h : event.isNotable = false) : event.transition? = none := by
  cases event <;> simp_all [transition?, isNotable]

theorem forwarding?_of_plain (h : event.isNotable = false) : event.forwarding? = none := by
  cases event <;> simp_all [forwarding?, isNotable]

end Log.Event

/-- Each item, and whether it is another one than the item before. -/
def Log.marked {α : Type} [DecidableEq α] : Option α → List α → List (α × Bool)
  | _, [] => []
  | last, a :: as => (a, last ≠ some a) :: marked (some a) as

/-- The orientation and whether it was accepted, if the call told one. -/
def Engine.told? : Call × Except Failure Unit → Option (Orientation × Except Failure Unit)
  | (.orientation orientation, reply) => some (orientation, reply)
  | _ => none

def Trail.told (t : Trail) : List (Orientation × Except Failure Unit) :=
  t.calls.filterMap Engine.told?

namespace Bridge

/-! ### What is read off an account -/

theorem marked_telling (last : Option Orientation) (os : List Orientation) :
    (telling last os).ownEvents.filterMap Event.forwarding? =
      Log.marked (last.map Orientation.code) (os.map Orientation.code) := by
  induction os generalizing last with
  | nil => rfl
  | cons o os ih =>
    have hsame : last = some o ↔ last.map Orientation.code = some o.code := by
      constructor
      · rintro rfl
        rfl
      · intro h
        obtain ⟨o', rfl, hcode⟩ := Option.map_eq_some_iff.mp h
        rw [Orientation.code_injective hcode]
    have hchanged : decide (last ≠ some o) = decide (last.map Orientation.code ≠ some o.code) :=
      decide_eq_decide.mpr (not_congr hsame)
    rw [List.map_cons, Log.marked, ← hchanged]
    exact congrArg (_ :: ·) (ih (some o))

theorem transitions_telling (last : Option Orientation) (os : List Orientation) :
    (telling last os).ownEvents.filterMap Event.transition? = [] := by
  induction os generalizing last with
  | nil => rfl
  | cons o os ih => exact ih (some o)

theorem sound_telling (last : Option Orientation) (os : List Orientation) :
    ∀ event ∈ (telling last os).ownEvents, event.level ≠ .error := by
  induction os generalizing last with
  | nil => exact List.forall_mem_nil _
  | cons o os ih => exact List.forall_mem_cons.mpr ⟨nofun, ih (some o)⟩

section

variable (snapshot : Snapshot) (first : Orientation) (later : List Orientation)

/-- The events of an account: two moves, with the first orientation between them, and the other
orientations. -/
theorem ownEvents_account : (account snapshot first later).ownEvents =
    [.transition .uninitialized .initialized, .forwarded first true,
      .transition .initialized .active] ++ (telling (some first) later).ownEvents := by
  simp only [account, Trail.ownEvents_append]
  rfl

theorem marked_account : (account snapshot first later).ownEvents.filterMap Event.forwarding? =
    Log.marked none ((first :: later).map Orientation.code) := by
  rw [ownEvents_account, List.filterMap_append, marked_telling]
  rfl

theorem transitions_account :
    (account snapshot first later).ownEvents.filterMap Event.transition? =
      [(.uninitialized, .initialized), (.initialized, .active)] := by
  rw [ownEvents_account, List.filterMap_append, transitions_telling]
  rfl

theorem sound_account : ∀ event ∈ (account snapshot first later).ownEvents, event.level ≠ .error := by
  rw [ownEvents_account]
  refine List.forall_mem_append.mpr ⟨?_, sound_telling _ _⟩
  simp [Event.level]

end

theorem told_served (snapshot : Snapshot) (orientations : List Orientation) :
    (served snapshot orientations).filterMap told? = orientations.map (·, .ok ()) := by
  rw [served, List.filterMap_cons_none rfl, List.filterMap_map]
  exact congrFun List.filterMap_eq_map _

namespace Accounts

variable {t : Trail}

/-- **Orientations**: what the bridge says was forwarded is what the engine accepted. -/
theorem forwardings (h : Accounts t) : t.ownEvents.filterMap Event.forwarding? =
    Log.marked none (t.accepted.map Orientation.code) := by
  cases h with
  | nothing | refused | mute => rfl
  | whole snapshot first later => rw [marked_account, Trail.accepted, calls_account, accepted_served]
  | rejected snapshot first later orientation e =>
    have hnone : Trail.accepted [.called (.orientation orientation) (.error e)] = [] := rfl
    rw [Trail.ownEvents_append, List.filterMap_append, marked_account, Trail.accepted_append, hnone,
      Trail.accepted, calls_account, accepted_served, List.append_nil]
    exact List.append_nil _

/-- **Phases**: the bridge says that it moved on when the engine accepted the snapshot, and again when
it accepted the first orientation. -/
theorem transitions (h : Accounts t) :
    let moves := t.ownEvents.filterMap Event.transition?
    moves <+: [(.uninitialized, .initialized), (.initialized, .active)] ∧
    ((.uninitialized, .initialized) ∈ moves ↔ ∃ snapshot, t.handed.head? = some (snapshot, .ok ())) ∧
    ((.initialized, .active) ∈ moves ↔ ∃ orientation, t.told.head? = some (orientation, .ok ())) := by
  intro moves
  cases h with
  | nothing | refused =>
    exact ⟨List.nil_prefix, iff_of_false List.not_mem_nil (fun ⟨_, h⟩ => nomatch h),
      iff_of_false List.not_mem_nil (fun ⟨_, h⟩ => nomatch h)⟩
  | mute snapshot orientation e =>
    have hmoves : moves = [(.uninitialized, .initialized)] := rfl
    rw [hmoves]
    exact ⟨⟨_, rfl⟩, iff_of_true List.mem_cons_self ⟨snapshot, rfl⟩,
      iff_of_false (by simp) (fun ⟨_, h⟩ => nomatch h)⟩
  | whole snapshot first later =>
    rw [show moves = _ from transitions_account snapshot first later, Trail.handed, Trail.told,
      calls_account, handed_served, told_served]
    exact ⟨List.prefix_rfl, iff_of_true (by simp) ⟨snapshot, rfl⟩, iff_of_true (by simp) ⟨first, rfl⟩⟩
  | rejected snapshot first later orientation e =>
    have hmoves : moves = [(.uninitialized, .initialized), (.initialized, .active)] := by
      simp only [moves, Trail.ownEvents_append, List.filterMap_append, transitions_account]
      rfl
    rw [hmoves, Trail.handed, Trail.told, Trail.calls_append, calls_account, List.filterMap_append,
      handed_served, List.filterMap_append, told_served]
    exact ⟨List.prefix_rfl, iff_of_true (by simp) ⟨snapshot, rfl⟩, iff_of_true (by simp) ⟨first, rfl⟩⟩

/-- **Failures**: there is none. -/
theorem sound (h : Accounts t) : ∀ event ∈ t.ownEvents, event.level ≠ .error := by
  cases h with
  | nothing | refused => exact List.forall_mem_nil _
  | mute => exact List.forall_mem_singleton.mpr nofun
  | whole snapshot first later => exact sound_account snapshot first later
  | rejected snapshot first later orientation e =>
    rw [Trail.ownEvents_append]
    exact List.forall_mem_append.mpr ⟨sound_account snapshot first later, List.forall_mem_nil _⟩

end Accounts

end Bridge

namespace Run

variable {ε : Type}

/-! ### The record of a run -/

/-- **Every run is on record.** -/
theorem onRecord (r : Run ε) : Bridge.OnRecord r.bridge.phase r.trail.record := by
  induction r using visit_induction with
  | made => exact .idle
  | visited r v ih =>
    rw [bridge_visit, trail_visit]
    exact Bridge.onRecord_deliver v.host r.engine v.delivery ⟨r.bridge, v.state, r.reached.2⟩ ih
      r.consistent.inTune

/-- What the calls of a run and its log tell of phases and orientations is an account. -/
theorem exists_accounts (r : Run ε) : ∃ t, Bridge.Accounts t ∧ t.calls = r.trail.calls ∧
    t.ownEvents.filterMap Event.forwarding? = r.trail.ownEvents.filterMap Event.forwarding? ∧
    t.ownEvents.filterMap Event.transition? = r.trail.ownEvents.filterMap Event.transition? := by
  rw [← Trail.calls_record, ← Trail.filterMap_record Event.forwarding?_of_plain,
    ← Trail.filterMap_record Event.transition?_of_plain]
  rcases r.onRecord.cases with ⟨-, haccounts⟩ | ⟨-, u, event, severe, haccounts, hrecord⟩
  · exact ⟨_, haccounts, rfl, rfl, rfl⟩
  · -- A failure is neither a call nor about an orientation or a phase.
    refine ⟨u, haccounts, ?_, ?_, ?_⟩ <;> rw [hrecord]
    · simp
    · simp [Trail.ownEvents, Effect.ownEvent?, Event.forwarding?_of_error severe]
    · simp [Trail.ownEvents, Effect.ownEvent?, Event.transition?_of_error severe]

theorem sound_of_phase {r : Run ε} (h : r.bridge.phase ≠ .poisoned) :
    ∀ event ∈ r.trail.ownEvents, event.level ≠ .error := by
  rcases r.onRecord.cases with ⟨-, haccounts⟩ | ⟨hpoisoned, -⟩
  · exact fun event hmem severe => haccounts.sound event (Trail.mem_record severe hmem) severe
  · exact absurd hpoisoned h

theorem sound_before {r : Run ε} {t : Trail} {event : Event} (h : r.bridge.phase = .poisoned)
    (hlast : r.trail = t ++ [.logged event]) (severe : event.level = .error) :
    ∀ other ∈ t.ownEvents, other.level ≠ .error := by
  rcases r.onRecord.cases with ⟨hsound, -⟩ | ⟨-, u, event', -, haccounts, hrecord⟩
  · exact absurd h hsound
  · rw [hlast, Trail.record_append, Trail.record_error severe] at hrecord
    obtain ⟨hfront, -⟩ := List.append_inj' hrecord rfl
    intro other hmem hother
    have hmem := Trail.mem_record hother hmem
    rw [hfront] at hmem
    exact haccounts.sound other hmem hother

/-! ### The visit that failed first -/

/-- **The first failure of a run**: no visit failed, or one was the first that did, and nothing at all was
done after it. -/
theorem first_failure (r : Run ε) :
    (r.bridge.phase ≠ .poisoned ∧ ∀ entry ∈ r.journal, entry.result = .ok ()) ∨
      r.bridge.phase = .poisoned ∧ ∃ before v later e, r.visits = before ++ v :: later ∧
        let past : Run ε := { r with visits := before }
        past.bridge.phase ≠ .poisoned ∧ (∀ entry ∈ past.journal, entry.result = .ok ()) ∧
          (past.next v).result = .error e ∧ r.trail = past.trail ++ (past.next v).trail := by
  induction r using visit_induction with
  | made => exact Or.inl ⟨by rintro ⟨⟩, List.forall_mem_nil _⟩
  | visited r v ih =>
    rcases ih with ⟨hsound, hall⟩ | ⟨hpoisoned, before, u, later, e, hvisits, hfirst⟩
    · rcases Bridge.deliver_ends v.host r.engine v.delivery ⟨r.bridge, v.state, r.reached.2⟩ with
        ⟨hok, -, hactive⟩ | ⟨e, he, hpoisoned⟩
      · refine Or.inl ⟨?_, ?_⟩
        · rw [bridge_visit, next, hactive]
          rintro ⟨⟩
        · rw [journal_visit]
          exact List.forall_mem_append.mpr ⟨hall, List.forall_mem_singleton.mpr hok⟩
      · refine Or.inr ⟨?_, r.visits, v, [], e, rfl, hsound, hall, he, trail_visit r v⟩
        rw [bridge_visit]
        exact hpoisoned
    · refine Or.inr ⟨?_, before, u, later ++ [v], e, ?_, ?_⟩
      · rw [bridge, reached_of_poisoned hpoisoned]
        exact hpoisoned
      · simp [extend, hvisits]
      · rw [trail_of_poisoned hpoisoned]
        exact hfirst

/-- **The log tells the truth**, whatever hosts, engine and visits there are. It tells of the orientations
that the engine accepted, in order, each by its code and with whether that is another code than before.
It tells that the bridge was initialized, and then that it was active, as far as it came: if the engine
accepted the snapshot, and if it accepted the first orientation. And it tells of no failure, if no visit
failed; else of one, in the visit that failed first, and then of nothing more. -/
theorem log_tells_truth (r : Run ε) :
    let log := r.trail.ownEvents
    log.filterMap Event.forwarding? = Log.marked none (r.trail.accepted.map Orientation.code) ∧
    (log.filterMap Event.transition? <+: [(.uninitialized, .initialized), (.initialized, .active)] ∧
      ((.uninitialized, .initialized) ∈ log.filterMap Event.transition? ↔
        ∃ snapshot, r.trail.handed.head? = some (snapshot, .ok ())) ∧
      ((.initialized, .active) ∈ log.filterMap Event.transition? ↔
        ∃ orientation, r.trail.told.head? = some (orientation, .ok ()))) ∧
    ((∀ entry ∈ r.journal, entry.result = .ok ()) ∧ (∀ event ∈ log, event.level ≠ .error) ∨
      ∃ before v later e, r.visits = before ++ v :: later ∧
        let past : Run ε := { r with visits := before }
        (∀ entry ∈ past.journal, entry.result = .ok ()) ∧ (past.next v).result = .error e ∧
        ∃ events event, Trail.ownEvents (past.next v).trail = events ++ [event] ∧
          event.level = .error ∧ log = past.trail.ownEvents ++ events ++ [event] ∧
          ∀ other ∈ past.trail.ownEvents ++ events, other.level ≠ .error) := by
  intro log
  obtain ⟨t, haccounts, hcalls, hforwardings, htransitions⟩ := r.exists_accounts
  refine ⟨?_, ?_, ?_⟩
  · rw [← hforwardings, haccounts.forwardings, Trail.accepted, hcalls]
    rfl
  · rw [← htransitions]
    have h := haccounts.transitions
    rw [Trail.handed, Trail.told, hcalls] at h
    exact h
  · rcases r.first_failure with ⟨hsound, hall⟩ |
      ⟨hpoisoned, before, v, later, e, hvisits, hpast, hall, he, htrail⟩
    · exact Or.inl ⟨hall, sound_of_phase hsound⟩
    · refine Or.inr ⟨before, v, later, e, hvisits, hall, he, ?_⟩
      obtain ⟨u, event, hlast, severe⟩ := Bridge.logs_error_last hpast he
      have hlast : (({ r with visits := before } : Run ε).next v).trail = u ++ [.logged event] := hlast
      rw [hlast, ← List.append_assoc] at htrail
      refine ⟨Trail.ownEvents u, event, ?_, severe, ?_, ?_⟩
      · rw [hlast, Trail.ownEvents_append]
        rfl
      · simp only [log, htrail, Trail.ownEvents_append]
        rfl
      · rw [← Trail.ownEvents_append]
        exact sound_before hpoisoned htrail severe

end Run

end PlatformBridge
