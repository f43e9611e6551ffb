import Mathlib.Data.List.Nodup
import PlatformBridge.Proofs.Lifecycle.Run

/-!
# What hosts are asked over a run

A run makes its steps visit by visit. A visit that finds the bridge in the phase that it awaits
makes the steps of its plan; any other makes none.

* `journal r` — what each visit found and what came of it;
* `itinerary r` — the plans of the visits that came in their place, one after the other;
* `followed_itinerary` — every run follows its itinerary, up to the first failure;
* `asked_in_order` — so hosts are asked as a start asks them, each thing once, and then for their
  rotation alone, up to the first failure.
-/

namespace PlatformBridge

open PlatformBridge.Action Engine
open Bridge (Step Followed Follows)

/-! ### The queries among the steps -/

def Bridge.Step.query? : Step → Option Query
  | ask q => some q
  | snapshot | orientation => none

theorem Trail.queries_eq (t : Trail) : t.queries = t.steps.filterMap fun x => x.1.query? := by
  induction t with
  | nil => rfl
  | cons effect t ih =>
    cases effect with
    | asked q reply => simpa [Step.query?] using ih
    | called call reply => cases call <;> simpa [Step.query?, Call.step] using ih
    | logged event => simpa using ih
    | host effect => exact ih
    | engine effect => exact ih

/-- What a start asks, in order. -/
def Bridge.startQueries (settings : Settings) : List Query :=
  [.packageName, .deviceIdentity, .osRelease, .locale, .realDisplaySize, .cacheDir,
    .nativeLibraryDir, .axisOrientation, .displayRotation] ++
      if settings.immersive then [.requestImmersive] else []

theorem Bridge.startQueries_nodup (settings : Settings) : (startQueries settings).Nodup := by
  cases h : settings.immersive <;> simp [startQueries, h]

theorem Delivery.queries_plan_start (settings : Settings) :
    (plan settings .start).filterMap Step.query? = Bridge.startQueries settings := by
  cases h : settings.immersive <;> simp only [plan, Bridge.startQueries, h] <;> rfl

namespace Bridge.Followed

variable {α : Type} {p : List Step} {r : Except Failure α} {e : Failure} {a : α}
  {xs ys : List (Step × Except Failure Unit)} {x : Step × Except Failure Unit}

theorem isPrefix (h : Followed p r xs) : xs.map Prod.fst <+: p := by
  induction h with
  | done => exact List.nil_prefix
  | stopped step rest e => simp
  | passed step _ ih => simpa using ih

theorem eq_of_ok (h : Followed p (.ok a : Except Failure α) xs) : xs = p.map (·, .ok ()) := by
  generalize hr : (Except.ok a : Except Failure α) = r at h
  induction h with
  | done => rfl
  | stopped => cases hr
  | passed step _ ih => rw [List.map_cons, ← ih hr]

theorem ok_of_steps (h : Followed p r xs) (hok : ∀ x ∈ xs, x.2 = .ok ()) : ∃ a, r = .ok a := by
  induction h with
  | done a => exact ⟨a, rfl⟩
  | stopped step rest e => cases hok (step, .error e) (List.mem_singleton_self _)
  | passed step _ ih => exact ih fun x hx => hok x (List.mem_cons_of_mem _ hx)

theorem split (h : Followed p r (xs ++ x :: ys)) :
    ∃ front back, p = front ++ x.1 :: back ∧ xs = front.map (·, .ok ()) := by
  -- Along the steps before: each takes one off the front of the plan.
  induction xs generalizing p with
  | nil =>
    obtain ⟨step, reply⟩ := x
    rw [List.nil_append] at h
    cases h with
    | stopped _ rest e => exact ⟨[], rest, rfl, rfl⟩
    | passed _ h => exact ⟨[], _, rfl, rfl⟩
  | cons y xs ih =>
    rw [List.cons_append] at h
    generalize hzs : xs ++ x :: ys = zs at h
    cases h with
    | stopped => simp at hzs
    | passed step h =>
      obtain ⟨front, back, rfl, rfl⟩ := ih (hzs ▸ h)
      exact ⟨step :: front, back, rfl, rfl⟩

theorem eq_nil_of_error (h : Followed p r (xs ++ (x.1, .error e) :: ys)) : ys = [] := by
  induction xs generalizing p with
  | nil =>
    rw [List.nil_append] at h
    cases h with
    | stopped => rfl
  | cons y xs ih =>
    rw [List.cons_append] at h
    generalize hzs : xs ++ (x.1, Except.error e) :: ys = zs at h
    cases h with
    | stopped => simp at hzs
    | passed step h => exact ih (hzs ▸ h)

theorem pairwise (h : Followed p r xs) : xs.Pairwise fun x _ => x.2 = .ok () := by
  induction h with
  | done => exact .nil
  | stopped => exact List.pairwise_singleton ..
  | passed step _ ih => exact .cons (fun _ _ => rfl) ih

/-- A failure stops at a step of the plan: those before it succeeded and those behind it are not
made. -/
theorem stopped_at (h : Followed p (.error e : Except Failure α) xs) :
    ∃ front step back, p = front ++ step :: back ∧
      xs = front.map (·, .ok ()) ++ [(step, .error e)] := by
  generalize hr : (Except.error e : Except Failure α) = r at h
  induction h with
  | done => cases hr
  | stopped step rest e' =>
    cases hr
    exact ⟨[], step, rest, rfl, rfl⟩
  | passed step _ ih =>
    obtain ⟨front, last, back, rfl, rfl⟩ := ih hr
    exact ⟨step :: front, last, back, rfl, rfl⟩

theorem result_of_error (h : Followed p r xs) {step : Step} (hx : (step, .error e) ∈ xs) :
    r = .error e := by
  induction h with
  | done => cases hx
  | stopped step rest e' =>
    cases List.mem_singleton.mp hx
    rfl
  | passed step _ ih =>
    rcases List.mem_cons.mp hx with hx | hx
    · cases hx
    · exact ih hx

end Bridge.Followed

/-! ### What a delivery asks -/

namespace Bridge

variable {σ ε : Type} (host : Host σ) (engine : Engine ε) (d : Delivery) (s : Scene σ ε)

/-- A delivery in its place makes the steps of its plan, up to the first failure. -/
theorem followed_deliver (h : s.bridge.phase = d.awaited) :
    Followed (d.plan s.bridge.settings) (deliver host engine d s).result
      (Trail.steps (deliver host engine d s).trail) := by
  have hwork := followed_work host engine d s
  rw [deliver_of_awaited h]
  rcases guarded_cases (work host engine d) s with ⟨-, hg⟩ | ⟨e, he, hg⟩
  · rw [hg]
    exact hwork
  · rw [he] at hwork
    rw [hg]
    simpa using hwork

theorem steps_deliver_of_untimely (h : s.bridge.phase ≠ d.awaited) :
    Trail.steps (deliver host engine d s).trail = [] := by
  by_cases hp : s.bridge.phase = .poisoned
  · rw [deliver_of_poisoned hp]
    rfl
  · rw [deliver_of_untimely hp h]
    rfl

/-- A start asks what starts ask up to the first failure, a change asks for the rotation. -/
theorem queries_deliver : s.bridge.phase = d.awaited →
    let asked := Trail.queries (deliver host engine d s).trail
    match d with
    | .start => asked <+: startQueries s.bridge.settings ∧
        ((deliver host engine d s).result = .ok () → asked = startQueries s.bridge.settings)
    | .configurationChanged _ => asked = [.displayRotation] := by
  intro h
  have hfollowed := followed_deliver host engine d s h
  simp only [Trail.queries_eq]
  cases d with
  | start =>
    simp only [← Delivery.queries_plan_start]
    constructor
    · simpa [List.filterMap_map, Function.comp_def] using hfollowed.isPrefix.filterMap Step.query?
    · intro hok
      rw [hok] at hfollowed
      rw [hfollowed.eq_of_ok]
      simp [List.filterMap_map]
  | configurationChanged axis =>
    generalize (deliver host engine (.configurationChanged axis) s).result = result,
      Trail.steps (deliver host engine (.configurationChanged axis) s).trail = steps at hfollowed
    -- The first step is always made, and the second one is no query.
    cases hfollowed with
    | stopped => rfl
    | passed _ hrest =>
      cases hrest with
      | stopped => rfl
      | passed _ hrest =>
        cases hrest
        rfl

/-- **A delivery asks nothing twice.** -/
theorem nodup_queries_deliver : (Trail.queries (deliver host engine d s).trail).Nodup := by
  by_cases h : s.bridge.phase = d.awaited
  · have hqueries := queries_deliver host engine d s h
    cases d with
    | start => exact hqueries.1.sublist.nodup (startQueries_nodup s.bridge.settings)
    | configurationChanged axis =>
      rw [show Trail.queries _ = _ from hqueries]
      exact List.nodup_singleton _
  · rw [Trail.queries_eq, steps_deliver_of_untimely host engine d s h]
    exact List.nodup_nil

end Bridge

/-! ### The itinerary of a run -/

/-- What a visit found, what it delivered, and what came of it. -/
structure Run.Entry where
  found : Phase
  delivery : Delivery
  result : Except Failure Unit

def Run.Entry.timely (entry : Entry) : Bool := entry.found = entry.delivery.awaited

namespace Run

variable {ε : Type}

def entries (engine : Engine ε) : List Visit → Bridge × ε → List Entry
  | [], _ => []
  | v :: later, s =>
    let o := v.play engine s
    ⟨s.1.phase, v.delivery, o.result⟩ :: entries engine later o.state

/-- **The journal of a run.** -/
def journal (r : Run ε) : List Entry := entries r.engine r.visits ({ settings := r.settings }, r.memory)

/-- The plans of the deliveries that came in their place, one after the other. -/
def itinerary (r : Run ε) : List Step :=
  (r.journal.filter (·.timely)).flatMap fun entry => entry.delivery.plan r.settings

theorem entries_append (engine : Engine ε) (visits later : List Visit) (s : Bridge × ε) :
    entries engine (visits ++ later) s =
      entries engine visits s ++ entries engine later (after (visits.map (·.play engine)) s) := by
  induction visits generalizing s with
  | nil => rfl
  | cons v visits ih =>
    rw [List.cons_append, entries, ih]
    rfl

theorem journal_visit (r : Run ε) (v : Visit) :
    (r.extend [v]).journal = r.journal ++ [⟨r.bridge.phase, v.delivery, (r.next v).result⟩] :=
  entries_append r.engine r.visits [v] _

theorem trail_visit (r : Run ε) (v : Visit) : (r.extend [v]).trail = r.trail ++ (r.next v).trail := by
  simp only [trail, extend, List.map_append, history_append]
  exact congrArg _ (List.append_nil _)

theorem itinerary_visit (r : Run ε) (v : Visit) : (r.extend [v]).itinerary =
    r.itinerary ++ if r.bridge.phase = v.delivery.awaited then v.delivery.plan r.settings else [] := by
  have hsettings : (r.extend [v]).settings = r.settings := rfl
  rw [itinerary, journal_visit, List.filter_append, List.flatMap_append, hsettings]
  by_cases h : r.bridge.phase = v.delivery.awaited <;> simp [Entry.timely, itinerary, h]

theorem settings_bridge (r : Run ε) : r.bridge.settings = r.settings := by
  induction r using visit_induction with
  | made => rfl
  | visited r v ih =>
    rw [bridge_visit]
    exact (Bridge.settings_deliver ..).trans ih

/-- A visit in its place makes the steps of its plan, up to the first failure. -/
theorem followed_next {r : Run ε} {v : Visit} (h : r.bridge.phase = v.delivery.awaited) :
    Followed (v.delivery.plan r.settings) (r.next v).result (Trail.steps (r.next v).trail) := by
  have hdelivery := Bridge.followed_deliver v.host r.engine v.delivery ⟨r.bridge, v.state, r.reached.2⟩ h
  rwa [settings_bridge] at hdelivery

theorem steps_next_of_untimely {r : Run ε} {v : Visit} (h : r.bridge.phase ≠ v.delivery.awaited) :
    Trail.steps (r.next v).trail = [] :=
  Bridge.steps_deliver_of_untimely v.host r.engine v.delivery _ h

/-- **Every run follows its itinerary** up to the first failure, which poisons the bridge. -/
theorem followed_itinerary (r : Run ε) : ∃ result : Except Failure Unit,
    Followed r.itinerary result r.trail.steps ∧ (result = .ok () ∨ r.bridge.phase = .poisoned) := by
  induction r using visit_induction with
  | made => exact ⟨.ok (), .done (), Or.inl rfl⟩
  | visited r v ih =>
    obtain ⟨result, hfollowed, hend⟩ := ih
    rw [itinerary_visit, trail_visit, Trail.steps_append, bridge_visit]
    by_cases h : r.bridge.phase = v.delivery.awaited
    · -- The bridge is not poisoned, so nothing has failed so far.
      have hok : result = .ok () := by
        refine hend.resolve_right fun hp => ?_
        rw [hp] at h
        cases hd : v.delivery <;> rw [hd] at h <;> cases h
      rw [if_pos h]
      rw [hok] at hfollowed
      refine ⟨(r.next v).result, hfollowed.append (followed_next h), ?_⟩
      rcases Bridge.deliver_ends v.host r.engine v.delivery ⟨r.bridge, v.state, r.reached.2⟩ with
        ⟨hresult, -, -⟩ | ⟨e, -, hp⟩
      · exact Or.inl hresult
      · exact Or.inr hp
    · rw [if_neg h, steps_next_of_untimely h, List.append_nil, List.append_nil]
      refine ⟨result, hfollowed, hend.imp_right fun hp => ?_⟩
      rw [next, Bridge.deliver_of_poisoned hp]
      exact hp

/-! ### What is asked -/

/-- Some start of the run succeeded. -/
def Started (r : Run ε) : Prop := ∃ entry ∈ r.journal, entry.delivery = .start ∧ entry.result = .ok ()

/-- The number of changes of the configuration that found the bridge active. -/
def changes (r : Run ε) : Nat :=
  r.journal.countP fun entry => entry.found = .active ∧ entry.delivery ≠ .start

theorem started_visit {r : Run ε} {v : Visit} : (r.extend [v]).Started ↔
    r.Started ∨ v.delivery = .start ∧ (r.next v).result = .ok () := by
  simp [Started, journal_visit, or_and_right, exists_or]

theorem queries_next {r : Run ε} {v : Visit} (h : r.bridge.phase = v.delivery.awaited) :
    let asked := Trail.queries (r.next v).trail
    match v.delivery with
    | .start => asked <+: Bridge.startQueries r.settings ∧
        ((r.next v).result = .ok () → asked = Bridge.startQueries r.settings)
    | .configurationChanged _ => asked = [.displayRotation] := by
  have hqueries := Bridge.queries_deliver v.host r.engine v.delivery ⟨r.bridge, v.state, r.reached.2⟩ h
  rwa [settings_bridge] at hqueries

theorem queries_next_of_untimely {r : Run ε} {v : Visit}
    (h : r.bridge.phase ≠ v.delivery.awaited) : Trail.queries (r.next v).trail = [] := by
  rw [Trail.queries_eq, steps_next_of_untimely h]
  rfl

theorem nodup_queries_next (r : Run ε) (v : Visit) : (Trail.queries (r.next v).trail).Nodup :=
  Bridge.nodup_queries_deliver v.host r.engine v.delivery _

theorem pairwise_steps_next (r : Run ε) (v : Visit) :
    (Trail.steps (r.next v).trail).Pairwise fun x _ => x.2 = .ok () := by
  by_cases h : r.bridge.phase = v.delivery.awaited
  · exact (followed_next h).pairwise
  · rw [steps_next_of_untimely h]
    exact .nil

theorem result_next_of_error {r : Run ε} {v : Visit} {step : Step} {e : Failure}
    (h : (step, .error e) ∈ Trail.steps (r.next v).trail) : (r.next v).result = .error e := by
  by_cases ha : r.bridge.phase = v.delivery.awaited
  · exact (followed_next ha).result_of_error h
  · rw [steps_next_of_untimely ha] at h
    cases h

/-- **What has been asked**: as much as starts ask as there was of it, before a start succeeded;
all of it from then on, and the rotation for each change that found the bridge active. -/
theorem asked (r : Run ε) :
    (¬ r.Started ∧ r.changes = 0 ∧ r.trail.queries <+: Bridge.startQueries r.settings ∧
        r.bridge.phase ≠ .active ∧ (r.bridge.phase = .uninitialized → r.trail.queries = [])) ∨
      (r.Started ∧ r.bridge.phase ≠ .uninitialized ∧
        r.trail.queries =
          Bridge.startQueries r.settings ++ List.replicate r.changes .displayRotation) := by
  induction r using visit_induction with
  | made =>
    refine Or.inl ⟨?_, rfl, List.nil_prefix, (by decide : Phase.uninitialized ≠ .active), fun _ => rfl⟩
    rintro ⟨entry, hmem, -⟩
    cases hmem
  | visited r v ih =>
    have hsettings : (r.extend [v]).settings = r.settings := rfl
    have hchanges : (r.extend [v]).changes = r.changes +
        if r.bridge.phase = .active ∧ v.delivery ≠ .start then 1 else 0 := by
      simp [changes, journal_visit, List.countP_append, List.countP_cons]
    have hends := Bridge.deliver_ends v.host r.engine v.delivery ⟨r.bridge, v.state, r.reached.2⟩
    rw [started_visit, hchanges, trail_visit, Trail.queries_append, bridge_visit, hsettings]
    by_cases h : r.bridge.phase = v.delivery.awaited
    · have hqueries := queries_next h
      cases hd : v.delivery with
      | start =>
        rw [hd] at h hqueries
        rcases ih with ⟨hstarted, hzero, -, hactive, hnone⟩ | ⟨-, hphase, -⟩
        · -- Nothing was asked so far: this is the only start that will be.
          rw [hnone h, hzero, List.nil_append]
          rcases hends with ⟨hresult, -, hphase⟩ | ⟨e, hresult, hphase⟩
          · refine Or.inr ⟨Or.inr ⟨rfl, hresult⟩, ?_, ?_⟩
            · rw [next, hphase]
              decide
            · rw [hqueries.2 hresult]
              simp
          · refine Or.inl ⟨?_, by simp, hqueries.1, ?_, ?_⟩
            · rintro (h | ⟨-, hok⟩)
              · exact hstarted h
              · cases hok.symm.trans hresult
            · rw [next, hphase]
              decide
            · rw [next, hphase]
              exact fun h => absurd h (by decide)
        · exact absurd h hphase
      | configurationChanged axis =>
        rw [hd] at h hqueries
        rcases ih with ⟨-, -, -, hactive, -⟩ | ⟨hstarted, -, hasked⟩
        · exact absurd h hactive
        · refine Or.inr ⟨Or.inl hstarted, ?_, ?_⟩
          · rcases hends with ⟨-, -, hphase⟩ | ⟨-, -, hphase⟩ <;> rw [next, hphase] <;> decide
          · rw [hasked, show Trail.queries (r.next v).trail = _ from hqueries, List.append_assoc,
              if_pos ⟨h, by simp⟩, List.replicate_succ']
    · -- A visit out of its place asks nothing, and counts as neither start nor change.
      have hnot : ¬ (r.bridge.phase = .active ∧ v.delivery ≠ .start) := by
        rintro ⟨hactive, hchange⟩
        cases hd : v.delivery with
        | start => exact hchange hd
        | configurationChanged axis => exact h (hactive.trans (by rw [hd]; rfl))
      obtain ⟨e, hresult, hphase⟩ := hends.resolve_left fun hok => h hok.2.1
      have hstarted : r.Started ∨ v.delivery = .start ∧ (r.next v).result = .ok () ↔ r.Started :=
        or_iff_left fun hok => by cases hok.2.symm.trans hresult
      rw [hstarted, queries_next_of_untimely h, List.append_nil, if_neg hnot, Nat.add_zero, next,
        hphase]
      rcases ih with ⟨hstarted, hzero, hasked, -, -⟩ | ⟨hstarted, -, hasked⟩
      · exact Or.inl ⟨hstarted, hzero, hasked, by decide, fun h => absurd h (by decide)⟩
      · exact Or.inr ⟨hstarted, by decide, hasked⟩

/-- **Each thing is asked once**, but for the rotation. -/
theorem count_queries_le_one (r : Run ε) {q : Query} (hq : q ≠ .displayRotation) :
    r.trail.queries.count q ≤ 1 := by
  have hfront : r.trail.queries <+:
      Bridge.startQueries r.settings ++ List.replicate r.changes .displayRotation := by
    rcases r.asked with ⟨-, -, h, -⟩ | ⟨-, -, h⟩
    · exact h.trans (List.prefix_append ..)
    · exact ⟨[], by rw [h, List.append_nil]⟩
  refine Nat.le_trans (hfront.sublist.count_le q) ?_
  rw [List.count_append, List.count_replicate, if_neg (by simpa using hq.symm)]
  exact List.nodup_iff_count_le_one.mp (Bridge.startQueries_nodup r.settings) q

/-! ### The itinerary as a whole -/

theorem itinerary_cases (r : Run ε) : r.itinerary = [] ∧ r.bridge.phase ≠ .active ∨
    r.bridge.phase ≠ .uninitialized ∧ ∃ axes : List Axis, r.itinerary =
      Delivery.plan r.settings .start ++
        axes.flatMap fun axis => Delivery.plan r.settings (.configurationChanged axis) := by
  induction r using visit_induction with
  | made => exact Or.inl ⟨rfl, (by decide : Phase.uninitialized ≠ .active)⟩
  | visited r v ih =>
    have hsettings : (r.extend [v]).settings = r.settings := rfl
    have hends := Bridge.deliver_ends v.host r.engine v.delivery ⟨r.bridge, v.state, r.reached.2⟩
    have hphase : (r.extend [v]).bridge.phase ≠ .uninitialized := by
      rcases phase_visit r v with h | h <;> rw [h] <;> decide
    rw [itinerary_visit, hsettings]
    by_cases h : r.bridge.phase = v.delivery.awaited
    · rw [if_pos h]
      refine Or.inr ⟨hphase, ?_⟩
      cases hd : v.delivery with
      | start =>
        rw [hd] at h
        obtain ⟨hnone, -⟩ := ih.resolve_right fun hlater => hlater.1 h
        exact ⟨[], by rw [hnone]; simp⟩
      | configurationChanged axis =>
        rw [hd] at h
        obtain ⟨-, axes, haxes⟩ := ih.resolve_left fun hearly => hearly.2 h
        exact ⟨axes ++ [axis], by rw [haxes]; simp⟩
    · obtain ⟨e, -, hpoisoned⟩ := hends.resolve_left fun hok => h hok.2.1
      rw [if_neg h, List.append_nil, bridge_visit, next, hpoisoned]
      exact ih.imp (fun hearly => ⟨hearly.1, by decide⟩) fun hlater => ⟨by decide, hlater.2⟩

/-- Asking for the immersive mode has one place in the itinerary: behind the first two calls. -/
theorem eq_of_itinerary {r : Run ε} {front back : List Step}
    (h : r.itinerary = front ++ .ask .requestImmersive :: back) :
    front = Bridge.survey ++ [.snapshot, .orientation] := by
  rcases r.itinerary_cases with ⟨hnone, -⟩ | ⟨-, axes, haxes⟩
  · rw [hnone] at h
    simp at h
  rw [haxes, Delivery.plan] at h
  have hchanges : .ask .requestImmersive ∉
      axes.flatMap fun axis => Delivery.plan r.settings (.configurationChanged axis) := by
    simp [Delivery.plan]
  have hsurvey : .ask .requestImmersive ∉ Bridge.survey ++ [Step.snapshot, .orientation] := by
    decide
  cases hw : r.settings.immersive with
  | true =>
    rw [hw, if_pos rfl, List.append_assoc, List.singleton_append] at h
    exact ((List.append_cons_inj_of_notMem hsurvey hchanges).mp h).1.symm
  | false =>
    have hmem : .ask .requestImmersive ∈ front ++ .ask .requestImmersive :: back := by simp
    rw [← h, hw, if_neg Bool.false_ne_true, List.append_nil] at hmem
    rcases List.mem_append.mp hmem with hmem | hmem
    · exact absurd hmem hsurvey
    · exact absurd hmem hchanges

/-- **Hosts are asked in order**, in each run: as starts ask, up to the first failure, and the rotation
alone once a start succeeded. All else is asked once, for the immersive mode only behind the first
two calls, and nothing behind a query that failed. -/
theorem asked_in_order (r : Run ε) :
    let asked := r.trail.queries
    (¬ r.Started ∧ r.changes = 0 ∧ asked <+: Bridge.startQueries r.settings ∨
      r.Started ∧ asked =
        Bridge.startQueries r.settings ++ List.replicate r.changes .displayRotation) ∧
    (∀ q, q ≠ .displayRotation → asked.count q ≤ 1) ∧
    (∀ before reply later, r.trail = before ++ .asked .requestImmersive reply :: later →
      ∃ snapshot orientation, Trail.calls before = served snapshot [orientation]) ∧
    ∀ before q e later, r.trail = before ++ .asked q (.error e) :: later →
      Trail.queries later = [] := by
  intro asked
  have hasked : ¬ r.Started ∧ r.changes = 0 ∧ asked <+: Bridge.startQueries r.settings ∨
      r.Started ∧ asked =
        Bridge.startQueries r.settings ++ List.replicate r.changes .displayRotation := by
    rcases r.asked with ⟨hstarted, hzero, hfront, -⟩ | ⟨hstarted, -, hall⟩
    · exact Or.inl ⟨hstarted, hzero, hfront⟩
    · exact Or.inr ⟨hstarted, hall⟩
  obtain ⟨result, hfollowed, -⟩ := r.followed_itinerary
  refine ⟨hasked, fun q => r.count_queries_le_one, ?_, ?_⟩
  · intro before reply later htrail
    rw [htrail, Trail.steps_append, Trail.steps_asked] at hfollowed
    obtain ⟨front, back, hplan, hbefore⟩ := hfollowed.split
    have hcalls := Bridge.filter_steps before
    rw [hbefore, eq_of_itinerary hplan] at hcalls
    obtain ⟨snapshot, rest, hsnapshot, hrest⟩ := Bridge.snapshot_cons hcalls.symm
    obtain ⟨orientation, rest', rfl, hnil⟩ := Bridge.orientation_cons hrest
    rw [List.map_eq_nil_iff.mp hnil] at hsnapshot
    exact ⟨snapshot, orientation, hsnapshot⟩
  · intro before q e later htrail
    rw [htrail, Trail.steps_append, Trail.steps_asked] at hfollowed
    rw [Trail.queries_eq, hfollowed.eq_nil_of_error (x := (.ask q, .error e))]
    rfl

end Run
end PlatformBridge
