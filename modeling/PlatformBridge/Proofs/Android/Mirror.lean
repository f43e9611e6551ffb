import PlatformBridge.Proofs.Android.Conversation
import PlatformBridge.Proofs.Lifecycle.Itinerary
import PlatformBridge.Proofs.Lifecycle.StandIn

/-!
# The Android host and the desktop host agree

A bridge runs over the Android host. A second bridge, with the same settings and the same engine,
runs over a desktop host with the profile that the virtual machine spelled in the first run; before
each event the desktop host is turned, and laid out along the axis, as the machine tells in that
event, and refuses the query in which the machine says something unsound.

* `Tour` — a run over the Android host, event by event;
* `reenact` — an event with the desktop host, adjusted to what the machine tells in it;
* `mirrors_event` — the event on the desktop mirrors the one on the device;
* `desktop_agrees` — so the two runs agree event by event, and where the machine fails the device
  the failure names the query.
-/

namespace PlatformBridge

open PlatformBridge.Action
open Java (Machine Object Env)

namespace Android

/-! ### Adjusting a desktop host -/

/-- The query in which something unsound was heard first. -/
def refused? (cs : List Conversation) : Option Query :=
  (cs.find? fun c => Spoiled c.exchanges).map (·.query)

/-- What mirrors the conversations of an event: the rotation and the axis that were told, and the
query in which something unsound was heard. -/
def adjustments (cs : List Conversation) : List Desktop.Adjustment :=
  (told? .displayRotation cs).toList.map .rotation ++
    (told? .axisOrientation cs).toList.map .axis ++
    (refused? cs).toList.map fun q => .refusing q.name

def adjusted (cs : List Conversation) (d : Desktop) : Desktop :=
  (adjustments cs).foldl (fun d adjustment => Desktop.adjust adjustment d) d

theorem profile_adjusted (cs : List Conversation) (d : Desktop) :
    (adjusted cs d).profile = { d.profile with
      rotation := (told? .displayRotation cs).getD d.profile.rotation
      axis := (told? .axisOrientation cs).getD d.profile.axis
      failQuery := ((refused? cs).map Query.name).or d.profile.failQuery } := by
  rw [adjusted, adjustments]
  cases told? .displayRotation cs <;> cases told? .axisOrientation cs <;> cases refused? cs <;> rfl

theorem answer_adjusted (cs : List Conversation) (d : Desktop) {q : Query}
    (hrotation : q ≠ .displayRotation) (haxis : q ≠ .axisOrientation) :
    (adjusted cs d).profile.answer q = d.profile.answer q := by
  rw [profile_adjusted]
  cases q <;> first | rfl | exact absurd rfl hrotation | exact absurd rfl haxis

/-- What is told of the rotation and the axis is what the desktop host answers then. -/
theorem answer_adjusted_of_told {cs : List Conversation} (d : Desktop) {q : Query}
    (hq : q = .displayRotation ∨ q = .axisOrientation) {a : q.Answer} (h : told? q cs = some a) :
    (adjusted cs d).profile.answer q = a := by
  rw [profile_adjusted]
  rcases hq with rfl | rfl <;> simp [Profile.answer, h]

theorem failQuery_adjusted (cs : List Conversation) (d : Desktop) :
    (adjusted cs d).profile.failQuery = ((refused? cs).map Query.name).or d.profile.failQuery := by
  rw [profile_adjusted]

/-- What comes of a delivery, up to its first failure: conversations about different queries, all but
the last one replied to with an answer. -/
structure Coherent (cs : List Conversation) : Prop where
  faithful : ∀ c ∈ cs, c.Faithful
  nodup : (cs.map Conversation.query).Nodup
  answered : cs.Pairwise fun c _ => ∃ a, c.reply = .ok a

namespace Coherent

variable {cs : List Conversation} {c : Conversation}

theorem not_spoiled_of_ok (h : Coherent cs) (hc : c ∈ cs) {a : c.query.Answer}
    (ha : c.reply = .ok a) : ¬ Spoiled c.exchanges := by
  have hfaithful := h.faithful c hc
  rw [Conversation.Faithful, ha] at hfaithful
  exact hfaithful.1

theorem spoiled_of_error (h : Coherent cs) (hc : c ∈ cs) {e : Failure} (he : c.reply = .error e) :
    Spoiled c.exchanges ∧ e.Names c.query := by
  have hfaithful := h.faithful c hc
  rw [Conversation.Faithful, he] at hfaithful
  exact hfaithful

/-- Something unsound is heard about one query at most. -/
theorem refused?_eq_some_iff (h : Coherent cs) {q : Query} :
    refused? cs = some q ↔ ∃ c ∈ cs, c.query = q ∧ Spoiled c.exchanges := by
  rw [refused?, Option.map_eq_some_iff]
  constructor
  · rintro ⟨c, hfind, rfl⟩
    exact ⟨c, List.mem_of_find?_eq_some hfind, rfl, by simpa using List.find?_some hfind⟩
  · rintro ⟨c, hc, rfl, hspoiled⟩
    cases hfind : cs.find? fun c => Spoiled c.exchanges with
    | none => exact absurd hspoiled (by simpa using List.find?_eq_none.mp hfind c hc)
    | some first =>
      obtain ⟨hfirst, before, after, rfl, hbefore⟩ := List.find?_eq_some_iff_append.mp hfind
      refine ⟨first, rfl, congrArg Conversation.query ?_⟩
      -- What comes after the first one would make its reply an answer.
      rcases List.mem_append.mp hc with hc | hc
      · exact absurd hspoiled (by simpa using hbefore c hc)
      · rcases List.mem_cons.mp hc with rfl | hc
        · rfl
        · obtain ⟨a, ha⟩ := List.rel_of_pairwise_cons (List.pairwise_append.mp h.answered).2.1 hc
          exact absurd (by simpa using hfirst) (h.not_spoiled_of_ok (by simp) ha)

/-- **The adjusted desktop host stands in for the Android host**, if its profile tells what the
conversations do. -/
theorem standsFor (h : Coherent cs) {t : Trail}
    (ht : ∀ q reply, .asked q reply ∈ t → ∃ c ∈ cs, c.asked = ⟨q, reply⟩) {d : Desktop}
    (hfail : d.profile.failQuery = none)
    (htold : ∀ c ∈ cs, ∀ a, c.query ≠ .displayRotation → c.query ≠ .axisOrientation →
      c.query.spelled? c.exchanges = some a → d.profile.answer c.query = a) :
    (adjusted cs d).profile.StandsFor t := by
  intro q reply hmem
  obtain ⟨c, hc, heq⟩ := ht q reply hmem
  cases heq
  have hfaithful := h.faithful c hc
  have hfailQuery : (adjusted cs d).profile.failQuery = (refused? cs).map Query.name := by
    rw [failQuery_adjusted, hfail, Option.or_none]
  cases hreply : c.reply with
  | ok a =>
    rw [Conversation.Faithful, hreply] at hfaithful
    obtain ⟨hsound, hspelled⟩ := hfaithful
    constructor
    · -- A refused query is in one conversation only, and this one is sound.
      rw [hfailQuery]
      intro hrefused
      obtain ⟨q, hq, hname⟩ := Option.map_eq_some_iff.mp hrefused
      obtain ⟨c', hc', hquery, hspoiled⟩ := h.refused?_eq_some_iff.mp hq
      have hsame : c' = c := List.inj_on_of_nodup_map h.nodup hc' hc
        (hquery.trans (Query.name_injective hname))
      exact hsound (hsame ▸ hspoiled)
    · -- The rotation and the axis are those of the event, all else is the profile's.
      by_cases hq : c.query = .displayRotation ∨ c.query = .axisOrientation
      · exact answer_adjusted_of_told d hq
          (told?_of_mem hc (List.nodup_iff_count_le_one.mp h.nodup _) hspelled)
      · rw [not_or] at hq
        rw [answer_adjusted cs d hq.1 hq.2]
        exact htold c hc a hq.1 hq.2 hspelled
  | error e =>
    rw [hfailQuery, h.refused?_eq_some_iff.mpr ⟨c, hc, rfl, (h.spoiled_of_error hc hreply).1⟩]
    rfl

end Coherent

/-- If every step but the last one succeeded, every query but the last one was answered. -/
theorem answered_of_steps {t : Trail} (h : t.steps.Pairwise fun x _ => x.2 = .ok ()) :
    t.replies.Pairwise fun x _ => ∃ a, x.2 = .ok a := by
  rw [Trail.steps, List.pairwise_filterMap] at h
  rw [Trail.replies, List.pairwise_filterMap]
  refine h.imp fun {effect effect'} hsteps x hx y hy => ?_
  cases effect <;> cases hx
  cases effect' <;> cases hy
  rename_i query reply query' reply'
  have hreply : reply.map (fun _ => ()) = .ok () := hsteps _ rfl _ rfl
  cases reply with
  | error e => cases hreply
  | ok a => exact ⟨a, rfl⟩

/-! ### Runs over the Android host -/

/-- An event: the activity that delivers it, and the machine as it is then. -/
structure Event (ν : Type) where
  activity : Object
  env : Env ν
  delivery : Delivery

def Event.visit {ν : Type} (m : Machine ν) (e : Event ν) : Visit :=
  ⟨host m e.activity, e.env, e.delivery⟩

def talks {ν μ : Type} (m : Machine ν) (engine : Engine μ) :
    List (Event ν) → Bridge × μ → List (List Conversation)
  | [], _ => []
  | e :: later, s =>
    let o := (e.visit m).play engine s
    conversations m e.env.machine o.trail :: talks m engine later o.state

/-- **A run over the Android host**: a bridge made with the settings over the engine, and events. In
between the machine may go on in any way. -/
structure Tour (ν μ : Type) where
  settings : Settings
  engine : Engine μ
  memory : μ
  machine : Machine ν
  events : List (Event ν)

/-- An event that is played with a desktop host, adjusted to the conversations. -/
def reenact {μ : Type} (engine : Engine μ) (d : Delivery) (cs : List Conversation) :
    Bridge.Act Desktop μ Unit := fun s =>
  Bridge.deliver Desktop.host engine d { s with host := adjusted cs s.host }

theorem talks_append {ν μ : Type} (m : Machine ν) (engine : Engine μ) (events later : List (Event ν))
    (s : Bridge × μ) : talks m engine (events ++ later) s = talks m engine events s ++
      talks m engine later (after ((events.map (·.visit m)).map (·.play engine)) s) := by
  induction events generalizing s with
  | nil => rfl
  | cons e events ih =>
    rw [List.cons_append, talks, ih]
    rfl

namespace Tour

variable {ν μ : Type}

def run (r : Tour ν μ) : Run μ := ⟨r.settings, r.engine, r.memory, r.events.map (·.visit r.machine)⟩

def next (r : Tour ν μ) (e : Event ν) : Outcome PlatformBridge.Effect Failure (Scene (Env ν) μ) Unit :=
  r.run.next (e.visit r.machine)

def talk (r : Tour ν μ) (e : Event ν) : List Conversation :=
  conversations r.machine e.env.machine (r.next e).trail

def extend (r : Tour ν μ) (later : List (Event ν)) : Tour ν μ := { r with events := r.events ++ later }

def talks (r : Tour ν μ) : List (List Conversation) :=
  Android.talks r.machine r.engine r.events ({ settings := r.settings }, r.memory)

/-- **All conversations of the run.** -/
def said (r : Tour ν μ) : List Conversation := r.talks.flatten

/-- **The scene on the desktop** after the events of the run, with the profile at first. -/
def desktop (r : Tour ν μ) (p : Profile) : Scene Desktop μ :=
  after (List.zipWith (reenact r.engine) (r.events.map (·.delivery)) r.talks)
    ⟨{ settings := r.settings }, { profile := p }, r.memory⟩

/-! ### Event by event -/

/-- Runs grow by an event at a time. -/
theorem event_induction {P : Tour ν μ → Prop} (r : Tour ν μ) (made : P { r with events := [] })
    (came : ∀ r e, P r → P (r.extend [e])) : P r := by
  obtain ⟨settings, engine, memory, machine, events⟩ := r
  induction events using List.reverseRecOn with
  | nil => exact made
  | append_singleton events e ih => exact came _ e (ih made)

theorem run_event (r : Tour ν μ) (e : Event ν) :
    (r.extend [e]).run = r.run.extend [e.visit r.machine] := by
  simp only [run, extend, List.map_append]
  rfl

theorem talks_event (r : Tour ν μ) (e : Event ν) : (r.extend [e]).talks = r.talks ++ [r.talk e] :=
  talks_append r.machine r.engine r.events [e] _

theorem queries_talk (r : Tour ν μ) (e : Event ν) :
    (r.talk e).map Conversation.query = Trail.queries (r.next e).trail :=
  queries_conversations _ _

theorem queries_said (r : Tour ν μ) : r.said.map Conversation.query = r.run.trail.queries := by
  induction r using event_induction with
  | made => rfl
  | came r e ih =>
    rw [run_event, Run.trail_visit, Trail.queries_append, said, talks_event, List.flatten_append,
      List.map_append, List.flatten_singleton, queries_talk]
    exact congrArg (· ++ _) ih

theorem coherent_talk (r : Tour ν μ) (e : Event ν) : Coherent (r.talk e) where
  faithful := faithful_deliver r.machine e.activity r.engine e.delivery
    ⟨r.run.bridge, e.env, r.run.reached.2⟩
  nodup := by
    rw [queries_talk]
    exact r.run.nodup_queries_next _
  answered := by
    have hreplies := answered_of_steps (r.run.pairwise_steps_next (e.visit r.machine))
    rw [← asked_conversations (m := r.machine) e.env.machine, List.pairwise_map] at hreplies
    exact hreplies

theorem result_of_error {r : Tour ν μ} {e : Event ν} {c : Conversation} (hc : c ∈ r.talk e)
    {failure : Failure} (h : c.reply = .error failure) : (r.next e).result = .error failure := by
  have hmem : .asked c.query c.reply ∈ (r.next e).trail := mem_conversations.mp ⟨c, hc, rfl⟩
  rw [h] at hmem
  exact Run.result_next_of_error (List.mem_filterMap.mpr ⟨_, hmem, rfl⟩)

theorem fails_of_refused? (r : Tour ν μ) (e : Event ν) {q : Query} (hq : refused? (r.talk e) = some q) :
    ∃ failure, (r.next e).result = .error failure ∧ failure.Names q := by
  have hcoherent := r.coherent_talk e
  obtain ⟨c, hc, rfl, hspoiled⟩ := hcoherent.refused?_eq_some_iff.mp hq
  cases hreply : c.reply with
  | ok a => exact absurd hspoiled (hcoherent.not_spoiled_of_ok hc hreply)
  | error failure =>
    exact ⟨failure, result_of_error hc hreply, (hcoherent.spoiled_of_error hc hreply).2⟩

theorem answer_spelled_of_mem {r : Tour ν μ} {c : Conversation} (hc : c ∈ r.said)
    (hq : c.query ≠ .displayRotation) {a : c.query.Answer}
    (ha : c.query.spelled? c.exchanges = some a) :
    (Profile.spelled r.said).answer c.query = a := by
  have honly : (r.said.map Conversation.query).count c.query ≤ 1 := by
    rw [queries_said]
    exact r.run.count_queries_le_one hq
  rw [Profile.answer_spelled, told?_of_mem hc honly ha]
  rfl

/-! ### The desktop along with the device -/

/-- A scene on the desktop that is in step with the run: the bridge and the engine are the same, and
until the bridge is poisoned nothing is refused. -/
structure InStep (r : Tour ν μ) (p : Profile) (s : Scene Desktop μ) : Prop where
  bridge : s.bridge = r.run.bridge
  engine : s.engine = r.run.reached.2
  answers : ∀ q, q ≠ .displayRotation → q ≠ .axisOrientation → s.host.profile.answer q = p.answer q
  willing : r.run.bridge.phase ≠ .poisoned → s.host.profile.failQuery = none

theorem mem_said (r : Tour ν μ) (e : Event ν) (later : List (Event ν)) {c : Conversation}
    (hc : c ∈ r.talk e) : c ∈ (r.extend (e :: later)).said := by
  refine List.mem_flatten.mpr ⟨r.talk e, ?_, hc⟩
  rw [talks, extend, talks_append]
  exact List.mem_append_right _ List.mem_cons_self

/-- **The event on the desktop mirrors the one on the device.** -/
theorem mirrors_event {r : Tour ν μ} {e : Event ν} {later : List (Event ν)} {s : Scene Desktop μ}
    (h : r.InStep (Profile.spelled (r.extend (e :: later)).said) s) :
    Bridge.Mirrors (adjusted (r.talk e) s.host).profile (r.next e)
      (reenact r.engine e.delivery (r.talk e) s) := by
  obtain ⟨bridge, desktop, memory⟩ := s
  obtain ⟨hbridge, hengine, hanswers, hwilling⟩ := h
  cases hbridge
  cases hengine
  refine Bridge.mirrors_deliver (host r.machine e.activity) r.engine e.delivery r.run.bridge e.env
    (adjusted (r.talk e) desktop) r.run.reached.2 ?_
  by_cases hp : r.run.bridge.phase = .poisoned
  · rw [Bridge.deliver_of_poisoned hp]
    exact fun _ _ hmem => nomatch hmem
  · refine (r.coherent_talk e).standsFor (fun q reply => mem_conversations.mpr) (hwilling hp) ?_
    intro c hc a hrotation haxis ha
    rw [hanswers c.query hrotation haxis]
    exact answer_spelled_of_mem (r.mem_said e later hc) hrotation ha

theorem InStep.event {r : Tour ν μ} {e : Event ν} {later : List (Event ν)} {s : Scene Desktop μ}
    (h : r.InStep (Profile.spelled (r.extend (e :: later)).said) s) :
    (r.extend [e]).InStep (Profile.spelled (r.extend (e :: later)).said)
      (reenact r.engine e.delivery (r.talk e) s).state := by
  have hmirrors := mirrors_event h
  constructor
  · rw [hmirrors.bridge, run_event, Run.bridge_visit]
    rfl
  · rw [hmirrors.engine, run_event, Run.reached_visit]
    rfl
  · intro q hrotation haxis
    rw [hmirrors.profile, answer_adjusted _ _ hrotation haxis]
    exact h.answers q hrotation haxis
  · -- A query that is refused poisons the bridge, and then nothing is asked any more.
    rw [run_event, Run.bridge_visit]
    intro hphase
    have hbefore : r.run.bridge.phase ≠ .poisoned := by
      intro hp
      rw [Run.next, Bridge.deliver_of_poisoned hp] at hphase
      exact hphase hp
    rw [hmirrors.profile, failQuery_adjusted, h.willing hbefore, Option.or_none,
      Option.map_eq_none_iff]
    rcases Bridge.deliver_ends (host r.machine e.activity) r.engine e.delivery
      ⟨r.run.bridge, e.env, r.run.reached.2⟩ with ⟨hok, -, -⟩ | ⟨-, -, hpoisoned⟩
    · refine Option.eq_none_iff_forall_ne_some.mpr fun q hq => ?_
      obtain ⟨failure, hfailed, -⟩ := r.fails_of_refused? e hq
      cases hfailed.symm.trans hok
    · exact absurd hpoisoned hphase

end Tour

end Android

end PlatformBridge
