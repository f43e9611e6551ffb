import Mathlib.Data.List.Induction
import PlatformBridge.Proofs.Android.Request
import PlatformBridge.Proofs.Engine.Crossing

/-!
# The life of a process

A process lives from request to request, whatever comes of them: a failure ends the process only if
the virtual machine lets it. Its three slots (the registered table, the publication, the bridge) are
filled one after the other by steps that can fail in between.

* `Sound p t` — what the slots say about the history: no bridge before the publication, and behind
  the bridge the calls of one run, as they crossed the boundary;
* `safe_life` — every life is safe: at most one start returns, at most one snapshot crosses and
  before all orientations, no change returns before a start did, and the slots are filled once, with
  what the start that filled them found.
-/

namespace PlatformBridge.Android

open PlatformBridge.Action Engine
open Java (Machine Object Env)

variable {ν μ : Type}

/-! ### The slots and the history -/

/-- **What the slots of a process say about its history.** -/
structure Sound (p : Process ν μ) (t : List Effect) : Prop where
  empty : p.adapter = none → landmarks t = if p.published then [.published] else []
  filled : ∀ table b, p.adapter = some (table, b) → p.published = true ∧
    ∃ u : Trail, landmarks t = .published :: u.map .bridge ∧ Bridge.Told b.phase u.calls ∧
      Crossed table u

theorem Sound.step {m : Machine ν} {library : Library μ} {request : Request ν μ} {p : Process ν μ}
    {t : List Effect} {o : Outcome Effect Failure (Process ν μ) Unit} (h : Sound p t)
    (ho : Played m library request p o) : Sound o.state (t ++ o.trail) := by
  cases ho with
  | idle slots marks failed =>
    have hadapter : o.state.adapter = p.adapter := congrArg Prod.snd slots
    have hpublished : o.state.published = p.published := congrArg Prod.fst slots
    constructor
    · rw [hadapter, hpublished, landmarks_append, marks, List.append_nil]
      exact h.empty
    · rw [hadapter, hpublished, landmarks_append, marks, List.append_nil]
      exact h.filled
  | published empty slots marks failed =>
    have hadapter : o.state.adapter = none := congrArg Prod.snd slots
    have hpublished : o.state.published = true := congrArg Prod.fst slots
    have ht := h.empty (congrArg Prod.snd empty)
    rw [show p.published = false from congrArg Prod.fst empty] at ht
    constructor
    · intro _
      rw [hpublished, landmarks_append, marks, ht]
      rfl
    · intro table b hb
      cases hadapter.symm.trans hb
  | filled activity document _ empty settings table _ _ s fresh result slots marks =>
    have ht := h.empty empty
    have hidle : Bridge.Told s.bridge.phase [] := by
      rw [fresh]
      exact .idle
    have htold := Bridge.told_deliver (host m activity) (native library table) .start s hidle
    have hcrossed := crossed_deliver (host m activity) library table .start s .nil
    have hadapter := congrArg Prod.snd slots
    constructor
    · intro hnone
      cases hadapter.symm.trans hnone
    · intro table' b hb
      cases hadapter.symm.trans hb
      refine ⟨congrArg Prod.fst slots, _, ?_, htold, hcrossed⟩
      rw [landmarks_append, marks, ht]
      cases p.published <;> rfl
  | delivered activity d isDelivery table s there result slots marks =>
    obtain ⟨hpublished, u, hu, htold, hcrossed⟩ := h.filled table s.bridge there
    have hadapter := congrArg Prod.snd slots
    constructor
    · intro hnone
      cases hadapter.symm.trans hnone
    · intro table' b hb
      cases hadapter.symm.trans hb
      refine ⟨(congrArg Prod.fst slots).trans hpublished, _, ?_, ?_,
        crossed_deliver (host m activity) library table d s hcrossed⟩
      · rw [landmarks_append, marks, hu, List.map_append]
        rfl
      · rw [Trail.calls_append]
        exact Bridge.told_deliver (host m activity) (native library table) d s htold

/-! ### Lives -/

/-- **A life of a process**: the virtual machine and native code that it runs on, as they are at the
beginning, and the requests. -/
structure Life (ν μ : Type) where
  machine : Machine ν
  library : Library μ
  env : Env ν
  memory : μ
  requests : List (Request ν μ)

namespace Life

/-- The process after the requests. -/
def process (l : Life ν μ) : Process ν μ :=
  after (l.requests.map (·.play l.machine l.library)) { env := l.env, native := l.memory }

def trail (l : Life ν μ) : List Effect :=
  history (l.requests.map (·.play l.machine l.library)) { env := l.env, native := l.memory }

def next (l : Life ν μ) (request : Request ν μ) : Outcome Effect Failure (Process ν μ) Unit :=
  request.play l.machine l.library l.process

def upTo (l : Life ν μ) (requests : List (Request ν μ)) : Life ν μ := { l with requests }

def extend (l : Life ν μ) (later : List (Request ν μ)) : Life ν μ := l.upTo (l.requests ++ later)

def crossings (l : Life ν μ) : List (Table × NativeCall × Int32) :=
  l.trail.filterMap Effect.crossing?

theorem process_extend (l : Life ν μ) (later : List (Request ν μ)) :
    (l.extend later).process = after (later.map (·.play l.machine l.library)) l.process := by
  simp [extend, upTo, process]

theorem process_request (l : Life ν μ) (request : Request ν μ) :
    (l.extend [request]).process = (l.next request).state := by
  rw [process_extend]
  rfl

theorem extend_cons (l : Life ν μ) (request : Request ν μ) (later : List (Request ν μ)) :
    l.extend (request :: later) = (l.extend [request]).extend later := by
  simp [extend, upTo]

/-- Lives grow by a request at a time. -/
theorem request_induction {P : Life ν μ → Prop} (l : Life ν μ) (born : P (l.upTo []))
    (asked : ∀ l request, P l → P (l.extend [request])) : P l := by
  obtain ⟨machine, library, env, memory, requests⟩ := l
  induction requests using List.reverseRecOn with
  | nil => exact born
  | append_singleton requests request ih => exact asked _ request (ih born)

theorem played_next (l : Life ν μ) (request : Request ν μ) :
    Played l.machine l.library request l.process (l.next request) :=
  played l.machine l.library request l.process

theorem sound (l : Life ν μ) : Sound l.process l.trail := by
  have hborn : Sound ({ env := l.env, native := l.memory } : Process ν μ) [] :=
    ⟨fun _ => rfl, fun _ _ h => nomatch h⟩
  refine keeps_after ?_ hborn
  intro x hx p t hp
  obtain ⟨request, -, rfl⟩ := List.mem_map.mp hx
  exact hp.step (played l.machine l.library request p)

/-! ### The bridge of a process -/

/-- **How a bridge is made**: after the life `past` a start reads its settings and publishes the
machine, if that was not done before; then it makes the bridge, in the slot that is still empty,
over the table that was registered. -/
structure Made (past : Life ν μ) (activity : Object) (document : Option Object) (table : Table)
    (settings : Settings) : Prop where
  empty : past.process.adapter = none
  read : (readSettings past.machine document past.process).result = .ok settings
  parts : start past.machine past.library activity document past.process =
    (groundwork past.machine activity document >>=
      launch past.machine past.library activity) past.process
  ground : (groundwork past.machine activity document past.process).result = .ok settings
  still_empty : (groundwork past.machine activity document past.process).state.adapter = none
  registered :
    (groundwork past.machine activity document past.process).state.registry.registered = .ok table
  published :
    .published ∈ past.trail ++ (groundwork past.machine activity document past.process).trail

theorem made {past : Life ν μ} {activity : Object} {document : Option Object} {table : Table}
    {settings : Settings} (empty : past.process.adapter = none)
    (ground : (groundwork past.machine activity document past.process).result = .ok settings)
    (registered :
      (groundwork past.machine activity document past.process).state.registry.registered =
        .ok table) :
    Made past activity document table settings := by
  rcases groundwork_cases past.machine activity document past.process with
    ⟨e, he, -, -⟩ | ⟨settings', -, hslots, hmarks⟩
  · cases he.symm.trans ground
  refine ⟨empty, readSettings_of_groundwork past.machine ground,
    start_eq_of_empty past.machine past.library empty activity document, ground,
    (congrArg Prod.snd hslots).trans empty, registered, ?_⟩
  have hempty := past.sound.empty empty
  cases hp : past.process.published with
  | true =>
    rw [hp] at hempty
    refine List.mem_append_left _ (mem_of_landmarks ?_)
    rw [hempty]
    exact List.mem_singleton_self _
  | false =>
    rw [hp] at hmarks
    refine List.mem_append_right _ (mem_of_landmarks ?_)
    rw [hmarks]
    exact List.mem_singleton_self _

/-- A request that finds a bridge leaves it alone, or makes its delivery to it. -/
theorem request_of_filled {l : Life ν μ} {table : Table} {b : Bridge}
    (h : l.process.adapter = some (table, b)) (request : Request ν μ) :
    let o := l.next request
    (o.state.adapter = some (table, b) ∧ landmarks o.trail = [] ∧
        (request.delivery? ≠ none → ∃ e, o.result = .error e)) ∨
      ∃ activity d s, request.delivery? = some (activity, d) ∧ s.bridge = b ∧
        let done := Bridge.deliver (host l.machine activity) (native l.library table) d s
        o.result = done.result ∧ o.state.adapter = some (table, done.state.bridge) ∧
          landmarks o.trail = done.trail.map .bridge := by
  cases l.played_next request with
  | idle slots marks failed => exact Or.inl ⟨(congrArg Prod.snd slots).trans h, marks, failed⟩
  | published empty => cases (congrArg Prod.snd empty).symm.trans h
  | filled activity document isStart empty => cases empty.symm.trans h
  | delivered activity d isDelivery table' s there result slots marks =>
    cases there.symm.trans h
    exact Or.inr ⟨activity, d, s, isDelivery, rfl, result, congrArg Prod.snd slots, marks⟩

/-- Where the bridge comes from that is there after a request: it was there before, or comes out of
a delivery, to the one that was there before or to one that this request has made. -/
theorem filled_of_request {l : Life ν μ} {request : Request ν μ} {table : Table} {b : Bridge}
    (h : (l.extend [request]).process.adapter = some (table, b)) :
    l.process.adapter = some (table, b) ∨
      ∃ activity d s, request.delivery? = some (activity, d) ∧
        let done := Bridge.deliver (host l.machine activity) (native l.library table) d s
        done.state.bridge = b ∧ (l.next request).result = done.result ∧
          (l.process.adapter = some (table, s.bridge) ∨
            ∃ document settings, request = .start activity document ∧ s.bridge = { settings } ∧
              Made l activity document table settings) := by
  rw [process_request] at h
  cases l.played_next request with
  | idle slots => exact Or.inl ((congrArg Prod.snd slots).symm.trans h)
  | published empty slots => cases (congrArg Prod.snd slots).symm.trans h
  | filled activity document isStart empty settings table' ground registered s fresh result slots =>
    cases (congrArg Prod.snd slots).symm.trans h
    refine Or.inr ⟨activity, .start, s, by rw [isStart]; rfl, rfl, result, Or.inr ?_⟩
    exact ⟨document, settings, isStart, fresh, made empty ground registered⟩
  | delivered activity d isDelivery table' s there result slots =>
    cases (congrArg Prod.snd slots).symm.trans h
    exact Or.inr ⟨activity, d, s, isDelivery, rfl, result, Or.inl there⟩

theorem phase_of_filled (l : Life ν μ) : ∀ table b, l.process.adapter = some (table, b) →
    b.phase = .active ∨ b.phase = .poisoned := by
  induction l using request_induction with
  | born => exact fun _ _ h => nomatch h
  | asked l request ih =>
    intro table b hb
    rcases filled_of_request hb with h | ⟨activity, d, s, -, rfl, -, -⟩
    · exact ih table b h
    · exact Bridge.phase_deliver ..

theorem adapter_extend {l : Life ν μ} {table : Table} {b : Bridge}
    (h : l.process.adapter = some (table, b)) (later : List (Request ν μ)) :
    ∃ b', (l.extend later).process.adapter = some (table, b') ∧ b'.settings = b.settings := by
  induction later generalizing l b with
  | nil => exact ⟨b, by simpa [process_extend] using h, rfl⟩
  | cons request later ih =>
    rw [extend_cons]
    rcases request_of_filled h request with ⟨hsame, -, -⟩ | ⟨activity, d, s, -, rfl, -, hnew, -⟩
    · exact ih ((l.process_request request ▸ hsame :))
    · obtain ⟨b', hb', hsettings⟩ := ih ((l.process_request request ▸ hnew :))
      exact ⟨b', hb', hsettings.trans (Bridge.settings_deliver ..)⟩

theorem start_fails_of_filled {l : Life ν μ} {table : Table} {b : Bridge}
    (h : l.process.adapter = some (table, b)) (activity : Object) (document : Option Object) :
    ∃ e, (l.next (.start activity document)).result = .error e := by
  rcases request_of_filled h (.start activity document) with ⟨-, -, hfailed⟩ |
    ⟨activity', d, s, hd, rfl, hresult, -, -⟩
  · exact hfailed nofun
  · cases hd
    rcases Bridge.deliver_ends (host l.machine activity) (native l.library table) .start s with
      ⟨-, ha, -⟩ | ⟨e, he, -⟩
    · rcases l.phase_of_filled table s.bridge h with hp | hp <;> cases ha.symm.trans hp
    · exact ⟨e, hresult.trans he⟩

theorem filled_of_start {l : Life ν μ} {activity : Object} {document : Option Object}
    (h : (l.next (.start activity document)).result = .ok ()) :
    ∃ table b, (l.extend [.start activity document]).process.adapter = some (table, b) := by
  obtain ⟨table, s, -, hfilled, -⟩ := (l.played_next (.start activity document)).of_ok _ _ rfl h
  rw [process_request]
  exact ⟨table, _, hfilled⟩

/-! ### What a life has seen -/

/-- Some request of the life, after those before it, was as said. -/
def Saw (l : Life ν μ) (P : Life ν μ → Request ν μ → Prop) : Prop :=
  ∃ before request later, l.requests = before ++ request :: later ∧ P (l.upTo before) request

theorem Saw.request {l : Life ν μ} {P : Life ν μ → Request ν μ → Prop} (h : l.Saw P)
    (request : Request ν μ) : (l.extend [request]).Saw P := by
  obtain ⟨before, r, later, hsplit, hP⟩ := h
  refine ⟨before, r, later ++ [request], ?_, hP⟩
  rw [extend, upTo, hsplit, List.append_assoc, List.cons_append]

theorem saw_last {l : Life ν μ} {P : Life ν μ → Request ν μ → Prop} {request : Request ν μ}
    (h : P l request) : (l.extend [request]).Saw P :=
  ⟨l.requests, request, [], rfl, h⟩

/-- The bridge that is there was made by a start, with the settings that it still has. -/
theorem saw_made (l : Life ν μ) : ∀ table b, l.process.adapter = some (table, b) →
    l.Saw fun past request => ∃ activity document, request = .start activity document ∧
      Made past activity document table b.settings := by
  induction l using request_induction with
  | born => exact fun _ _ h => nomatch h
  | asked l request ih =>
    intro table b hb
    rcases filled_of_request hb with h | ⟨activity, d, s, -, rfl, -, h⟩
    · exact (ih table b h).request request
    rw [Bridge.settings_deliver]
    rcases h with h | ⟨document, settings, hrequest, hfresh, hmade⟩
    · exact (ih table s.bridge h).request request
    · rw [hfresh]
      exact saw_last ⟨activity, document, hrequest, hmade⟩

/-- An active bridge was made by a start that returned. -/
theorem saw_start_of_active (l : Life ν μ) : ∀ table b, l.process.adapter = some (table, b) →
    b.phase = .active → l.Saw fun past request =>
      (∃ activity document, request = .start activity document) ∧
        (past.next request).result = .ok () := by
  induction l using request_induction with
  | born => exact fun _ _ h => nomatch h
  | asked l request ih =>
    intro table b hb hactive
    rcases filled_of_request hb with h | ⟨activity, d, s, -, rfl, hresult, h⟩
    · exact (ih table b h hactive).request request
    rcases Bridge.deliver_ends (host l.machine activity) (native l.library table) d s with
      ⟨hok, hawaited, -⟩ | ⟨e, -, hpoisoned⟩
    · rcases h with h | ⟨document, settings, hrequest, -, -⟩
      · cases d with
        | start =>
          rcases l.phase_of_filled table s.bridge h with hp | hp <;> cases hawaited.symm.trans hp
        | configurationChanged axis => exact (ih table s.bridge h hawaited).request request
      · exact saw_last ⟨⟨activity, document, hrequest⟩, hresult.trans hok⟩
    · cases hpoisoned.symm.trans hactive

/-! ### Safety -/

/-- **What a process can rely on**, whatever the virtual machine, native code and its callers do. -/
structure Safe (l : Life ν μ) : Prop where
  /-- After a start that returned, no start returns. -/
  one_start : ∀ activity document, (l.next (.start activity document)).result = .ok () →
    ∀ later activity' document', ∃ e, ((l.extend (.start activity document :: later)).next
      (.start activity' document')).result = .error e
  /-- Native code gets one snapshot at most, before all orientations, and all through one table. -/
  one_snapshot : l.crossings = [] ∨ ∃ table raw status rest,
    l.crossings = (table, .snapshot raw, status) :: rest ∧
      ∀ c ∈ rest, c.1 = table ∧ c.2.1.isOrientation
  /-- A change returns only if a start had returned. -/
  change_after_start : ∀ activity code, (l.next (.change activity code)).result = .ok () →
    l.Saw fun past request => (∃ activity document, request = .start activity document) ∧
      (past.next request).result = .ok ()
  /-- A bridge was made after the machine was published, with the settings of the start that made
  it. -/
  made : ∀ table b, l.process.adapter = some (table, b) → l.Saw fun past request =>
    ∃ activity document, request = .start activity document ∧
      Made past activity document table b.settings
  /-- It stays, with its table and its settings. -/
  kept : ∀ table b, l.process.adapter = some (table, b) → ∀ later,
    ∃ b', (l.extend later).process.adapter = some (table, b') ∧ b'.settings = b.settings
  /-- Whatever a request makes a bridge do, it is the bridge that is there that does it. -/
  used : ∀ table b, l.process.adapter = some (table, b) → ∀ request,
    let o := l.next request
    (o.state.adapter = some (table, b) ∧ landmarks o.trail = []) ∨
      ∃ activity d s, request.delivery? = some (activity, d) ∧ s.bridge = b ∧
        let done := Bridge.deliver (host l.machine activity) (native l.library table) d s
        o.state.adapter = some (table, done.state.bridge) ∧
          landmarks o.trail = done.trail.map .bridge
  /-- The machine is published once at most. -/
  published_once : l.trail.countP Effect.isPublication ≤ 1
  /-- It is published before a bridge does anything. -/
  published_first : ∀ before effect later, l.trail = before ++ .bridge effect :: later →
    .published ∈ before

theorem landmarks_cases (l : Life ν μ) :
    landmarks l.trail = [] ∨ ∃ (u : Trail) (table : Table) (phase : Phase),
      landmarks l.trail = .published :: u.map .bridge ∧ Bridge.Told phase u.calls ∧
        Crossed table u := by
  rcases hp : l.process.adapter with - | ⟨table, b⟩
  · have h := l.sound.empty hp
    split at h
    · exact Or.inr ⟨[], ⟨""⟩, .uninitialized, h, .idle, .nil⟩
    · exact Or.inl h
  · obtain ⟨-, u, hu, htold, hcrossed⟩ := l.sound.filled table b hp
    exact Or.inr ⟨u, table, b.phase, hu, htold, hcrossed⟩

/-- **Every life is safe.** -/
theorem safe_life (l : Life ν μ) : l.Safe where
  one_start activity document h later activity' document' := by
    obtain ⟨table, b, hb⟩ := filled_of_start h
    obtain ⟨b', hb', -⟩ := adapter_extend hb later
    rw [extend_cons]
    exact start_fails_of_filled hb' activity' document'
  one_snapshot := by
    rw [crossings, ← filterMap_landmarks]
    rcases l.landmarks_cases with h | ⟨u, table, phase, h, htold, hcrossed⟩ <;> rw [h]
    · exact Or.inl rfl
    · rw [List.filterMap_cons_none rfl, filterMap_crossing_bridge]
      rcases hcrossed.ordered htold with hnone | ⟨raw, status, rest, hsome, hrest⟩
      · exact Or.inl hnone
      · exact Or.inr ⟨table, raw, status, rest, hsome, hrest⟩
  change_after_start activity code h := by
    obtain ⟨table, s, hok, -, hthere⟩ := (l.played_next (.change activity code)).of_ok _ _ rfl h
    rcases Bridge.deliver_ends (host l.machine activity) (native l.library table)
      (.configurationChanged (Axis.ofConfigurationCode code)) s with ⟨-, hactive, -⟩ | ⟨e, he, -⟩
    · exact l.saw_start_of_active table s.bridge (hthere.resolve_right nofun) hactive
    · cases he.symm.trans hok
  made := l.saw_made
  kept _ _ h later := adapter_extend h later
  used table b h request := by
    rcases request_of_filled h request with ⟨hsame, hmarks, -⟩ |
      ⟨activity, d, s, hd, hs, -, hnew, hmarks⟩
    · exact Or.inl ⟨hsame, hmarks⟩
    · exact Or.inr ⟨activity, d, s, hd, hs, hnew, hmarks⟩
  published_once := by
    rw [← countP_landmarks]
    rcases l.landmarks_cases with h | ⟨u, -, -, h, -, -⟩ <;> rw [h]
    · simp
    · rw [List.countP_cons, List.countP_map]
      simp [Effect.isPublication, Function.comp_def]
  published_first before effect later h := by
    have hmarks : landmarks l.trail = landmarks before ++ .bridge effect :: landmarks later := by
      rw [h, landmarks_append]
      rfl
    rcases l.landmarks_cases with hnil | ⟨u, -, -, hcons, -, -⟩
    · rw [hmarks] at hnil
      simp at hnil
    · rw [hmarks] at hcons
      rcases List.append_eq_cons_iff.mp hcons with ⟨-, hhead⟩ | ⟨rest, hbefore, -⟩
      · cases hhead
      · exact mem_of_landmarks (by rw [hbefore]; exact List.mem_cons_self)

end Life

end PlatformBridge.Android
