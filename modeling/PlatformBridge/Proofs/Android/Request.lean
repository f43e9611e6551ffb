import PlatformBridge.Android.Process
import PlatformBridge.Proofs.Action.History

/-!
# What a request does to a process

A process is asked to register an engine, to start, or to note a change of its configuration. Two of
its slots show what a request did to them: whether the machine was published, and the bridge.

* `Quiet x` — the work `x` touches neither of the two slots and leaves no landmark, which is the
  publication or an effect of the bridge;
* `start_of_empty`, `start_of_filled` — a start, as it finds the slot of the bridge;
* `played` — so a request does one of four things: nothing to the slots, no more than publish, make
  the bridge and start it, or make a delivery to the bridge that is there.
-/

namespace PlatformBridge.Android

open PlatformBridge.Action
open Java (Machine Object Env)

/-! ### Requests -/

/-- What a process is asked to do. -/
inductive Request (ν μ : Type) where
  | register (table : Engine.Table)
  | registerNative (table : Option Engine.Table)
  | start (activity : Object) (document : Option Object)
  | change (activity : Object) (code : Int32)
  /-- The virtual machine and native code have gone on by themselves. -/
  | elsewhere (env : Env ν) (native : μ)

/-- The activity and the delivery that the request makes to the bridge, if it gets there. -/
def Request.delivery? {ν μ : Type} : Request ν μ → Option (Object × Delivery)
  | .start activity _ => some (activity, .start)
  | .change activity code => some (activity, .configurationChanged (Axis.ofConfigurationCode code))
  | _ => none

section

variable {ν μ α β : Type} (m : Machine ν) (library : Engine.Library μ)

def Request.play : Request ν μ → Act ν μ Unit
  | .register table => Android.register table
  | .registerNative table => do
    let _ ← ((Engine.Registry.registerNative table).mapTrail .registration).zoom Process.registry
      fun registry p => { p with registry }
  | .start activity document => onStart m library activity document
  | .change activity code => onConfigurationChanged m library activity code
  | .elsewhere env native => .change fun p => { p with env, native }

/-! ### Landmarks -/

/-- The publication and the effects of the bridge. -/
def Effect.isLandmark : Effect → Bool
  | .published | .bridge _ => true
  | _ => false

def landmarks (t : List Effect) : List Effect := t.filter Effect.isLandmark

@[simp] theorem landmarks_nil : landmarks [] = [] := rfl

@[simp] theorem landmarks_append (t u : List Effect) :
    landmarks (t ++ u) = landmarks t ++ landmarks u :=
  List.filter_append ..

@[simp] theorem landmarks_map_bridge (t : Trail) : landmarks (t.map .bridge) = t.map .bridge := by
  simp [landmarks, Effect.isLandmark]

@[simp] theorem landmarks_map_java (t : List Java.Effect) : landmarks (t.map .java) = [] := by
  simp [landmarks, Effect.isLandmark]

@[simp] theorem landmarks_map_registration (t : List Engine.Effect) :
    landmarks (t.map .registration) = [] := by
  simp [landmarks, Effect.isLandmark]

def Effect.isPublication : Effect → Bool
  | .published => true
  | _ => false

theorem countP_landmarks (t : List Effect) :
    (landmarks t).countP Effect.isPublication = t.countP Effect.isPublication := by
  rw [landmarks, List.countP_filter]
  refine List.countP_congr fun effect _ => ?_
  cases effect <;> simp [Effect.isPublication, Effect.isLandmark]

/-- All that crosses the native boundary is the bridge's doing. -/
theorem filterMap_landmarks (t : List Effect) :
    (landmarks t).filterMap Effect.crossing? = t.filterMap Effect.crossing? := by
  rw [landmarks, List.filterMap_filter]
  refine congrArg (List.filterMap · t) (funext fun effect => ?_)
  cases effect <;> rfl

theorem filterMap_crossing_bridge (t : Trail) :
    (t.map Effect.bridge).filterMap Effect.crossing? = t.crossings := by
  rw [List.filterMap_map]
  rfl

theorem mem_of_landmarks {t : List Effect} {effect : Effect} (h : effect ∈ landmarks t) :
    effect ∈ t :=
  (List.mem_filter.mp h).1

/-- Whether the machine was published, and the bridge with its table. -/
def Process.slots (p : Process ν μ) : Bool × Option (Engine.Table × Bridge) :=
  (p.published, p.adapter)

/-- **The work touches neither slot and leaves no landmark.** -/
def Quiet (x : Act ν μ α) : Prop :=
  ∀ slots marks, Keeps (fun p t => p.slots = slots ∧ landmarks t = marks) x

variable {x : Act ν μ α}

theorem Quiet.of_forall (h : ∀ p, (x p).state.slots = p.slots ∧ landmarks (x p).trail = []) :
    Quiet x := by
  rintro slots marks p t ⟨hslots, hmarks⟩
  obtain ⟨hs, ht⟩ := h p
  refine ⟨hs.trans hslots, ?_⟩
  rw [landmarks_append, hmarks, ht, List.append_nil]

theorem Quiet.slots (h : Quiet x) (p : Process ν μ) : (x p).state.slots = p.slots :=
  (h p.slots [] p [] ⟨rfl, rfl⟩).1

theorem Quiet.landmarks (h : Quiet x) (p : Process ν μ) : landmarks (x p).trail = [] :=
  (h p.slots [] p [] ⟨rfl, rfl⟩).2

theorem Quiet.adapter (h : Quiet x) (p : Process ν μ) : (x p).state.adapter = p.adapter :=
  congrArg Prod.snd (h.slots p)

theorem Quiet.published (h : Quiet x) (p : Process ν μ) : (x p).state.published = p.published :=
  congrArg Prod.fst (h.slots p)

theorem Quiet.bind {f : α → Act ν μ β} (h : Quiet x) (hf : ∀ a, Quiet (f a)) : Quiet (x >>= f) :=
  fun slots marks => Keeps.bind (h slots marks) fun a => hf a slots marks

theorem Quiet.onFailure {handle : Failure → Act ν μ Unit} (h : Quiet x)
    (hh : ∀ e, Quiet (handle e)) : Quiet (Action.onFailure x handle) :=
  fun slots marks => Keeps.onFailure (h slots marks) fun e => hh e slots marks

theorem quiet_pure (a : α) : Quiet (pure a : Act ν μ α) := fun _ _ => keeps_pure a

theorem quiet_lift (r : Except Failure α) : Quiet (lift r : Act ν μ α) := fun _ _ => keeps_lift r

theorem quiet_log (event : Log.Event) : Quiet (log event : Act ν μ Unit) :=
  .of_forall fun _ => ⟨rfl, rfl⟩

theorem quiet_onMachine (work : Java.Work ν α) (failure : Java.Error → Failure) :
    Quiet (onMachine work failure : Act ν μ α) :=
  .of_forall fun _ => ⟨rfl, landmarks_map_java _⟩

theorem quiet_setUpLog (filter : String) : Quiet (setUpLog filter : Act ν μ Unit) := by
  refine .of_forall fun p => ⟨?_, rfl⟩
  simp only [setUpLog, change_apply]
  cases p.verbosity <;> rfl

theorem quiet_readSettings (document : Option Object) :
    Quiet (readSettings m document : Act ν μ Settings) := by
  cases document with
  | none => exact quiet_pure _
  | some document => exact (quiet_onMachine _ _).bind fun _ => quiet_lift _

theorem quiet_register (table : Engine.Table) : Quiet (register table : Act ν μ Unit) :=
  .of_forall fun _ => ⟨rfl, landmarks_map_registration _⟩

theorem quiet_registerNative (table : Option Engine.Table) :
    Quiet ((Request.registerNative table : Request ν μ).play m library) :=
  Quiet.bind (.of_forall fun _ => ⟨rfl, landmarks_map_registration _⟩) fun _ => quiet_pure _

/-- The last words of a process change neither its slots nor the result. -/
theorem orDie_apply (work : Act ν μ Unit) (p : Process ν μ) :
    (orDie work p).result = (work p).result ∧ (orDie work p).state.slots = (work p).state.slots ∧
      landmarks (orDie work p).trail = landmarks (work p).trail := by
  have hquiet : ∀ failure, Quiet (do
      log (.aborting failure)
      onMachine (Java.note (.fatalError (lastWords failure))) fun _ => failure : Act ν μ Unit) :=
    fun failure => (quiet_log _).bind fun _ => quiet_onMachine _ _
  rcases onFailure_cases work _ p with ⟨a, ha, h⟩ | ⟨e, he, h⟩
  · rw [orDie, h, ha]
    exact ⟨rfl, rfl, rfl⟩
  · rw [orDie, h, he]
    refine ⟨rfl, (hquiet e).slots _, ?_⟩
    rw [landmarks_append, (hquiet e).landmarks, List.append_nil]

/-! ### A start -/

/-- Pins the activity and asks for the machine; without it the pin is released. -/
def pin (activity : Object) : Act ν μ Unit := do
  onMachine (Java.newGlobalRef m activity) fun e => .hostQuery "activity" e.message
  Action.onFailure (onMachine (Java.getVm m) fun e => .hostQuery "java_vm" e.message)
    fun failure => onMachine (Java.note (.deleteGlobalRef activity)) fun _ => failure

def announce : Act ν μ Unit := do
  tell .published
  Action.change fun p => { p with published := true }

theorem quiet_pin (activity : Object) : Quiet (pin m activity : Act ν μ Unit) :=
  (quiet_onMachine _ _).bind fun _ => (quiet_onMachine _ _).onFailure fun _ => quiet_onMachine _ _

theorem publish_of_published {p : Process ν μ} (h : p.published = true) (activity : Object) :
    publish m activity p = ⟨.ok (), p, []⟩ := by
  simp [publish, bind_apply, h]

theorem publish_of_fresh {p : Process ν μ} (h : p.published = false) (activity : Object) :
    publish m activity p = (pin m activity >>= fun _ => announce) p := by
  simp only [pin, bind_assoc]
  simp [publish, announce, bind_apply, h]

/-- Publishing succeeds, and has published then once and for all, or leaves the slots as they
were. -/
theorem publish_cases (activity : Object) (p : Process ν μ) :
    let o := publish m activity p
    (o.result = .ok () ∧ o.state.slots = (true, p.adapter) ∧
        landmarks o.trail = if p.published then [] else [.published]) ∨
      ∃ e, o.result = .error e ∧ o.state.slots = p.slots ∧ landmarks o.trail = [] := by
  cases hp : p.published with
  | true =>
    rw [publish_of_published m hp]
    refine Or.inl ⟨rfl, ?_, rfl⟩
    rw [← hp]
    rfl
  | false =>
    have hpin : Quiet (pin m activity : Act ν μ Unit) := quiet_pin m activity
    rw [publish_of_fresh m hp]
    rcases bind_cases (pin m activity) (fun _ => announce) p with ⟨e, -, hb⟩ | ⟨_, -, hb⟩ <;>
      rw [hb]
    · exact Or.inr ⟨e, rfl, hpin.slots p, hpin.landmarks p⟩
    · refine Or.inl ⟨rfl, ?_, ?_⟩
      · rw [← hpin.adapter p]
        rfl
      · rw [landmarks_append, hpin.landmarks]
        rfl

/-- What every start does first: it reads its settings and sets logging up. -/
def preliminaries (document : Option Object) : Act ν μ Settings := do
  let settings ← readSettings m document
  setUpLog settings.logFilter
  return settings

/-- What a start does before it makes the bridge. -/
def groundwork (activity : Object) (document : Option Object) : Act ν μ Settings := do
  let settings ← preliminaries m document
  publish m activity
  return settings

/-- Makes the bridge over the registered engine. -/
def fill (settings : Settings) : Act ν μ Unit := do
  let registered ← .inspect fun p => p.registry.registered
  let table ← .lift registered
  .change fun p => { p with adapter := some (table, { settings }) }

/-- Makes the bridge and starts it. -/
def launch (activity : Object) (settings : Settings) : Act ν μ Unit := do
  fill settings
  onAdapter library .poisoned fun engine => Bridge.onStart (host m activity) engine

theorem quiet_preliminaries (document : Option Object) :
    Quiet (preliminaries m document : Act ν μ Settings) :=
  (quiet_readSettings m document).bind fun _ => (quiet_setUpLog _).bind fun _ => quiet_pure _

theorem start_eq (activity : Object) (document : Option Object) :
    start m library activity document = (do
      let settings ← preliminaries m document
      prepare m activity settings
      onAdapter library .poisoned fun engine => Bridge.onStart (host m activity) engine) := by
  simp only [start, preliminaries, bind_assoc, pure_bind]

theorem prepare_of_empty {p : Process ν μ} (h : p.adapter = none) (activity : Object)
    (settings : Settings) :
    prepare m activity settings p = (publish m activity >>= fun _ => fill settings) p := by
  simp [prepare, fill, bind_apply, h]

theorem prepare_of_filled {p : Process ν μ} {there : Engine.Table × Bridge}
    (h : p.adapter = some there) (activity : Object) (settings : Settings) :
    prepare m activity settings p = ⟨.ok (), p, []⟩ := by
  simp [prepare, bind_apply, h]

theorem fill_cases (settings : Settings) (p : Process ν μ) :
    (∃ e, fill settings p = ⟨.error e, p, []⟩) ∨
      ∃ table, p.registry.registered = .ok table ∧
        fill settings p = ⟨.ok (), { p with adapter := some (table, { settings }) }, []⟩ := by
  rcases h : p.registry.registered with e | table
  · exact Or.inl ⟨e, by simp [fill, bind_apply, h]⟩
  · exact Or.inr ⟨table, rfl, by simp [fill, bind_apply, h]⟩

theorem groundwork_cases (activity : Object) (document : Option Object) (p : Process ν μ) :
    let o := groundwork m activity document p
    (∃ e, o.result = .error e ∧ o.state.slots = p.slots ∧ landmarks o.trail = []) ∨
      ∃ settings, o.result = .ok settings ∧ o.state.slots = (true, p.adapter) ∧
        landmarks o.trail = if p.published then [] else [.published] := by
  intro o
  have hquiet : Quiet (preliminaries m document : Act ν μ Settings) :=
    quiet_preliminaries m document
  rcases bind_cases (preliminaries m document)
    (fun settings => publish m activity >>= fun _ => pure settings) p with
    ⟨e, -, hb⟩ | ⟨settings, -, hb⟩
  · rw [show o = _ from hb]
    exact Or.inl ⟨e, rfl, hquiet.slots p, hquiet.landmarks p⟩
  rw [show o = _ from hb]
  simp only [landmarks_append, hquiet.landmarks, List.nil_append]
  rw [← hquiet.published p, ← hquiet.adapter p, ← hquiet.slots p]
  generalize (preliminaries m document p).state = q
  rcases publish_cases m activity q with ⟨hok, hslots, hmarks⟩ | ⟨e, he, hslots, hmarks⟩
  · rcases bind_cases (publish m activity) (fun _ => pure settings) q with ⟨e, he, -⟩ | ⟨_, -, hb'⟩
    · cases he.symm.trans hok
    · rw [hb']
      exact Or.inr ⟨settings, rfl, hslots, by simpa using hmarks⟩
  · rcases bind_cases (publish m activity) (fun _ => pure settings) q with ⟨e', -, hb'⟩ |
      ⟨_, hok, -⟩
    · rw [hb']
      exact Or.inl ⟨e', rfl, hslots, hmarks⟩
    · cases he.symm.trans hok

/-- The settings of the groundwork are those that were read. -/
theorem readSettings_of_groundwork {activity : Object} {document : Option Object} {p : Process ν μ}
    {settings : Settings} (h : (groundwork m activity document p).result = .ok settings) :
    (readSettings m document p).result = .ok settings := by
  obtain ⟨read, hread, hlast⟩ := bind_result_ok h
  obtain ⟨_, -, hpure⟩ := bind_result_ok hlast
  cases hpure
  obtain ⟨read, hread, hlast⟩ := bind_result_ok hread
  obtain ⟨_, -, hpure⟩ := bind_result_ok hlast
  cases hpure
  exact hread

theorem start_eq_of_empty {p : Process ν μ} (h : p.adapter = none) (activity : Object)
    (document : Option Object) :
    start m library activity document p =
      (groundwork m activity document >>= launch m library activity) p := by
  rw [start_eq, groundwork]
  simp only [bind_assoc, pure_bind, launch]
  refine bind_congr_ok fun settings => ?_
  have hempty := ((quiet_preliminaries m document).adapter p).trans h
  rw [bind_apply, prepare_of_empty m hempty, ← bind_apply, bind_assoc]

/-- A start that finds no bridge: it gets no further than its groundwork, or makes the bridge with
the settings that it read and starts it. -/
theorem start_of_empty {p : Process ν μ} (h : p.adapter = none) (activity : Object)
    (document : Option Object) :
    let g := groundwork m activity document p
    let o := start m library activity document p
    ((∃ e, o.result = .error e) ∧ o.state = g.state ∧ o.trail = g.trail) ∨
      ∃ settings table, g.result = .ok settings ∧ g.state.registry.registered = .ok table ∧
        let d := Bridge.onStart (host m activity) (Engine.native library table)
          ⟨{ settings }, g.state.env, g.state.native⟩
        o.result = d.result ∧ o.state.slots = (g.state.published, some (table, d.state.bridge)) ∧
          o.trail = g.trail ++ d.trail.map .bridge := by
  intro g o
  rw [show o = _ from start_eq_of_empty m library h activity document]
  rcases bind_cases (groundwork m activity document) (launch m library activity) p with
    ⟨e, -, hb⟩ | ⟨settings, hg, hb⟩
  · rw [hb]
    exact Or.inl ⟨⟨e, rfl⟩, rfl, rfl⟩
  rw [hb]
  rcases fill_cases settings g.state with ⟨e, hf⟩ | ⟨table, htable, hf⟩
  · have hlaunch : launch m library activity settings g.state = ⟨.error e, g.state, []⟩ :=
      bind_error hf
    rw [hlaunch, List.append_nil]
    exact Or.inl ⟨⟨e, rfl⟩, rfl, rfl⟩
  · have hlaunch : launch m library activity settings g.state = _ := bind_ok hf
    rw [hlaunch]
    exact Or.inr ⟨settings, table, hg, htable, rfl, rfl, rfl⟩

theorem onAdapter_of_filled {p : Process ν μ} {table : Engine.Table} {b : Bridge}
    (h : p.adapter = some (table, b)) (absent : Failure)
    (work : Engine μ → Bridge.Act (Env ν) μ Unit) :
    let d := work (Engine.native library table) ⟨b, p.env, p.native⟩
    let o := onAdapter library absent work p
    o.result = d.result ∧ o.state.slots = (p.published, some (table, d.state.bridge)) ∧
      o.trail = d.trail.map .bridge := by
  simp [onAdapter, h, Process.slots]

/-- A start that finds the bridge: it fails before it gets there, or starts it anew. -/
theorem start_of_filled {p : Process ν μ} {table : Engine.Table} {b : Bridge}
    (h : p.adapter = some (table, b)) (activity : Object) (document : Option Object) :
    let o := start m library activity document p
    ((∃ e, o.result = .error e) ∧ o.state.slots = p.slots ∧ landmarks o.trail = []) ∨
      ∃ s : Scene (Env ν) μ, s.bridge = b ∧
        let d := Bridge.onStart (host m activity) (Engine.native library table) s
        o.result = d.result ∧ o.state.slots = (p.published, some (table, d.state.bridge)) ∧
          landmarks o.trail = d.trail.map .bridge := by
  intro o
  have hquiet : Quiet (preliminaries m document : Act ν μ Settings) :=
    quiet_preliminaries m document
  have ho : o = (preliminaries m document >>= fun _ =>
      onAdapter library .poisoned fun engine => Bridge.onStart (host m activity) engine) p := by
    rw [show o = _ from congrFun (start_eq m library activity document) p]
    refine bind_congr_ok fun settings => ?_
    rw [bind_apply, prepare_of_filled m ((hquiet.adapter p).trans h)]
    rfl
  rw [ho]
  rcases bind_cases (preliminaries m document) (fun _ => onAdapter library .poisoned fun engine =>
    Bridge.onStart (host m activity) engine) p with ⟨e, -, hb⟩ | ⟨_, -, hb⟩ <;> rw [hb]
  · exact Or.inl ⟨⟨e, rfl⟩, hquiet.slots p, hquiet.landmarks p⟩
  · obtain ⟨hresult, hslots, htrail⟩ := onAdapter_of_filled library ((hquiet.adapter p).trans h)
      .poisoned fun engine => Bridge.onStart (host m activity) engine
    refine Or.inr ⟨_, rfl, hresult, ?_, ?_⟩
    · rw [← hquiet.published p]
      exact hslots
    · rw [landmarks_append, hquiet.landmarks, htrail, landmarks_map_bridge, List.nil_append]

/-! ### Every request -/

/-- **What a request can come to**, as far as the slots, the landmarks and the result show. -/
inductive Played (request : Request ν μ) (p : Process ν μ)
    (o : Outcome Effect Failure (Process ν μ) Unit) : Prop
  /-- Neither slot is touched; if the request was meant for the bridge it fails. -/
  | idle (slots : o.state.slots = p.slots) (marks : landmarks o.trail = [])
    (failed : request.delivery? ≠ none → ∃ e, o.result = .error e)
  /-- A start publishes, and fails before it makes the bridge. -/
  | published (empty : p.slots = (false, none)) (slots : o.state.slots = (true, none))
    (marks : landmarks o.trail = [.published]) (failed : ∃ e, o.result = .error e)
  /-- A start lays the ground, makes the bridge and starts it. -/
  | filled (activity : Object) (document : Option Object)
    (isStart : request = .start activity document) (empty : p.adapter = none)
    (settings : Settings) (table : Engine.Table)
    (ground : (groundwork m activity document p).result = .ok settings)
    (registered : (groundwork m activity document p).state.registry.registered = .ok table)
    (s : Scene (Env ν) μ) (fresh : s.bridge = { settings })
    (result : o.result =
      (Bridge.deliver (host m activity) (Engine.native library table) .start s).result)
    (slots : o.state.slots = (true, some (table,
      (Bridge.deliver (host m activity) (Engine.native library table) .start s).state.bridge)))
    (marks : landmarks o.trail = (if p.published then [] else [.published]) ++
      (Bridge.deliver (host m activity) (Engine.native library table) .start s).trail.map .bridge)
  /-- A delivery is made to the bridge that is there. -/
  | delivered (activity : Object) (d : Delivery)
    (isDelivery : request.delivery? = some (activity, d)) (table : Engine.Table)
    (s : Scene (Env ν) μ) (there : p.adapter = some (table, s.bridge))
    (result : o.result =
      (Bridge.deliver (host m activity) (Engine.native library table) d s).result)
    (slots : o.state.slots = (p.published, some (table,
      (Bridge.deliver (host m activity) (Engine.native library table) d s).state.bridge)))
    (marks : landmarks o.trail =
      (Bridge.deliver (host m activity) (Engine.native library table) d s).trail.map .bridge)

/-- A request for the bridge that returns made its delivery, to the bridge that was there or, as a
start, to one that it made. -/
theorem Played.of_ok {request : Request ν μ} {p : Process ν μ}
    {o : Outcome Effect Failure (Process ν μ) Unit} (h : Played m library request p o)
    {activity : Object} {d : Delivery} (hd : request.delivery? = some (activity, d))
    (hok : o.result = .ok ()) :
    ∃ table s, let done := Bridge.deliver (host m activity) (Engine.native library table) d s
      done.result = .ok () ∧ o.state.adapter = some (table, done.state.bridge) ∧
        (p.adapter = some (table, s.bridge) ∨ d = .start) := by
  cases h with
  | idle slots marks failed =>
    obtain ⟨e, he⟩ := failed (by rw [hd]; nofun)
    cases he.symm.trans hok
  | published empty slots marks failed =>
    obtain ⟨e, he⟩ := failed
    cases he.symm.trans hok
  | filled activity' document isStart empty settings table ground registered s fresh result slots =>
    rw [isStart] at hd
    cases hd
    exact ⟨table, s, result.symm.trans hok, congrArg Prod.snd slots, Or.inr rfl⟩
  | delivered activity' d' isDelivery table s there result slots =>
    cases isDelivery.symm.trans hd
    exact ⟨table, s, result.symm.trans hok, congrArg Prod.snd slots, Or.inl there⟩

theorem played_of_quiet {request : Request ν μ} (h : Quiet (request.play m library))
    (hd : request.delivery? = none) (p : Process ν μ) :
    Played m library request p (request.play m library p) :=
  .idle (h.slots p) (h.landmarks p) fun hne => absurd hd hne

theorem played_start (activity : Object) (document : Option Object) (p : Process ν μ) :
    Played m library (.start activity document) p (onStart m library activity document p) := by
  obtain ⟨hr, hs, ht⟩ := orDie_apply (start m library activity document) p
  change (onStart m library activity document p).result = _ at hr
  change (onStart m library activity document p).state.slots = _ at hs
  change landmarks (onStart m library activity document p).trail = _ at ht
  rcases hp : p.adapter with - | ⟨table, b⟩
  · have hground := groundwork_cases m activity document p
    rcases start_of_empty m library hp activity document with ⟨⟨e, he⟩, hstate, htrail⟩ |
      ⟨settings, table, hg, htable, hresult, hslots, htrail⟩
    · rw [hstate] at hs
      rw [htrail] at ht
      rcases hground with ⟨-, -, hgs, hgt⟩ | ⟨-, -, hgs, hgt⟩
      · exact .idle (hs.trans hgs) (ht.trans hgt) fun _ => ⟨e, hr.trans he⟩
      · rw [hp] at hgs
        cases hpub : p.published with
        | true =>
          rw [hpub] at hgt
          refine .idle (hs.trans (hgs.trans ?_)) (ht.trans hgt) fun _ => ⟨e, hr.trans he⟩
          rw [Process.slots, hpub, hp]
        | false =>
          rw [hpub] at hgt
          exact .published (by rw [Process.slots, hpub, hp]) (hs.trans hgs) (ht.trans hgt)
            ⟨e, hr.trans he⟩
    · rcases hground with ⟨e, he, -, -⟩ | ⟨-, -, hgs, hgt⟩
      · cases he.symm.trans hg
      have hpublished : (groundwork m activity document p).state.published = true :=
        congrArg Prod.fst hgs
      rw [hpublished] at hslots
      rw [htrail, landmarks_append, hgt, landmarks_map_bridge] at ht
      exact .filled activity document rfl hp settings table hg htable _ rfl (hr.trans hresult)
        (hs.trans hslots) ht
  · rcases start_of_filled m library hp activity document with ⟨⟨e, he⟩, hslots, hmarks⟩ |
      ⟨s, rfl, hresult, hslots, hmarks⟩
    · exact .idle (hs.trans hslots) (ht.trans hmarks) fun _ => ⟨e, hr.trans he⟩
    · exact .delivered activity .start rfl table s hp (hr.trans hresult) (hs.trans hslots)
        (ht.trans hmarks)

theorem played_change (activity : Object) (code : Int32) (p : Process ν μ) :
    Played m library (.change activity code) p
      (onConfigurationChanged m library activity code p) := by
  obtain ⟨hr, hs, ht⟩ := orDie_apply (configurationChanged m library activity code) p
  rcases hp : p.adapter with - | ⟨table, b⟩
  · have h : configurationChanged m library activity code p = ⟨.error .notStarted, p, []⟩ := by
      simp [configurationChanged, onAdapter, hp]
    rw [h] at hr hs ht
    exact .idle hs ht fun _ => ⟨_, hr⟩
  · obtain ⟨hresult, hslots, htrail⟩ := onAdapter_of_filled library hp .notStarted fun engine =>
      Bridge.onConfigurationChanged (host m activity) engine (Axis.ofConfigurationCode code)
    exact .delivered activity _ rfl table ⟨b, p.env, p.native⟩ hp (hr.trans hresult)
      (hs.trans hslots) (ht.trans ((congrArg landmarks htrail).trans (landmarks_map_bridge _)))

/-- **Every request comes to one of these.** -/
theorem played (request : Request ν μ) (p : Process ν μ) :
    Played m library request p (request.play m library p) := by
  cases request with
  | register table =>
    have hquiet : Quiet ((Request.register table : Request ν μ).play m library) :=
      quiet_register table
    exact played_of_quiet m library hquiet rfl p
  | registerNative table =>
    exact played_of_quiet m library (quiet_registerNative m library table) rfl p
  | start activity document => exact played_start m library activity document p
  | change activity code => exact played_change m library activity code p
  | elsewhere env native =>
    have hquiet : Quiet ((Request.elsewhere env native).play m library) :=
      .of_forall fun _ => ⟨rfl, rfl⟩
    exact played_of_quiet m library hquiet rfl p

end

end PlatformBridge.Android
