import PlatformBridge.Proofs.Android.Harmless
import PlatformBridge.Proofs.Android.Request

/-!
# How a process ends

A start or a change that fails ends the process, with the failure in its last words. What matters is
what it leaves behind if the virtual machine lets the process go on.

* `Premature m p request e` — the failures that come before the bridge is turned to: the document of
  settings, the publication, the missing engine, the missing bridge;
* `start_failed` — a start fails prematurely, or it leaves a poisoned bridge;
* `Calm x` — the work `x` leaves the registered table alone and does not end the process;
* `orDie_failed` — the last words;
* `aborts` — all of it together.
-/

namespace PlatformBridge.Android

open PlatformBridge.Action
open Java (Machine Object Env)

variable {ν μ α β : Type}

/-! ### Failures before the bridge is turned to -/

/-- **A request fails before it turns to the bridge.** -/
inductive Premature (m : Machine ν) (p : Process ν μ) : Request ν μ → Failure → Prop
  /-- The text of the document is not to be had. -/
  | unreadable (activity document : Object) (error : Java.Error)
    (unread : (Java.readText m document p.env).result = .error error) :
    Premature m p (.start activity (some document)) (.settings (.unreadable error.message))
  /-- The text of the document spells no settings, or unsound ones. -/
  | unusable (activity document : Object) (text : String) (e : Failure)
    (read : (Java.readText m document p.env).result = .ok text)
    (refused : Settings.ofText text = .error e) : Premature m p (.start activity (some document)) e
  /-- The activity cannot be pinned. -/
  | unpinned (activity : Object) (document : Option Object) (env : Env ν) (error : Java.Error)
    (empty : p.adapter = none) (fresh : p.published = false)
    (refused : (Java.newGlobalRef m activity env).result = .error error) :
    Premature m p (.start activity document) (.hostQuery "activity" error.message)
  /-- The machine itself cannot be had. -/
  | unreachable (activity : Object) (document : Option Object) (env : Env ν) (error : Java.Error)
    (empty : p.adapter = none) (fresh : p.published = false)
    (refused : (Java.getVm m env).result = .error error) :
    Premature m p (.start activity document) (.hostQuery "java_vm" error.message)
  /-- No engine is registered. -/
  | unregistered (activity : Object) (document : Option Object) (empty : p.adapter = none)
    (vacant : p.registry.slot = none) : Premature m p (.start activity document) .engineNotRegistered
  /-- There is no bridge yet. -/
  | tooEarly (activity : Object) (code : Int32) (empty : p.adapter = none) :
    Premature m p (.change activity code) .notStarted

section

variable {m : Machine ν} {library : Engine.Library μ} {p : Process ν μ} {activity : Object}
  {document : Option Object} {e : Failure}

theorem onMachine_failed {work : Java.Work ν α} {failure : Java.Error → Failure}
    (h : (onMachine work failure p).result = .error e) :
    ∃ error, (work p.env).result = .error error ∧ e = failure error := by
  have hmapped : (work p.env).result.mapError failure = .error e := h
  rcases hw : (work p.env).result with error | a <;> rw [hw] at hmapped <;> cases hmapped
  exact ⟨error, rfl, rfl⟩

theorem onMachine_ok {work : Java.Work ν α} {failure : Java.Error → Failure} {a : α}
    (h : (onMachine work failure p).result = .ok a) : (work p.env).result = .ok a := by
  have hmapped : (work p.env).result.mapError failure = .ok a := h
  rcases hw : (work p.env).result with error | a' <;> rw [hw] at hmapped <;> cases hmapped
  rfl

theorem readSettings_failed (h : (readSettings m document p).result = .error e) :
    Premature m p (.start activity document) e := by
  cases document with
  | none => cases h
  | some document =>
    rcases bind_result_error h with hread | ⟨text, hread, hspelled⟩
    · obtain ⟨error, herror, rfl⟩ := onMachine_failed hread
      exact .unreadable activity document error herror
    · exact .unusable activity document text e (onMachine_ok hread) hspelled

theorem preliminaries_failed (h : (preliminaries m document p).result = .error e) :
    Premature m p (.start activity document) e := by
  rcases bind_result_error h with hread | ⟨settings, -, hlast⟩
  · exact readSettings_failed hread
  · cases hlast

theorem publish_failed (h : (publish m activity p).result = .error e) : p.published = false ∧
    ((∃ error, (Java.newGlobalRef m activity p.env).result = .error error ∧
        e = .hostQuery "activity" error.message) ∨
      ∃ env error, (Java.getVm m env).result = .error error ∧
        e = .hostQuery "java_vm" error.message) := by
  cases hp : p.published with
  | true =>
    rw [publish_of_published m hp] at h
    cases h
  | false =>
    rw [publish_of_fresh m hp] at h
    refine ⟨rfl, ?_⟩
    rcases bind_result_error h with hpin | ⟨_, -, hlast⟩
    · rcases bind_result_error hpin with hpinned | ⟨_, -, hvm⟩
      · exact Or.inl (onMachine_failed hpinned)
      · rw [result_onFailure] at hvm
        obtain ⟨error, herror, rfl⟩ := onMachine_failed hvm
        exact Or.inr ⟨_, error, herror, rfl⟩
    · cases hlast

theorem fill_failed {settings : Settings} (h : (fill settings p).result = .error e) :
    p.registry.slot = none ∧ e = .engineNotRegistered := by
  rcases bind_result_error h with hnone | ⟨registered, hinspect, h⟩
  · cases hnone
  cases hinspect
  rcases bind_result_error h with hregistered | ⟨table, -, hlast⟩
  · have hregistered : p.registry.registered = .error e := hregistered
    unfold Engine.Registry.registered at hregistered
    split at hregistered
    · cases hregistered
    · cases hregistered
      exact ⟨‹_›, rfl⟩
  · cases hlast

/-! ### What a failure leaves untouched -/

/-- The effect is one of the last that a process has. -/
def Effect.isFinal : Effect → Bool
  | .logged (.aborting _) => true
  | .bridge effect => effect.isFatal
  | .java effect => effect.isFatal
  | _ => false

/-- **The work leaves the registered table alone and does not end the process.** -/
def Calm (x : Act ν μ α) : Prop :=
  ∀ registry, Keeps (fun p t => p.registry = registry ∧ ∀ effect ∈ t, effect.isFinal = false) x

theorem Calm.of_forall {x : Act ν μ α} (h : ∀ p, (x p).state.registry = p.registry)
    (ht : Leaves (fun effect => effect.isFinal = false) x) : Calm x := by
  rintro registry p t ⟨hp, hquiet⟩
  exact ⟨(h p).trans hp, ht.keeps p t hquiet⟩

theorem Calm.bind {x : Act ν μ α} {f : α → Act ν μ β} (h : Calm x) (hf : ∀ a, Calm (f a)) :
    Calm (x >>= f) :=
  fun registry => Keeps.bind (h registry) fun a => hf a registry

theorem Calm.onFailure {x : Act ν μ α} {handle : Failure → Act ν μ Unit} (h : Calm x)
    (hh : ∀ e, Calm (handle e)) : Calm (Action.onFailure x handle) :=
  fun registry => Keeps.onFailure (h registry) fun e => hh e registry

theorem Calm.registry {x : Act ν μ α} (h : Calm x) (p : Process ν μ) :
    (x p).state.registry = p.registry :=
  (h p.registry p [] ⟨rfl, List.forall_mem_nil _⟩).1

theorem Calm.trail {x : Act ν μ α} (h : Calm x) (p : Process ν μ) :
    ∀ effect ∈ (x p).trail, effect.isFinal = false :=
  (h p.registry p [] ⟨rfl, List.forall_mem_nil _⟩).2

theorem Calm.of_silent {x : Act ν μ α} (h : ∀ p, (x p).state.registry = p.registry)
    (ht : ∀ p, (x p).trail = []) : Calm x :=
  .of_forall h (.of_silent ht)

theorem calm_pure (a : α) : Calm (pure a : Act ν μ α) := .of_silent (fun _ => rfl) fun _ => rfl

theorem calm_onMachine {work : Java.Work ν α} {failure : Java.Error → Failure}
    (h : Java.Harmless work) : Calm (onMachine work failure : Act ν μ α) := by
  refine .of_forall (fun _ => rfl) fun p effect hmem => ?_
  obtain ⟨operation, hmade, rfl⟩ := List.mem_map.mp hmem
  exact h p.env operation hmade

theorem calm_onAdapter {absent : Failure} {work : Engine μ → Bridge.Act (Env ν) μ Unit}
    (h : ∀ engine, Leaves (fun effect => effect.isFatal = false) (work engine)) :
    Calm (onAdapter library absent work : Act ν μ Unit) := by
  refine .of_forall (fun p => ?_) fun p effect hmem => ?_
  · unfold onAdapter
    split <;> rfl
  · unfold onAdapter at hmem
    split at hmem
    · cases hmem
    · obtain ⟨own, hown, rfl⟩ := List.mem_map.mp hmem
      exact h _ _ own hown

theorem calm_preliminaries : Calm (preliminaries m document : Act ν μ Settings) := by
  have hread : Calm (readSettings m document : Act ν μ Settings) := by
    cases document with
    | none => exact calm_pure _
    | some document =>
      exact (calm_onMachine (Java.inherited_harmless.readText document)).bind fun _ =>
        .of_silent (fun _ => rfl) fun _ => rfl
  refine hread.bind fun settings => .bind (.of_silent (fun p => ?_) fun _ => rfl) fun _ => calm_pure _
  simp only [setUpLog, change_apply]
  cases p.verbosity <;> rfl

theorem calm_publish : Calm (publish m activity : Act ν μ Unit) := by
  refine .bind (.of_silent (fun _ => rfl) fun _ => rfl) fun published => ?_
  cases published with
  | true => exact calm_pure ()
  | false =>
    refine .bind (calm_onMachine (Java.inherited_harmless.newGlobalRef activity)) fun _ => .bind
      (.onFailure (calm_onMachine Java.inherited_harmless.getVm) fun _ =>
        calm_onMachine (Java.harmless_note rfl)) fun _ => .bind ?_ fun _ => ?_
    · refine .of_forall (fun _ => rfl) fun p effect hmem => ?_
      rw [List.mem_singleton.mp hmem]
      rfl
    · exact .of_silent (fun _ => rfl) fun _ => rfl

theorem calm_prepare {settings : Settings} : Calm (prepare m activity settings : Act ν μ Unit) := by
  refine .bind (.of_silent (fun _ => rfl) fun _ => rfl) fun adapter => ?_
  cases adapter with
  | some adapter => exact calm_pure ()
  | none =>
    exact calm_publish.bind fun _ => .bind (.of_silent (fun _ => rfl) fun _ => rfl) fun _ =>
      .bind (.of_silent (fun _ => rfl) fun _ => rfl) fun _ => .of_silent (fun _ => rfl) fun _ => rfl

theorem calm_start : Calm (start m library activity document) := by
  rw [start_eq]
  exact calm_preliminaries.bind fun _ => calm_prepare.bind fun _ =>
    calm_onAdapter fun engine => harmless_deliver activity engine .start

theorem calm_configurationChanged {code : Int32} :
    Calm (configurationChanged m library activity code) :=
  calm_onAdapter fun engine => harmless_deliver activity engine (.configurationChanged _)

/-! ### A start that fails -/

theorem onAdapter_failed {d : Delivery} {absent : Failure} {table : Engine.Table} {b : Bridge}
    (there : p.adapter = some (table, b))
    (h : (onAdapter library absent (fun engine => Bridge.deliver (host m activity) engine d) p).result =
      .error e) :
    ∃ b', (onAdapter library absent (fun engine => Bridge.deliver (host m activity) engine d)
      p).state.adapter = some (table, b') ∧ b'.phase = .poisoned := by
  obtain ⟨hresult, hslots, -⟩ := onAdapter_of_filled library there absent fun engine =>
    Bridge.deliver (host m activity) engine d
  exact ⟨_, congrArg Prod.snd hslots, Bridge.phase_of_failed (hresult.symm.trans h)⟩

theorem prepare_ok {settings : Settings} (h : (prepare m activity settings p).result = .ok ()) :
    ∃ table b, (prepare m activity settings p).state.adapter = some (table, b) := by
  rcases hp : p.adapter with - | ⟨table, b⟩
  · rw [prepare_of_empty m hp] at h ⊢
    obtain ⟨_, -, hb⟩ := bind_of_ok h
    rw [hb] at h ⊢
    rcases fill_cases settings (publish m activity p).state with ⟨e, hf⟩ | ⟨table, -, hf⟩ <;>
      rw [hf] at h ⊢
    · cases h
    · exact ⟨table, _, rfl⟩
  · rw [prepare_of_filled m hp]
    exact ⟨table, b, hp⟩

/-- Preparations fail prematurely, with the slots as the start found them. -/
theorem prepare_failed {q : Process ν μ} {settings : Settings} (hslots : q.slots = p.slots)
    (hregistry : q.registry = p.registry) (h : (prepare m activity settings q).result = .error e) :
    Premature m p (.start activity document) e := by
  have hadapter : q.adapter = p.adapter := congrArg Prod.snd hslots
  have hpublished : q.published = p.published := congrArg Prod.fst hslots
  rcases hq : q.adapter with - | there
  · have hempty : p.adapter = none := hadapter.symm.trans hq
    rw [prepare_of_empty m hq] at h
    rcases bind_result_error h with hpublish | ⟨_, -, hfill⟩
    · obtain ⟨hfresh, hreason⟩ := publish_failed hpublish
      have hfresh : p.published = false := hpublished.symm.trans hfresh
      rcases hreason with ⟨error, herror, rfl⟩ | ⟨env, error, herror, rfl⟩
      · exact .unpinned activity document q.env error hempty hfresh herror
      · exact .unreachable activity document env error hempty hfresh herror
    · obtain ⟨hvacant, rfl⟩ := fill_failed hfill
      rw [calm_publish.registry q, hregistry] at hvacant
      exact .unregistered activity document hempty hvacant
  · rw [prepare_of_filled m hq] at h
    cases h

/-- **A start that fails** fails before it turns to the bridge, or leaves a poisoned one. -/
theorem start_failed (h : (start m library activity document p).result = .error e) :
    Premature m p (.start activity document) e ∨
      ∃ table b, (start m library activity document p).state.adapter = some (table, b) ∧
        b.phase = .poisoned := by
  rw [start_eq] at h ⊢
  rcases bind_result_error h with hearly | ⟨settings, hsettings, hlater⟩
  · exact Or.inl (preliminaries_failed hearly)
  rw [bind_after_ok _ hsettings]
  rcases bind_result_error hlater with hprepare | ⟨_, hprepare, hdelivery⟩
  · exact Or.inl (prepare_failed ((quiet_preliminaries m document).slots p)
      (calm_preliminaries.registry p) hprepare)
  · obtain ⟨table, b, hthere⟩ := prepare_ok hprepare
    obtain ⟨b', hb', hpoisoned⟩ := onAdapter_failed (d := .start) hthere hdelivery
    refine Or.inr ⟨table, b', ?_, hpoisoned⟩
    rw [bind_after_ok _ hprepare]
    exact hb'

theorem configurationChanged_failed {code : Int32}
    (h : (configurationChanged m library activity code p).result = .error e) :
    Premature m p (.change activity code) e ∨
      ∃ table b, (configurationChanged m library activity code p).state.adapter = some (table, b) ∧
        b.phase = .poisoned := by
  rcases hp : p.adapter with - | ⟨table, b⟩
  · have hresult : (configurationChanged m library activity code p).result = .error .notStarted := by
      simp [configurationChanged, onAdapter, hp]
    cases hresult.symm.trans h
    exact Or.inl (.tooEarly activity code hp)
  · obtain ⟨b', hb', hpoisoned⟩ := onAdapter_failed (d := .configurationChanged _) hp h
    exact Or.inr ⟨table, b', hb', hpoisoned⟩

/-! ### The last words -/

/-- What fails is logged and uttered, and nothing else happens. -/
theorem orDie_failed {work : Act ν μ Unit} (h : (work p).result = .error e) : ∃ pending,
    orDie work p = ⟨.error e, (work p).state, (work p).trail ++
      [.logged (.aborting e), .java ⟨.fatalError (lastWords e), pending⟩]⟩ := by
  refine ⟨(work p).state.env.pending, ?_⟩
  rcases onFailure_cases work (fun failure => do
      log (.aborting failure)
      onMachine (Java.note (.fatalError (lastWords failure))) fun _ => failure) p with
    ⟨a, ha, -⟩ | ⟨e', he, hb⟩
  · cases ha.symm.trans h
  · cases he.symm.trans h
    exact hb

variable {request : Request ν μ}

/-- A request for the bridge is an errand that ends the process if it fails. -/
theorem errand_of_delivery (meant : request.delivery? ≠ none) : ∃ errand : Act ν μ Unit,
    request.play m library = orDie errand ∧ Calm errand ∧
      ∀ p e, (errand p).result = .error e → Premature m p request e ∨
        ∃ table b, (errand p).state.adapter = some (table, b) ∧ b.phase = .poisoned := by
  cases request with
  | start activity document => exact ⟨_, rfl, calm_start, fun _ _ => start_failed⟩
  | change activity code => exact ⟨_, rfl, calm_configurationChanged, fun _ _ => configurationChanged_failed⟩
  | _ => exact absurd rfl meant

/-- A request that fails leaves the bridge alone and calls no native code, or leaves a poisoned
bridge. -/
theorem adapter_of_failed
    (failed : (request.play m library p).result = .error e) :
    let o := request.play m library p
    (o.state.adapter = p.adapter ∧ o.trail.filterMap Effect.crossing? = []) ∨
      ∃ table b, o.state.adapter = some (table, b) ∧ b.phase = .poisoned := by
  intro o
  rw [← filterMap_landmarks]
  cases played m library request p with
  | idle slots marks =>
    refine Or.inl ⟨congrArg Prod.snd slots, ?_⟩
    rw [marks]
    rfl
  | published empty slots marks =>
    refine Or.inl ⟨(congrArg Prod.snd slots).trans (congrArg Prod.snd empty).symm, ?_⟩
    rw [marks]
    rfl
  | filled activity document isStart empty settings table ground registered s fresh result slots =>
    exact Or.inr ⟨table, _, congrArg Prod.snd slots, Bridge.phase_of_failed (result.symm.trans failed)⟩
  | delivered activity d isDelivery table s there result slots =>
    exact Or.inr ⟨table, _, congrArg Prod.snd slots, Bridge.phase_of_failed (result.symm.trans failed)⟩

end

/-! ### All of it together -/

/-- **How a request ends a process**, whatever the slots of the process hold. It fails before it turns
to the bridge, and then leaves the bridge, or its empty slot, as it was and has called no native code;
or it leaves a poisoned bridge. The registered table stays. At last the failure is logged, and the
process ends with the same failure in its words; nothing of the kind happens before. -/
theorem aborts (m : Machine ν) (library : Engine.Library μ) (p : Process ν μ) (request : Request ν μ)
    (e : Failure) (meant : request.delivery? ≠ none)
    (failed : (request.play m library p).result = .error e) :
    let o := request.play m library p
    ((Premature m p request e ∧ o.state.adapter = p.adapter ∧
        o.trail.filterMap Effect.crossing? = []) ∨
      ∃ table b, o.state.adapter = some (table, b) ∧ b.phase = .poisoned) ∧
    o.state.registry = p.registry ∧
    ∃ earlier pending, (∀ effect ∈ earlier, effect.isFinal = false) ∧ o.trail = earlier ++
      [.logged (.aborting e), .java ⟨.fatalError ("hostlink: " ++ e.message), pending⟩] := by
  intro o
  have hspared := adapter_of_failed failed
  obtain ⟨errand, hplay, hcalm, hcause⟩ := errand_of_delivery meant (m := m)
  have ho : o = orDie errand p := congrFun hplay p
  have hfailed : (errand p).result = .error e := by
    rw [← failed, hplay]
    exact (result_onFailure ..).symm
  obtain ⟨pending, hlast⟩ := orDie_failed hfailed
  have hstate : o.state = (errand p).state := by rw [ho, hlast]
  refine ⟨?_, ?_, (errand p).trail, pending, hcalm.trail p, ?_⟩
  · rcases hcause p e hfailed with hpremature | hpoisoned
    · exact hspared.imp_left fun h => ⟨hpremature, h⟩
    · rw [hstate]
      exact Or.inr hpoisoned
  · rw [hstate]
    exact hcalm.registry p
  · rw [ho, hlast]
    rfl

/-- A machine in which nothing is found. -/
def bareMachine : Machine Unit where
  finds _ s := (false, s)
  uses _ s := (none, s)
  characters _ s := (.thrown, s)
  vmStatus s := (0, s)

def registeredProcess : Process Unit Unit where
  registry := ⟨some ⟨"engine"⟩⟩
  env := ⟨(), false⟩
  native := ()

theorem aborts_on_bareMachine :
    let library : Engine.Library Unit := ⟨fun _ _ s => (0, s)⟩
    let request : Request Unit Unit := .start ⟨"dev/hostlink/HostlinkActivity", 0⟩ none
    let e : Failure := .hostQuery "package_name" "Java exception was thrown"
    request.delivery? ≠ none ∧ (request.play bareMachine library registeredProcess).result = .error e ∧
      ∃ table b, (request.play bareMachine library registeredProcess).state.adapter = some (table, b) ∧
        b.phase = .poisoned := by
  intro library request e
  have meant : request.delivery? ≠ none := nofun
  have failed : (request.play bareMachine library registeredProcess).result = .error e := by rfl
  obtain ⟨hcases, -, -⟩ := aborts bareMachine library registeredProcess request e meant failed
  refine ⟨meant, failed, hcases.resolve_left ?_⟩
  rintro ⟨-, hsame, -⟩
  cases hsame

end PlatformBridge.Android
