import PlatformBridge.Proofs.Android.Abort

/-!
# How pending exceptions are dealt with

While an exception is pending, nothing may be asked of a virtual machine but to check for it, to
describe it, to clear it, or to end the process. A request to a process begins with none pending.

* `Java.Effect.Lawful` — an operation was made with no exception pending, or it tolerates one;
* `Java.Careful x` — begun with none pending, the work `x` makes lawful operations only, and leaves
  none pending if it succeeds; `Java.Unshaken x` — nor if it fails;
* `Android.unshaken_attempt` — a query that attempts careful work leaves none pending, whatever comes
  of it; so does every query of the Android host (`unshaken_ask`), and every delivery;
* `Android.Careful x`, `careful_play` — the same for work in a process, and for its requests;
* `minds_exceptions` — all of it together.
-/

namespace PlatformBridge

open PlatformBridge.Action
open Java (Machine Object Env Work Operation)

/-! ### Work with the machine -/

namespace Java

def Effect.Lawful (effect : Effect) : Prop :=
  effect.pending = true → effect.operation.toleratesException = true

variable {ν α : Type} {m : Machine ν}

/-- Careful work: begun with no exception pending, it makes lawful operations only and leaves none
pending if it succeeds. -/
def Careful (x : Work ν α) : Prop := Upholds (fun env => env.pending = false) Effect.Lawful x

/-- Work that is careful and, though it may fail, leaves no exception pending. -/
def Unshaken (x : Work ν α) : Prop :=
  Keeps (fun env t => env.pending = false ∧ ∀ effect ∈ t, effect.Lawful) x

theorem Effect.lawful_of_not_pending {effect : Effect} (h : effect.pending = false) :
    effect.Lawful := by
  intro hpending
  rw [h] at hpending
  cases hpending

theorem Effect.lawful_of_tolerates {effect : Effect}
    (h : effect.operation.toleratesException = true) : effect.Lawful := fun _ => h

theorem unshaken_note (operation : Operation) : Unshaken (note operation : Work ν Unit) := by
  intro env t h
  obtain ⟨hpending, hlawful⟩ := h
  have hmade : Effect.Lawful ⟨operation, env.pending⟩ := Effect.lawful_of_not_pending hpending
  exact ⟨hpending, List.forall_mem_append.mpr ⟨hlawful, List.forall_mem_singleton.mpr hmade⟩⟩

theorem unshaken_request (f : ν → α × ν) : Unshaken (request f : Work ν α) := by
  intro env t h
  have hsilent : (request f env).trail = [] := rfl
  rw [hsilent, List.append_nil]
  exact h

theorem unshaken_getVm : Unshaken (getVm m) := by
  refine Keeps.bind (unshaken_note _) fun _ => Keeps.bind (unshaken_request _) fun status => ?_
  split
  · exact keeps_pure ()
  · exact keeps_fail _

/-- What throws fails, so nothing is asked for after it. -/
theorem careful_throw : Careful (throwException : Work ν α) := by
  intro env _
  exact ⟨List.forall_mem_nil _, nofun⟩

theorem inherited_careful : @Inherited ν fun _ => Careful where
  pure _ := .of_still fun _ => ⟨rfl, rfl⟩
  fail _ := .of_still fun _ => ⟨rfl, rfl⟩
  bind := Upholds.bind
  note operation _ := .of_keeps (unshaken_note operation)
  request f := .of_keeps (unshaken_request f)
  throw := careful_throw

theorem settleException_settles (env : Env ν) : (settleException env).state.pending = false ∧
    ∀ effect ∈ (settleException env).trail, effect.Lawful := by
  rcases env with ⟨machine, _ | _⟩
  · refine ⟨rfl, fun effect hmem => ?_⟩
    have hcheck : effect = ⟨.exceptionCheck, false⟩ := by
      simpa [settleException, note, bind_apply] using hmem
    rw [hcheck]
    exact Effect.lawful_of_not_pending rfl
  · refine ⟨rfl, fun effect hmem => ?_⟩
    have htolerated : effect = ⟨.exceptionCheck, true⟩ ∨ effect = ⟨.exceptionDescribe, true⟩ ∨
        effect = ⟨.exceptionClear, true⟩ := by
      simpa [settleException, note, bind_apply] using hmem
    rcases htolerated with rfl | rfl | rfl <;> exact Effect.lawful_of_tolerates rfl

end Java

/-! ### Queries and deliveries -/

def Host.Effect.Lawful : Host.Effect → Prop
  | .java effect => effect.Lawful
  | .logged _ => True

def Effect.Lawful : Effect → Prop
  | .host effect => effect.Lawful
  | _ => True

namespace Android

section

variable {ν α : Type}

/-- The query makes lawful operations only and leaves no exception pending, whatever comes of it. -/
def Unshaken (x : Answering ν α) : Prop :=
  Keeps (fun env t => env.pending = false ∧ ∀ effect ∈ t, effect.Lawful) x

/-- **An attempt at careful work leaves no exception pending**: if the work fails, the exception that
it may have left is cleared. -/
theorem unshaken_attempt {q : Query} {work : Work ν α} (h : Java.Careful work) :
    Unshaken (attempt q work) := by
  intro env t ⟨hpending, hlawful⟩
  obtain ⟨htrail, hstate⟩ := h env hpending
  rcases hw : work env with ⟨e | a, env', t'⟩ <;> rw [hw] at htrail hstate <;>
    simp only [attempt, hw]
  · obtain ⟨hsettled, hdealt⟩ := Java.settleException_settles env'
    refine ⟨hsettled, List.forall_mem_append.mpr ⟨hlawful, ?_⟩⟩
    exact List.forall_mem_append.mpr
      ⟨List.forall_mem_map.mpr htrail, List.forall_mem_map.mpr hdealt⟩
  · refine ⟨hstate a rfl, List.forall_mem_append.mpr ⟨hlawful, ?_⟩⟩
    exact List.forall_mem_map.mpr htrail

theorem inherited_unshaken : @Inherited ν (fun _ => Java.Careful) fun _ => Unshaken where
  work := Java.inherited_careful
  pure := keeps_pure
  fail := keeps_fail
  bind := Keeps.bind
  logged event := by
    intro env t ⟨hpending, hlawful⟩
    exact ⟨hpending, List.forall_mem_append.mpr ⟨hlawful, List.forall_mem_singleton.mpr trivial⟩⟩
  attempt _ := unshaken_attempt

/-- **Every query of the Android host leaves no exception pending**, whatever comes of it. -/
theorem unshaken_ask (m : Machine ν) (activity : Object) (q : Query) :
    Unshaken (ask m activity q) :=
  inherited_unshaken.ask activity q

end

section

variable {ν μ α β : Type} {m : Machine ν} {library : Engine.Library μ}

theorem unshaken_deliver (activity : Object) (engine : Engine μ) (d : Delivery) :
    Keeps (fun s t => s.host.pending = false ∧ ∀ effect ∈ t, effect.Lawful)
      (Bridge.deliver (host m activity) engine d) := by
  refine Bridge.KeptByMoves.deliver ?_ d
  refine Bridge.keptByMoves_of_effects (C := fun env : Env ν => env.pending = false)
    (P := PlatformBridge.Effect.Lawful) (fun q env t h => ?_) (fun call => ?_) fun _ => trivial
  · obtain ⟨hpending, hlawful⟩ := h
    obtain ⟨hsettled, hasked⟩ := unshaken_ask m activity q env [] ⟨hpending, List.forall_mem_nil _⟩
    refine ⟨hsettled, List.forall_mem_append.mpr ⟨hlawful, ?_⟩⟩
    exact List.forall_mem_append.mpr
      ⟨List.forall_mem_map.mpr hasked, List.forall_mem_singleton.mpr trivial⟩
  · exact Bridge.leaves_invoke (fun _ _ _ => trivial) fun _ => trivial

/-! ### Requests -/

/-- The effect, if it is an operation on the machine, was lawful. -/
def Effect.Lawful (effect : Effect) : Prop := ∀ e, effect.java? = some e → e.Lawful

/-- Begun with no exception pending, the work makes lawful operations only and leaves none pending if
it succeeds. -/
def Careful (x : Act ν μ α) : Prop := Upholds (fun p => p.env.pending = false) Effect.Lawful x

theorem careful_of_aside {x : Act ν μ α} (hstate : ∀ p, (x p).state.env = p.env)
    (htrail : ∀ p, ∀ effect ∈ (x p).trail, effect.java? = none) : Careful x := by
  intro p hpending
  constructor
  · intro effect hmem e he
    cases (htrail p effect hmem).symm.trans he
  · intro a _
    rw [hstate]
    exact hpending

theorem careful_of_silent {x : Act ν μ α} (hstate : ∀ p, (x p).state.env = p.env)
    (htrail : ∀ p, (x p).trail = []) : Careful x := by
  refine careful_of_aside hstate fun p => ?_
  rw [htrail]
  exact List.forall_mem_nil _

theorem lawful_map_java {t : List Java.Effect} (h : ∀ effect ∈ t, effect.Lawful) :
    ∀ effect ∈ t.map Effect.java, effect.Lawful := by
  intro effect hmem e he
  obtain ⟨made, hmade, rfl⟩ := List.mem_map.mp hmem
  cases he
  exact h e hmade

theorem careful_onMachine {work : Work ν α} {failure : Java.Error → Failure}
    (h : Java.Careful work) : Careful (onMachine work failure : Act ν μ α) := by
  intro p hpending
  obtain ⟨htrail, hstate⟩ := h p.env hpending
  exact ⟨lawful_map_java htrail, fun a ha => hstate a (onMachine_ok ha)⟩

theorem keeps_onMachine {work : Work ν α} {failure : Java.Error → Failure}
    (h : Java.Unshaken work) : Keeps (fun p t => p.env.pending = false ∧ ∀ effect ∈ t, effect.Lawful)
      (onMachine work failure : Act ν μ α) := by
  intro p t ⟨hpending, hlawful⟩
  obtain ⟨hsettled, hmade⟩ := h p.env [] ⟨hpending, List.forall_mem_nil _⟩
  exact ⟨hsettled, List.forall_mem_append.mpr ⟨hlawful, lawful_map_java hmade⟩⟩

theorem careful_readSettings (document : Option Object) :
    Careful (readSettings m document : Act ν μ Settings) := by
  cases document with
  | none => exact careful_of_silent (fun _ => rfl) fun _ => rfl
  | some document =>
    exact Upholds.bind (careful_onMachine (Java.inherited_careful.readText document)) fun _ =>
      careful_of_silent (fun _ => rfl) fun _ => rfl

theorem careful_setUpLog (filter : String) : Careful (setUpLog filter : Act ν μ Unit) := by
  refine careful_of_silent (fun p => ?_) fun _ => rfl
  unfold setUpLog
  rw [change_apply]
  cases p.verbosity <;> rfl

/-- Releasing the pin is lawful, for asking for the machine throws nothing. -/
theorem careful_publish (activity : Object) : Careful (publish m activity : Act ν μ Unit) := by
  refine Upholds.bind (careful_of_silent (fun _ => rfl) fun _ => rfl) fun published => ?_
  cases published with
  | true => exact careful_of_silent (fun _ => rfl) fun _ => rfl
  | false =>
    have hpin : Careful (onMachine (Java.newGlobalRef m activity)
        (fun e => .hostQuery "activity" e.message) : Act ν μ Unit) :=
      careful_onMachine (Java.inherited_careful.newGlobalRef activity)
    have hvm : Careful (Action.onFailure
        (onMachine (Java.getVm m) fun e => .hostQuery "java_vm" e.message)
        fun failure => onMachine (Java.note (.deleteGlobalRef activity)) fun _ => failure
          : Act ν μ Unit) :=
      .of_keeps (Keeps.onFailure (keeps_onMachine Java.unshaken_getVm) fun _ =>
        keeps_onMachine (Java.unshaken_note _))
    refine Upholds.bind hpin fun _ => Upholds.bind hvm fun _ => Upholds.bind ?_ fun _ => ?_
    · refine careful_of_aside (fun _ => rfl) fun p effect hmem => ?_
      rw [List.mem_singleton.mp hmem]
      rfl
    · exact careful_of_silent (fun _ => rfl) fun _ => rfl

theorem careful_prepare (activity : Object) (settings : Settings) :
    Careful (prepare m activity settings : Act ν μ Unit) := by
  refine Upholds.bind (careful_of_silent (fun _ => rfl) fun _ => rfl) fun adapter => ?_
  cases adapter with
  | some adapter => exact careful_of_silent (fun _ => rfl) fun _ => rfl
  | none =>
    exact Upholds.bind (careful_publish activity) fun _ =>
      Upholds.bind (careful_of_silent (fun _ => rfl) fun _ => rfl) fun _ =>
      Upholds.bind (careful_of_silent (fun _ => rfl) fun _ => rfl) fun _ =>
      careful_of_silent (fun _ => rfl) fun _ => rfl

theorem careful_onAdapter (activity : Object) (absent : Failure) (d : Delivery) :
    Careful (onAdapter library absent fun engine => Bridge.deliver (host m activity) engine d) := by
  intro p hpending
  rcases hp : p.adapter with - | ⟨table, b⟩
  · have h : onAdapter library absent (fun engine => Bridge.deliver (host m activity) engine d) p =
        ⟨.error absent, p, []⟩ := by simp only [onAdapter, hp]
    rw [h]
    refine ⟨List.forall_mem_nil _, fun _ hok => ?_⟩
    cases hok
  · obtain ⟨hsettled, hlawful⟩ := unshaken_deliver activity (Engine.native library table) d
      ⟨b, p.env, p.native⟩ [] ⟨hpending, List.forall_mem_nil _⟩
    simp only [onAdapter, hp]
    refine ⟨fun effect hmem e he => ?_, fun _ _ => hsettled⟩
    obtain ⟨own, hown, rfl⟩ := List.mem_map.mp hmem
    rcases own with _ | _ | _ | ⟨_ | _⟩ | _ <;> cases he
    exact hlawful _ hown

/-- The last words are lawful whatever is pending. -/
theorem careful_orDie {work : Act ν μ Unit} (h : Careful work) : Careful (orDie work) := by
  intro p hpending
  obtain ⟨htrail, hstate⟩ := h p hpending
  rcases hresult : (work p).result with e | ⟨⟩
  · obtain ⟨pending, hdied⟩ := orDie_failed hresult
    rw [hdied]
    refine ⟨List.forall_mem_append.mpr ⟨htrail, fun effect hmem e' he => ?_⟩, nofun⟩
    rcases List.mem_cons.mp hmem with rfl | hmem
    · cases he
    · rw [List.mem_singleton.mp hmem] at he
      cases he
      exact Java.Effect.lawful_of_tolerates rfl
  · have hsame : orDie work p = work p := by
      rcases hw : work p with ⟨r, q, t⟩
      rw [hw] at hresult
      cases hresult
      exact onFailure_ok hw
    rw [hsame]
    exact ⟨htrail, hstate⟩

/-- **Every request for the bridge is careful.** -/
theorem careful_play {request : Request ν μ} (meant : request.delivery? ≠ none) :
    Careful (request.play m library) := by
  cases request with
  | start activity document =>
    exact careful_orDie <| Upholds.bind (careful_readSettings document) fun settings =>
      Upholds.bind (careful_setUpLog _) fun _ => Upholds.bind (careful_prepare activity settings)
        fun _ => careful_onAdapter activity .poisoned .start
  | change activity code =>
    exact careful_orDie (careful_onAdapter activity .notStarted (.configurationChanged _))
  | _ => exact absurd rfl meant

theorem leaves_play_of_not_meant {request : Request ν μ} (h : request.delivery? = none) :
    Leaves (fun effect => effect.java? = none) (request.play m library) := by
  have hmap : ∀ t : List Engine.Effect, ∀ effect ∈ t.map Effect.registration,
      effect.java? = none := by
    intro t effect hmem
    obtain ⟨own, -, rfl⟩ := List.mem_map.mp hmem
    rfl
  cases request with
  | register table => exact fun _ => hmap _
  | registerNative table => exact Leaves.bind (fun _ => hmap _) fun _ => leaves_pure _
  | elsewhere env native => exact .of_silent fun _ => rfl
  | start activity document => cases h
  | change activity code => cases h

end

/-! ### All of it together -/

/-- **Exceptions are minded.** Whatever the virtual machine does: a request to a process that begins
with no exception pending makes every operation with none pending, those apart that tolerate one; and
a query of the Android host that begins with none pending ends with none pending, whatever comes of
it. -/
theorem minds_exceptions {ν μ : Type} (m : Machine ν) (library : Engine.Library μ) :
    (∀ (request : Request ν μ) (p : Process ν μ), p.env.pending = false →
      ∀ effect ∈ (request.play m library p).trail.filterMap Effect.java?,
        effect.pending = true → effect.operation.toleratesException = true) ∧
    ∀ (activity : Object) (q : Query) (env : Env ν), env.pending = false →
      (ask m activity q env).state.pending = false := by
  constructor
  · intro request p hpending effect hmem
    obtain ⟨own, hown, hjava⟩ := List.mem_filterMap.mp hmem
    by_cases hmeant : request.delivery? = none
    · cases (leaves_play_of_not_meant hmeant p own hown).symm.trans hjava
    · exact (careful_play hmeant p hpending).1 own hown effect hjava
  · intro activity q env hpending
    exact (unshaken_ask m activity q env [] ⟨hpending, List.forall_mem_nil _⟩).1

/-- A start whose document cannot be read, in a machine in which nothing is found: the last words are
uttered with the exception pending. -/
theorem minds_exceptions_on_bareMachine :
    let library : Engine.Library Unit := ⟨fun _ _ s => (0, s)⟩
    let activity : Object := ⟨"dev/hostlink/HostlinkActivity", 0⟩
    let request : Request Unit Unit := .start activity (some ⟨Java.stringClass, 1⟩)
    let made := (request.play bareMachine library registeredProcess).trail.filterMap Effect.java?
    registeredProcess.env.pending = false ∧ made.map Java.Effect.pending = [false, true] ∧
      (∀ effect ∈ made, effect.pending = true → effect.operation.toleratesException = true) ∧
      (ask bareMachine activity .packageName registeredProcess.env).state.pending = false := by
  intro library activity request made
  have hbegun : registeredProcess.env.pending = false := rfl
  obtain ⟨hrequests, hqueries⟩ := minds_exceptions bareMachine library
  exact ⟨hbegun, rfl, hrequests request registeredProcess hbegun,
    hqueries activity .packageName registeredProcess.env hbegun⟩

end Android

end PlatformBridge
