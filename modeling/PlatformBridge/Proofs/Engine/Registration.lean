import PlatformBridge.Engine.Registry
import PlatformBridge.Proofs.Engine.Crossing
import PlatformBridge.Proofs.Lifecycle.Run
import PlatformBridge.Rehearsal.Registration

/-!
# Registration, once

Tables are registered from two sides, engine handles and bridges are made over the registered one,
and both are used for as long as anyone likes, in any order.

* `Deed` — one thing that is done, and `Chronicle` — all that is done in a process from its beginning;
* `Settled first o t` — the slot holds the table that was offered first, and so does every handle and
  every bridge; all that crossed the boundary went through it;
* `settled_play` — every deed keeps that, where a deed that offers a table counts only if none was
  offered before;
* `registers_once` — so what every deed reports is known from the tables that were offered before it.
-/

namespace PlatformBridge.Engine

open PlatformBridge.Action

/-- Something that is done in a process around the slot. Handles and bridges are counted from the
latest one on. -/
inductive Deed where
  | registerNative (table : Option Table)
  | register (table : Table)
  /-- A handle is made over the registered table. -/
  | lookUp
  | call (which : Nat) (call : Call)
  /-- A bridge is made over the registered table. -/
  | adopt (settings : Settings)
  | visit (which : Nat) (visit : Visit)

/-- What a deed reports if it does not fail. -/
inductive Report where
  | done
  | code (code : Registry.Code)
  /-- There is no such handle or bridge. -/
  | absent
  deriving DecidableEq

/-- The slot, the tables of the handles, the bridges with their tables, the latest first, and all
that native code remembers. -/
structure Office (ν : Type) where
  registry : Registry := {}
  handles : List Table := []
  bridges : List (Table × Bridge) := []
  native : ν

section

variable {ν : Type} (library : Library ν)

def Deed.play : Deed → Action PlatformBridge.Effect Failure (Office ν) Report
  | .registerNative table => fun o =>
    let done := Registry.registerNative table o.registry
    ⟨done.result.map .code, { o with registry := done.state }, done.trail.map .engine⟩
  | .register table => fun o =>
    let done := Registry.register table o.registry
    ⟨done.result.map fun _ => .done, { o with registry := done.state }, done.trail.map .engine⟩
  | .lookUp => fun o =>
    match o.registry.registered with
    | .error e => ⟨.error e, o, []⟩
    | .ok table => ⟨.ok .done, { o with handles := table :: o.handles }, []⟩
  | .call which c => fun o =>
    match o.handles[which]? with
    | none => ⟨.ok .absent, o, []⟩
    | some table =>
      let done := (native library table).invoke c o.native
      ⟨done.result.map fun _ => .done, { o with native := done.state }, done.trail⟩
  | .adopt settings => fun o =>
    match o.registry.registered with
    | .error e => ⟨.error e, o, []⟩
    | .ok table => ⟨.ok .done, { o with bridges := (table, { settings }) :: o.bridges }, []⟩
  | .visit which v => fun o =>
    match o.bridges[which]? with
    | none => ⟨.ok .absent, o, []⟩
    | some (table, bridge) =>
      let done := v.play (native library table) (bridge, o.native)
      ⟨done.result.map fun _ => .done,
        { o with bridges := o.bridges.set which (table, done.state.1), native := done.state.2 },
        done.trail⟩

/-- The table that the deed offers for registration, if it offers one. -/
def Deed.offered? : Deed → Option Table
  | .registerNative table => table
  | .register table => some table
  | _ => none

/-- **Everything goes through the table that was offered first.** -/
structure Settled (first : Option Table) (o : Office ν) (t : Trail) : Prop where
  slot : o.registry.slot = first
  handles : ∀ table ∈ o.handles, first = some table
  bridges : ∀ b ∈ o.bridges, first = some b.1
  crossings : ∀ c ∈ t.crossings, first = some c.1

/-! ### One deed -/

theorem crossings_register (table : Table) (r : Registry) :
    Trail.crossings ((Registry.register table r).trail.map .engine) = [] := by
  unfold Registry.register
  split <;> rfl

theorem crossings_registerNative (table : Option Table) (r : Registry) :
    Trail.crossings ((Registry.registerNative table r).trail.map .engine) = [] := by
  cases table with
  | none => rfl
  | some table =>
    obtain ⟨_ | first⟩ := r
    · rfl
    · rfl

theorem slot_register (table : Table) (r : Registry) :
    (Registry.register table r).state.slot = r.slot.or (some table) := by
  obtain ⟨_ | first⟩ := r
  · rfl
  · rfl

theorem slot_registerNative (table : Option Table) (r : Registry) :
    (Registry.registerNative table r).state.slot = r.slot.or table := by
  obtain ⟨_ | first⟩ := r
  · cases table <;> rfl
  · cases table <;> rfl

variable {library} {first : Option Table} {taken : Table} {o : Office ν} {t : Trail}

theorem play_register_of_empty (h : o.registry.slot = none) (table : Table) :
    (Deed.register table).play library o =
      ⟨.ok .done, { o with registry := ⟨some table⟩ }, [.engine (.logged .registered)]⟩ := by
  simp [Deed.play, Registry.register, h, Except.map]

theorem play_register_of_taken (h : o.registry.slot = some taken) (table : Table) :
    (Deed.register table).play library o = ⟨.error .engineAlreadyRegistered, o, []⟩ := by
  simp [Deed.play, Registry.register, h, Except.map]

theorem play_registerNative_of_empty (h : o.registry.slot = none) (table : Table) :
    (Deed.registerNative (some table)).play library o =
      ⟨.ok (.code .accepted), { o with registry := ⟨some table⟩ },
        [.engine (.logged .registered)]⟩ := by
  simp [Deed.play, Registry.registerNative, Registry.register, h, Except.map]

theorem play_registerNative_of_taken (h : o.registry.slot = some taken) (table : Table) :
    (Deed.registerNative (some table)).play library o = ⟨.ok (.code .duplicate), o,
      [.engine (.logged (.registrationRejected .engineAlreadyRegistered))]⟩ := by
  simp [Deed.play, Registry.registerNative, Registry.register, h, Except.map]

/-- If nothing crosses and no table is taken but the offered one, the slot alone is to be looked
at. -/
theorem Settled.of_slot {offered : Option Table} {registry : Registry} {u : Trail}
    (h : Settled first o t) (hslot : registry.slot = o.registry.slot.or offered)
    (hu : u.crossings = []) :
    Settled (first.or offered) { o with registry } (t ++ u) := by
  have hmono : ∀ {table : Table}, first = some table → first.or offered = some table := by
    rintro table rfl
    rfl
  refine ⟨?_, fun table hmem => hmono (h.handles table hmem),
    fun b hmem => hmono (h.bridges b hmem), fun c hmem => ?_⟩
  · rw [← h.slot]
    exact hslot
  · rw [Trail.crossings_append, hu, List.append_nil] at hmem
    exact hmono (h.crossings c hmem)

theorem Settled.append (h : Settled first o t) {table : Table} (htable : first = some table)
    {u : Trail} (hu : Crossed table u) : ∀ c ∈ (t ++ u).crossings, first = some c.1 := by
  intro c hc
  rw [Trail.crossings_append] at hc
  rcases List.mem_append.mp hc with hc | hc
  · exact h.crossings c hc
  · rw [hu.table_of_mem hc]
    exact htable

theorem registered_eq_ok {r : Registry} {table : Table} (h : r.registered = .ok table) :
    r.slot = some table := by
  unfold Registry.registered at h
  split at h
  · cases h
    assumption
  · cases h

/-- **Every deed leaves everything with the table that was offered first.** -/
theorem settled_play (d : Deed) (h : Settled first o t) :
    Settled (first.or d.offered?) (d.play library o).state (t ++ (d.play library o).trail) := by
  cases d with
  | registerNative table =>
    exact h.of_slot (slot_registerNative table o.registry) (crossings_registerNative table o.registry)
  | register table =>
    exact h.of_slot (slot_register table o.registry) (crossings_register table o.registry)
  | lookUp =>
    simp only [Deed.play, Deed.offered?, Option.or_none]
    rcases hr : o.registry.registered with e | table
    · simpa using h
    · have hfirst : first = some table := h.slot.symm.trans (registered_eq_ok hr)
      refine ⟨h.slot, fun table' hmem => ?_, h.bridges, by simpa using h.crossings⟩
      rcases List.mem_cons.mp hmem with rfl | hmem
      · exact hfirst
      · exact h.handles table' hmem
  | call which c =>
    simp only [Deed.play, Deed.offered?, Option.or_none]
    rcases hw : o.handles[which]? with - | table
    · simpa using h
    · have hfirst := h.handles table (List.mem_of_getElem? hw)
      exact ⟨h.slot, h.handles, h.bridges, h.append hfirst (crossed_invoke library table c o.native)⟩
  | adopt settings =>
    simp only [Deed.play, Deed.offered?, Option.or_none]
    rcases hr : o.registry.registered with e | table
    · simpa using h
    · have hfirst : first = some table := h.slot.symm.trans (registered_eq_ok hr)
      refine ⟨h.slot, h.handles, fun b hmem => ?_, by simpa using h.crossings⟩
      rcases List.mem_cons.mp hmem with rfl | hmem
      · exact hfirst
      · exact h.bridges b hmem
  | visit which v =>
    simp only [Deed.play, Deed.offered?, Option.or_none]
    rcases hw : o.bridges[which]? with - | ⟨table, bridge⟩
    · simpa using h
    · have hfirst := h.bridges (table, bridge) (List.mem_of_getElem? hw)
      have hcrossed : Crossed table (v.play (native library table) (bridge, o.native)).trail :=
        crossed_deliver v.host library table v.delivery ⟨bridge, v.state, o.native⟩ .nil
      refine ⟨h.slot, h.handles, fun b hmem => ?_, h.append hfirst hcrossed⟩
      rcases List.mem_or_eq_of_mem_set hmem with hmem | rfl
      · exact h.bridges b hmem
      · exact hfirst

end

/-! ### Chronicles -/

/-- **All that is done in a process**, from its beginning, when the slot is empty. -/
structure Chronicle (ν : Type) where
  library : Library ν
  memory : ν
  deeds : List Deed

namespace Chronicle

variable {ν : Type}

def office (c : Chronicle ν) : Office ν :=
  after (c.deeds.map (·.play c.library)) { native := c.memory }

def trail (c : Chronicle ν) : Trail :=
  history (c.deeds.map (·.play c.library)) { native := c.memory }

def next (c : Chronicle ν) (d : Deed) : Outcome PlatformBridge.Effect Failure (Office ν) Report :=
  d.play c.library c.office

def first? (c : Chronicle ν) : Option Table := c.deeds.findSome? Deed.offered?

theorem first?_eq_none_iff {c : Chronicle ν} :
    c.first? = none ↔ ∀ d ∈ c.deeds, d.offered? = none :=
  List.findSome?_eq_none_iff

/-- **After every chronicle all goes through the table that was offered first.** -/
theorem settled (c : Chronicle ν) : Settled c.first? c.office c.trail := by
  obtain ⟨library, memory, deeds⟩ := c
  -- A deed at a time, at the end: its table counts if none before it was offered.
  induction deeds using List.reverseRecOn with
  | nil => exact ⟨rfl, by simp [office], by simp [office], by simp [trail]⟩
  | append_singleton deeds d ih =>
    have hstep : Settled _ (d.play library _).state _ := settled_play d ih
    simp only [first?, office, trail, List.map_append, after_append, history_append,
      List.findSome?_append] at hstep ⊢
    have hlast : [d].findSome? Deed.offered? = d.offered? := by
      cases h : d.offered? <;> simp [h]
    rw [hlast]
    simpa using hstep

/-- **What registering once means**, for the deed that comes next. -/
structure RegistersOnce (c : Chronicle ν) : Prop where
  /-- Of the tables that are offered, on either side, the first one is taken. -/
  accepted : ∀ table,
    ((c.next (.registerNative (some table))).result = .ok (.code .accepted) ↔
      ∀ d ∈ c.deeds, d.offered? = none) ∧
    ((c.next (.register table)).result = .ok .done ↔ ∀ d ∈ c.deeds, d.offered? = none)
  /-- Any other one is refused, and nothing changes. -/
  refused : ∀ first, c.first? = some first → ∀ table,
    (c.next (.registerNative (some table))).result = .ok (.code .duplicate) ∧
    (c.next (.registerNative (some table))).state = c.office ∧
    (c.next (.register table)).result = .error .engineAlreadyRegistered ∧
    (c.next (.register table)).state = c.office
  /-- Native code that offers nothing is told so, and nothing changes. -/
  null : (c.next (.registerNative none)).result = .ok (.code .nullTable) ∧
    (c.next (.registerNative none)).state = c.office
  /-- A handle is made over the first table, once there is one. -/
  lookUp : match c.first? with
    | none => (c.next .lookUp).result = .error .engineNotRegistered ∧
      (c.next .lookUp).state = c.office
    | some first => (c.next .lookUp).result = .ok .done ∧
      (c.next .lookUp).state = { c.office with handles := first :: c.office.handles }
  /-- So is a bridge. -/
  adopt : ∀ settings, match c.first? with
    | none => (c.next (.adopt settings)).result = .error .engineNotRegistered ∧
      (c.next (.adopt settings)).state = c.office
    | some first => (c.next (.adopt settings)).result = .ok .done ∧
      (c.next (.adopt settings)).state =
        { c.office with bridges := (first, { settings }) :: c.office.bridges }
  /-- Whatever crosses the boundary, out of a handle or a bridge, goes through the first table. -/
  crossings : ∀ crossing ∈ c.trail.crossings, c.first? = some crossing.1

/-- **The first table that is offered is the one for good.** -/
theorem registers_once (c : Chronicle ν) : c.RegistersOnce := by
  have hslot : c.office.registry.slot = c.first? := c.settled.slot
  refine ⟨fun table => ?_, fun first hfirst table => ?_, ⟨rfl, rfl⟩, ?_, fun settings => ?_,
    c.settled.crossings⟩
  · rw [← first?_eq_none_iff]
    cases hfirst : c.first? with
    | none =>
      have hempty := hslot.trans hfirst
      simp [next, play_registerNative_of_empty hempty, play_register_of_empty hempty]
    | some first =>
      have htaken := hslot.trans hfirst
      simp [next, play_registerNative_of_taken htaken, play_register_of_taken htaken]
  · have htaken := hslot.trans hfirst
    rw [next, next, play_registerNative_of_taken htaken, play_register_of_taken htaken]
    exact ⟨rfl, rfl, rfl, rfl⟩
  · cases hfirst : c.first? <;> simp [next, Deed.play, Registry.registered, hslot, hfirst]
  · cases hfirst : c.first? <;> simp [next, Deed.play, Registry.registered, hslot, hfirst]

end Chronicle

/-! ### Rehearsals -/

section

open Rehearsal.Registration (Step Stage playStep)

variable {σ ν : Type} (host : Host σ) (library : Library ν)

/-- The step of a rehearsal as a deed; the host is in the given state by then. -/
def Deed.ofStep (state : σ) : Step → Deed
  | .registerNative table => .registerNative table
  | .register table => .register table
  | .handle => .lookUp
  | .update which orientation => .call which (.orientation orientation)
  | .adapter => .adopt {}
  | .deliver which delivery => .visit which ⟨host, state, delivery⟩

def Office.ofStage (s : Stage σ ν) : Office ν := ⟨s.registry, s.handles, s.adapters, s.native⟩

theorem play_ofStep (s : Stage σ ν) (step : Step) :
    let entry := playStep host library s step
    let done := (Deed.ofStep host s.host step).play library (.ofStage s)
    Office.ofStage entry.stage = done.state ∧ entry.trail = done.trail := by
  cases step with
  | registerNative table => exact ⟨rfl, rfl⟩
  | register table => exact ⟨rfl, rfl⟩
  | handle =>
    simp only [playStep, Deed.ofStep, Deed.play, Office.ofStage]
    cases s.registry.registered <;> exact ⟨rfl, rfl⟩
  | update which orientation =>
    simp only [playStep, Deed.ofStep, Deed.play, Office.ofStage]
    cases s.handles[which]? <;> exact ⟨rfl, rfl⟩
  | adapter =>
    simp only [playStep, Deed.ofStep, Deed.play, Office.ofStage]
    cases s.registry.registered <;> exact ⟨rfl, rfl⟩
  | deliver which delivery =>
    simp only [playStep, Deed.ofStep, Deed.play, Office.ofStage]
    rcases s.adapters[which]? with - | ⟨table, bridge⟩ <;> exact ⟨rfl, rfl⟩

theorem offered?_ofStep (state state' : σ) (step : Step) :
    (Deed.ofStep host state step).offered? = (Deed.ofStep host state' step).offered? := by
  cases step <;> rfl

/-- **Whatever is rehearsed is a chronicle**, deed by deed, in which the same tables are offered. -/
theorem exists_deeds (steps : List Step) (s : Stage σ ν) : ∃ deeds : List Deed,
    deeds.map Deed.offered? = steps.map (fun step => (Deed.ofStep host s.host step).offered?) ∧
      history (deeds.map (·.play library)) (.ofStage s) =
        (Rehearsal.Registration.play host library s steps).flatMap (·.trail) := by
  induction steps generalizing s with
  | nil => exact ⟨[], rfl, rfl⟩
  | cons step steps ih =>
    obtain ⟨hstage, htrail⟩ := play_ofStep host library s step
    obtain ⟨deeds, hoffered, hdeeds⟩ := ih (playStep host library s step).stage
    refine ⟨.ofStep host s.host step :: deeds, ?_, ?_⟩
    · rw [List.map_cons, hoffered, List.map_cons]
      exact congrArg _ (List.map_congr_left fun later _ => offered?_ofStep host _ _ later)
    · rw [List.map_cons, history_cons, ← hstage, hdeeds, ← htrail]
      rfl

end

end PlatformBridge.Engine
