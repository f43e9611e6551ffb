import PlatformBridge.Engine.Native
import PlatformBridge.Proofs.Lifecycle.Ledger

/-!
# What crosses the boundary

A bridge over a native engine: of its calls those cross that can be marshalled, each once, in order
and through the one table, and what native code accepted did cross.

* `Crossed table t` — the crossings of the history are those of its calls;
* `crossed_deliver` — every delivery keeps that;
* `Crossed.ordered` — so native code gets one snapshot at most, before all orientations.
-/

namespace PlatformBridge

namespace Engine

def Call.crossing? (call : Call) : Option NativeCall := call.marshalled.toOption

theorem Call.crossing?_snapshot {snapshot : Snapshot} {raw : NativeCall}
    (h : (Call.snapshot snapshot).crossing? = some raw) : ∃ s, raw = .snapshot s := by
  simp only [Call.crossing?, Call.marshalled] at h
  rcases hm : marshal snapshot with refusal | s <;> rw [hm] at h <;> cases h
  exact ⟨s, rfl⟩

@[simp] theorem Call.crossing?_orientation (orientation : Orientation) :
    (Call.orientation orientation).crossing? = some (.orientation orientation.code) := rfl

/-- A call of a native engine: it does not cross and is rejected, or it crosses and native code
answers with a status. -/
theorem native_cases {μ : Type} (library : Library μ) (table : Table) (call : Call) (memory : μ) :
    let o := (native library table).perform call memory
    (call.crossing? = none ∧ (∃ e, o.result = .error e) ∧ o.trail = []) ∨
      ∃ raw status, call.crossing? = some raw ∧ o.result = checkStatus call status ∧
        o.trail = [.logged call.announcement, .crossed table raw status] := by
  intro o
  rcases h : call.marshalled with refusal | raw
  · have ho : o = _ := perform_of_refused h
    rw [ho]
    exact Or.inl ⟨by rw [Call.crossing?, h]; rfl, ⟨_, rfl⟩, rfl⟩
  · have ho : o = _ := perform_of_marshalled h
    rw [ho]
    exact Or.inr ⟨raw, _, by rw [Call.crossing?, h]; rfl, rfl, rfl⟩

end Engine

open PlatformBridge.Action Engine

/-- What holds of a trail and does not change with what neither calls nor crosses is kept by the moves
of a bridge, if calls keep it. -/
theorem Bridge.keptByMoves_of_calls {σ ε : Type} {host : Host σ} {engine : Engine ε}
    {I : Trail → Prop}
    (quiet : ∀ t u : Trail, u.calls = [] → u.crossings = [] → I t → I (t ++ u))
    (calls : ∀ call memory t, I t → I (t ++ (engine.invoke call memory).trail)) :
    KeptByMoves host engine fun _ t => I t := by
  have hinvoke : ∀ call, Keeps (fun _ t => I t) (onEngine (engine.invoke call) : Act σ ε Unit) :=
    fun call s t h => calls call s.engine t h
  have hchange : ∀ f, Keeps (fun _ t => I t) (change f : Act σ ε Unit) :=
    fun _ _ t h => quiet t [] rfl rfl h
  have hlog : ∀ event, Keeps (fun _ t => I t) (log event : Act σ ε Unit) :=
    fun event _ t h => quiet t [.logged event] rfl rfl h
  refine ⟨fun q s t h => ?_, hlog, fun _ => hchange _, fun _ => hinvoke _, fun orientation => ?_⟩
  · refine quiet t _ ?_ ?_ h <;> simp [onHost, Host.query]
  · exact (keeps_inspect _).bind fun _ => (hinvoke _).bind fun _ => (hchange _).bind fun _ => hlog _

/-- **The crossings of the history are those of its calls**, through the table; and a call that was
accepted crossed. -/
structure Crossed (table : Table) (t : Trail) : Prop where
  calls : t.crossings.map (fun c => (c.1, c.2.1)) =
    t.calls.filterMap fun c => c.1.crossing?.map (table, ·)
  accepted : ∀ c ∈ t.calls, c.2 = .ok () → ∃ raw, c.1.crossing? = some raw

namespace Crossed

variable {σ μ : Type} {table : Table} {t u : Trail}

theorem nil : Crossed table [] := ⟨rfl, by simp⟩

theorem append (h : Crossed table t) (h' : Crossed table u) : Crossed table (t ++ u) := by
  constructor
  · rw [Trail.crossings_append, Trail.calls_append, List.map_append, List.filterMap_append, h.calls,
      h'.calls]
  · intro c hc
    rw [Trail.calls_append] at hc
    rcases List.mem_append.mp hc with hc | hc
    · exact h.accepted c hc
    · exact h'.accepted c hc

/-- What neither calls nor crosses. -/
theorem of_quiet (hcalls : u.calls = []) (hcrossings : u.crossings = []) : Crossed table u := by
  constructor
  · rw [hcalls, hcrossings]
    rfl
  · rw [hcalls]
    simp

end Crossed

section

variable {σ μ : Type} (host : Host σ) (library : Library μ) (table : Table)

theorem crossed_invoke (call : Call) (memory : μ) :
    Crossed table ((native library table).invoke call memory).trail := by
  rcases native_cases library table call memory with ⟨hcross, ⟨e, he⟩, ht⟩ |
    ⟨raw, status, hcross, -, ht⟩
  · constructor
    · simp [Engine.invoke, ht, hcross]
    · simp [Engine.invoke, ht, he]
  · constructor
    · simp [Engine.invoke, ht, hcross]
    · simp [Engine.invoke, ht, hcross]

theorem keptByMoves_crossed :
    Bridge.KeptByMoves host (native library table) fun _ t => Crossed table t := by
  refine Bridge.keptByMoves_of_calls (fun t u hcalls hcrossings h => ?_) fun call memory t h => ?_
  · exact h.append (.of_quiet hcalls hcrossings)
  · exact h.append (crossed_invoke library table call memory)

/-- **Every delivery lets its calls cross**, as far as they can be marshalled. -/
theorem crossed_deliver (d : Delivery) (s : Scene σ μ) {t : Trail} (h : Crossed table t) :
    Crossed table (t ++ (Bridge.deliver host (native library table) d s).trail) :=
  (keptByMoves_crossed host library table).deliver d s t h

end

theorem Crossed.table_of_mem {table : Table} {t : Trail} (h : Crossed table t)
    {c : Table × NativeCall × Int32} (hc : c ∈ t.crossings) : c.1 = table := by
  have hmem := List.mem_map_of_mem (f := fun c => (c.1, c.2.1)) hc
  rw [h.calls] at hmem
  obtain ⟨call, -, hcall⟩ := List.mem_filterMap.mp hmem
  obtain ⟨raw, -, hraw⟩ := Option.map_eq_some_iff.mp hcall
  exact (congrArg Prod.fst hraw).symm

def Engine.NativeCall.isOrientation : NativeCall → Bool
  | .snapshot _ => false
  | .orientation _ => true

/-- What native code gets of the calls behind a bridge: nothing, or a snapshot, and orientations
after it. -/
theorem Crossed.ordered {table : Table} {t : Trail} {phase : Phase} (h : Crossed table t)
    (htold : Bridge.Told phase t.calls) :
    t.crossings = [] ∨ ∃ raw status rest, t.crossings = (table, .snapshot raw, status) :: rest ∧
      ∀ c ∈ rest, c.1 = table ∧ c.2.1.isOrientation := by
  have hcalls := h.calls
  rcases htold.snapshot_first with hc | ⟨snapshot, reply, updates, hc, hreply⟩ <;> rw [hc] at hcalls
  · exact Or.inl (List.map_eq_nil_iff.mp hcalls)
  rw [List.filterMap_cons] at hcalls
  rcases hraw : (Call.snapshot snapshot).crossing? with - | raw <;> rw [hraw] at hcalls
  · -- What was not handed over was rejected, so nothing follows.
    have hnone : reply ≠ .ok () := by
      rintro rfl
      obtain ⟨raw, hsome⟩ := h.accepted (.snapshot snapshot, .ok ()) (by rw [hc]; simp) rfl
      cases hraw.symm.trans hsome
    rw [hreply.resolve_right hnone] at hcalls
    exact Or.inl (List.map_eq_nil_iff.mp hcalls)
  · obtain ⟨raw, rfl⟩ := Call.crossing?_snapshot hraw
    obtain ⟨⟨_, _, status⟩, rest, hcrossings, hhead, hrest⟩ := List.map_eq_cons_iff.mp hcalls
    cases hhead
    refine Or.inr ⟨raw, status, rest, hcrossings, ?_⟩
    intro c hmem
    have hmem := List.mem_map_of_mem (f := fun c => (c.1, c.2.1)) hmem
    rw [hrest, List.filterMap_map, List.mem_filterMap] at hmem
    obtain ⟨⟨orientation, reply⟩, -, heq⟩ := hmem
    simp only [Function.comp_apply, Prod.map_apply, Call.crossing?_orientation, Option.map_some,
      Option.some.injEq, Prod.mk.injEq] at heq
    exact ⟨heq.1.symm, by rw [← heq.2]; rfl⟩

end PlatformBridge
