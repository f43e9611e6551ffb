import PlatformBridge.Lifecycle.Effect

/-!
# Views of a trail, piece by piece

A trail grows by what a host or an engine did of its own, by a query or a call with its reply, and
by what the bridge logged. Each view of a trail is computed piece by piece; what a view does not
show leaves it as it is.
-/

namespace PlatformBridge

def Effect.reply? : Effect → Option (Σ q : Query, Except Failure q.Answer)
  | asked query reply => some ⟨query, reply⟩
  | _ => none

namespace Trail

def replies (t : Trail) : List (Σ q : Query, Except Failure q.Answer) := t.filterMap Effect.reply?

/-- A view that shows nothing of what is left out shows the rest as it is. -/
theorem filterMap_filter {τ α : Type} {keeps : τ → Bool} {view : τ → Option α}
    (h : ∀ effect, keeps effect = false → view effect = none) (t : List τ) :
    (t.filter keeps).filterMap view = t.filterMap view := by
  rw [List.filterMap_filter]
  refine congrArg (List.filterMap · t) (funext fun effect => ?_)
  cases hkeeps : keeps effect with
  | true => rfl
  | false => exact (h effect hkeeps).symm

/-! ### Queries -/

@[simp] theorem queries_nil : queries [] = [] := rfl

@[simp] theorem queries_append (t u : Trail) : queries (t ++ u) = queries t ++ queries u :=
  List.filterMap_append

@[simp] theorem queries_asked (q : Query) (reply : Except Failure q.Answer) (t : Trail) :
    queries (.asked q reply :: t) = q :: queries t := rfl

@[simp] theorem queries_called (call : Engine.Call) (reply : Except Failure Unit) (t : Trail) :
    queries (.called call reply :: t) = queries t := rfl

@[simp] theorem queries_logged (event : Log.Event) (t : Trail) :
    queries (.logged event :: t) = queries t := rfl

/-! ### Replies -/

@[simp] theorem replies_nil : replies [] = [] := rfl

@[simp] theorem replies_append (t u : Trail) : replies (t ++ u) = replies t ++ replies u :=
  List.filterMap_append

@[simp] theorem replies_asked (q : Query) (reply : Except Failure q.Answer) (t : Trail) :
    replies (.asked q reply :: t) = ⟨q, reply⟩ :: replies t := rfl

@[simp] theorem replies_logged (event : Log.Event) (t : Trail) :
    replies (.logged event :: t) = replies t := rfl

@[simp] theorem replies_map_host (t : List Host.Effect) : replies (t.map .host) = [] := by
  simp [replies, List.filterMap_map, Function.comp_def, Effect.reply?]

theorem mem_replies {t : Trail} {q : Query} {reply : Except Failure q.Answer} :
    ⟨q, reply⟩ ∈ replies t ↔ .asked q reply ∈ t := by
  simp only [replies, List.mem_filterMap]
  constructor
  · rintro ⟨effect, hmem, heffect⟩
    cases effect <;> cases heffect
    exact hmem
  · exact fun h => ⟨_, h, rfl⟩

/-! ### Calls -/

@[simp] theorem calls_nil : calls [] = [] := rfl

@[simp] theorem calls_append (t u : Trail) : calls (t ++ u) = calls t ++ calls u :=
  List.filterMap_append

@[simp] theorem calls_asked (q : Query) (reply : Except Failure q.Answer) (t : Trail) :
    calls (.asked q reply :: t) = calls t := rfl

@[simp] theorem calls_called (call : Engine.Call) (reply : Except Failure Unit) (t : Trail) :
    calls (.called call reply :: t) = (call, reply) :: calls t := rfl

@[simp] theorem calls_logged (event : Log.Event) (t : Trail) :
    calls (.logged event :: t) = calls t := rfl

@[simp] theorem calls_engine (effect : Engine.Effect) (t : Trail) :
    calls (.engine effect :: t) = calls t := rfl

@[simp] theorem calls_map_host (t : List Host.Effect) : calls (t.map .host) = [] := by
  simp [calls, List.filterMap_map, Function.comp_def, Effect.call?]

@[simp] theorem calls_map_engine (t : List Engine.Effect) : calls (t.map .engine) = [] := by
  simp [calls, List.filterMap_map, Function.comp_def, Effect.call?]

theorem mem_calls {t : Trail} {call : Engine.Call} {reply : Except Failure Unit} :
    (call, reply) ∈ calls t ↔ .called call reply ∈ t := by
  simp only [calls, List.mem_filterMap]
  constructor
  · rintro ⟨effect, hmem, heffect⟩
    cases effect <;> cases heffect
    exact hmem
  · exact fun h => ⟨_, h, rfl⟩

/-! ### Crossings -/

@[simp] theorem crossings_nil : crossings [] = [] := rfl

@[simp] theorem crossings_append (t u : Trail) : crossings (t ++ u) = crossings t ++ crossings u :=
  List.filterMap_append

@[simp] theorem crossings_asked (q : Query) (reply : Except Failure q.Answer) (t : Trail) :
    crossings (.asked q reply :: t) = crossings t := rfl

@[simp] theorem crossings_called (call : Engine.Call) (reply : Except Failure Unit) (t : Trail) :
    crossings (.called call reply :: t) = crossings t := rfl

@[simp] theorem crossings_logged (event : Log.Event) (t : Trail) :
    crossings (.logged event :: t) = crossings t := rfl

@[simp] theorem crossings_engine_logged (event : Log.Event) (t : Trail) :
    crossings (.engine (.logged event) :: t) = crossings t := rfl

@[simp] theorem crossings_engine_crossed (table : Engine.Table) (call : Engine.NativeCall)
    (status : Int32) (t : Trail) :
    crossings (.engine (.crossed table call status) :: t) = (table, call, status) :: crossings t :=
  rfl

@[simp] theorem crossings_map_host (t : List Host.Effect) : crossings (t.map .host) = [] := by
  simp [crossings, List.filterMap_map, Function.comp_def, Effect.crossing?]

end Trail

end PlatformBridge
