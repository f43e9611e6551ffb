import PlatformBridge.Android.Process
import PlatformBridge.Proofs.Android.Inheritance
import PlatformBridge.Proofs.Lifecycle.Delivery

/-!
# What does not end a process

Only the last words end a process. Neither work with the virtual machine nor a query of the Android
host utters them, so no delivery to a bridge does.

* `Java.Harmless x` — the work `x` with the machine does not end the process;
* `Android.harmless_ask` — nor does a query of the Android host;
* `Android.harmless_deliver` — nor does a delivery.
-/

namespace PlatformBridge

open PlatformBridge.Action
open Java (Machine Object Env Work)

/-! ### Work with the machine -/

namespace Java

/-- The work does not end the process. -/
def Harmless {ν α : Type} (x : Work ν α) : Prop := Leaves (fun effect => effect.isFatal = false) x

variable {ν : Type}

/-- An operation is harmless in itself, whether or not an exception is pending. -/
theorem harmless_note {operation : Operation} (h : Effect.isFatal ⟨operation, false⟩ = false) :
    Harmless (note operation : Work ν Unit) := by
  intro env effect hmem
  rw [List.mem_singleton.mp hmem]
  exact h

theorem inherited_harmless : @Inherited ν fun _ => Harmless where
  pure := leaves_pure
  fail := leaves_fail
  bind := Leaves.bind
  note _ := harmless_note
  request _ := .of_silent fun _ => rfl
  throw := .of_silent fun _ => rfl

theorem harmless_settleException : Harmless (settleException : Work ν Unit) := by
  refine .bind (harmless_note rfl) fun _ => .bind (.of_silent fun _ => rfl) fun pending => ?_
  cases pending with
  | true =>
    exact .bind (harmless_note rfl) fun _ => .bind (harmless_note rfl) fun _ =>
      .of_silent fun _ => rfl
  | false => exact leaves_pure ()

end Java

/-! ### Queries -/

def Host.Effect.isFatal : Host.Effect → Bool
  | .java effect => effect.isFatal
  | .logged _ => false

namespace Android

def HarmlessAnswer {ν α : Type} (x : Answering ν α) : Prop :=
  Leaves (fun effect => effect.isFatal = false) x

section

variable {ν α : Type}

theorem harmless_attempt {q : Query} {work : Work ν α} (h : Java.Harmless work) :
    HarmlessAnswer (attempt q work) := by
  intro env
  have hwork := h env
  rcases hw : work env with ⟨e | a, env', t⟩ <;> rw [hw] at hwork <;> simp only [attempt, hw]
  · exact List.forall_mem_append.mpr ⟨List.forall_mem_map.mpr hwork,
      List.forall_mem_map.mpr (Java.harmless_settleException env')⟩
  · exact List.forall_mem_map.mpr hwork

theorem inherited_harmless :
    @Inherited ν (fun _ => Java.Harmless) fun _ => HarmlessAnswer where
  work := Java.inherited_harmless
  pure := leaves_pure
  fail := leaves_fail
  bind := Leaves.bind
  logged event env effect hmem := by
    rw [List.mem_singleton.mp hmem]
    rfl
  attempt _ := harmless_attempt

/-- **No query of the Android host ends the process.** -/
theorem harmless_ask (m : Machine ν) (activity : Object) (q : Query) :
    HarmlessAnswer (ask m activity q) :=
  inherited_harmless.ask activity q

end

end Android

/-! ### Deliveries -/

def Effect.isFatal : Effect → Bool
  | .host effect => effect.isFatal
  | _ => false

namespace Android

variable {ν μ : Type} {m : Machine ν} (activity : Object) (engine : Engine μ)

theorem keptByMoves_harmless : Bridge.KeptByMoves (host m activity) engine fun _ t =>
    ∀ effect ∈ t, effect.isFatal = false := by
  refine Bridge.keptByMoves_of_leaves (fun q => ?_) (fun call => ?_) fun _ => rfl
  · exact Bridge.leaves_query (harmless_ask m activity q) fun _ => rfl
  · exact Bridge.leaves_invoke (fun _ _ _ => rfl) fun _ => rfl

/-- **No delivery from the Android host ends the process.** -/
theorem harmless_deliver (d : Delivery) : Leaves (fun effect => effect.isFatal = false)
    (Bridge.deliver (host m activity) engine d) :=
  leaves_of_keeps ((keptByMoves_harmless activity engine).deliver d)

end Android

end PlatformBridge
