/-!
Actions: computations that read and change a state, leave a trail of effects and may fail. A
failure ends the action but undoes nothing: the state and the trail are kept as they were when it
happened.
-/

namespace PlatformBridge

/-- What came of an action: its result, the state after it, and the effects it had, in order. -/
structure Outcome (τ ε σ α : Type) where
  result : Except ε α
  state : σ
  trail : List τ

/-- An action with effects `τ` and failures `ε` on a state `σ`. -/
def Action (τ ε σ α : Type) : Type := σ → Outcome τ ε σ α

namespace Action

variable {τ τ' ε σ ρ α β : Type}

protected def pure (a : α) : Action τ ε σ α := fun s => ⟨.ok a, s, []⟩

/-- One action and, if it succeeds, the next. -/
protected def bind (x : Action τ ε σ α) (f : α → Action τ ε σ β) : Action τ ε σ β := fun s =>
  match x s with
  | ⟨.error e, s', t⟩ => ⟨.error e, s', t⟩
  | ⟨.ok a, s', t⟩ =>
    let o := f a s'
    ⟨o.result, o.state, t ++ o.trail⟩

instance : Monad (Action τ ε σ) where
  pure := Action.pure
  bind := Action.bind

def fail (e : ε) : Action τ ε σ α := fun s => ⟨.error e, s, []⟩

def tell (t : τ) : Action τ ε σ Unit := fun s => ⟨.ok (), s, [t]⟩

def inspect (f : σ → α) : Action τ ε σ α := fun s => ⟨.ok (f s), s, []⟩

def change (f : σ → σ) : Action τ ε σ Unit := fun s => ⟨.ok (), f s, []⟩

/-- A result that needs neither state nor effects. -/
def lift (r : Except ε α) : Action τ ε σ α := fun s => ⟨r, s, []⟩

/-- An action on a part of the state. -/
def zoom (get : σ → ρ) (set : ρ → σ → σ) (x : Action τ ε ρ α) : Action τ ε σ α := fun s =>
  let o := x (get s)
  ⟨o.result, set o.state s, o.trail⟩

def mapTrail (f : τ → τ') (x : Action τ ε σ α) : Action τ' ε σ α := fun s =>
  let o := x s
  ⟨o.result, o.state, o.trail.map f⟩

/-- On failure does something more before the failure is passed on. -/
def onFailure (x : Action τ ε σ α) (handle : ε → Action τ ε σ Unit) : Action τ ε σ α := fun s =>
  match x s with
  | ⟨.ok a, s', t⟩ => ⟨.ok a, s', t⟩
  | ⟨.error e, s', t⟩ => ⟨.error e, (handle e s').state, t ++ (handle e s').trail⟩

/-! ### What actions do -/

@[simp] theorem pure_apply (a : α) (s : σ) :
    (pure a : Action τ ε σ α) s = ⟨.ok a, s, []⟩ := rfl

theorem bind_apply (x : Action τ ε σ α) (f : α → Action τ ε σ β) (s : σ) :
    (x >>= f) s = match x s with
      | ⟨.error e, s', t⟩ => ⟨.error e, s', t⟩
      | ⟨.ok a, s', t⟩ => ⟨(f a s').result, (f a s').state, t ++ (f a s').trail⟩ := rfl

theorem bind_ok {x : Action τ ε σ α} {f : α → Action τ ε σ β} {s s' : σ} {a : α} {t : List τ}
    (h : x s = ⟨.ok a, s', t⟩) :
    (x >>= f) s = ⟨(f a s').result, (f a s').state, t ++ (f a s').trail⟩ := by
  rw [bind_apply, h]

theorem bind_error {x : Action τ ε σ α} {f : α → Action τ ε σ β} {s s' : σ} {e : ε} {t : List τ}
    (h : x s = ⟨.error e, s', t⟩) : (x >>= f) s = ⟨.error e, s', t⟩ := by
  rw [bind_apply, h]

@[simp] theorem fail_apply (e : ε) (s : σ) : (fail e : Action τ ε σ α) s = ⟨.error e, s, []⟩ := rfl

@[simp] theorem tell_apply (t : τ) (s : σ) : (tell t : Action τ ε σ Unit) s = ⟨.ok (), s, [t]⟩ := rfl

@[simp] theorem inspect_apply (f : σ → α) (s : σ) :
    (inspect f : Action τ ε σ α) s = ⟨.ok (f s), s, []⟩ := rfl

@[simp] theorem change_apply (f : σ → σ) (s : σ) :
    (change f : Action τ ε σ Unit) s = ⟨.ok (), f s, []⟩ := rfl

@[simp] theorem lift_apply (r : Except ε α) (s : σ) :
    (lift r : Action τ ε σ α) s = ⟨r, s, []⟩ := rfl

@[simp] theorem zoom_apply (get : σ → ρ) (set : ρ → σ → σ) (x : Action τ ε ρ α) (s : σ) :
    x.zoom get set s = ⟨(x (get s)).result, set (x (get s)).state s, (x (get s)).trail⟩ := rfl

theorem onFailure_ok {x : Action τ ε σ α} {handle : ε → Action τ ε σ Unit} {s s' : σ} {a : α}
    {t : List τ} (h : x s = ⟨.ok a, s', t⟩) : x.onFailure handle s = ⟨.ok a, s', t⟩ := by
  rw [onFailure, h]

theorem onFailure_error {x : Action τ ε σ α} {handle : ε → Action τ ε σ Unit} {s s' : σ} {e : ε}
    {t : List τ} (h : x s = ⟨.error e, s', t⟩) :
    x.onFailure handle s = ⟨.error e, (handle e s').state, t ++ (handle e s').trail⟩ := by
  rw [onFailure, h]

private theorem id_map_action (x : Action τ ε σ α) : id <$> x = x := by
  funext s
  change Action.bind x Action.pure s = x s
  unfold Action.bind Action.pure
  rcases x s with ⟨_ | _, s', t⟩ <;> simp

private theorem bind_assoc_action {γ : Type} (x : Action τ ε σ α) (f : α → Action τ ε σ β)
    (g : β → Action τ ε σ γ) : x >>= f >>= g = x >>= fun a => f a >>= g := by
  funext s
  change Action.bind (Action.bind x f) g s = Action.bind x (fun a => Action.bind (f a) g) s
  unfold Action.bind
  rcases x s with ⟨_ | a, s', t⟩
  · rfl
  · simp only
    rcases f a s' with ⟨_ | b, s'', t'⟩ <;> simp [List.append_assoc]

instance : LawfulMonad (Action τ ε σ) :=
  LawfulMonad.mk' _ id_map_action (fun _ _ => rfl) bind_assoc_action

end Action

end PlatformBridge
