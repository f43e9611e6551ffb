import PlatformBridge.Action

/-!
# Actions and their history

The *history* of a state is the trail of all that was done on the way to it.

* `Keeps I x` — the action `x` keeps the relation `I` between the state and its history, whatever
  comes of `x`; it is closed under everything that actions are built with (`Keeps.bind`, …);
* `Attains P x` — if `x` succeeds, then in a state with `P`; `FailsOnly E x` — if it fails, then with a
  failure that has `E`; `Leaves P x` — what it leaves in the trail has `P`;
* `Upholds C P x` — begun under the condition `C`, what `x` leaves has `P`, and if it succeeds `C` holds
  again;
* `after xs s`, `history xs s` — the state and the trail after actions played one after the other,
  each whatever came of those before;
* `keeps_after` — what each of the actions keeps, all of them together keep.
-/

namespace PlatformBridge.Action

variable {τ τ' ε σ ρ α β : Type}

/-! ### What came of an action and a next one -/

/-- An action and a next one: either the first fails and nothing more is done, or it succeeds and
the next one goes on from there. -/
theorem bind_cases (x : Action τ ε σ α) (f : α → Action τ ε σ β) (s : σ) :
    (∃ e, (x s).result = .error e ∧ (x >>= f) s = ⟨.error e, (x s).state, (x s).trail⟩) ∨
      ∃ a, (x s).result = .ok a ∧
        (x >>= f) s = ⟨(f a (x s).state).result, (f a (x s).state).state,
          (x s).trail ++ (f a (x s).state).trail⟩ := by
  rcases hx : x s with ⟨r, s', t⟩
  cases r with
  | error e => exact Or.inl ⟨e, rfl, bind_error hx⟩
  | ok a => exact Or.inr ⟨a, rfl, bind_ok hx⟩

theorem inspect_bind (g : σ → α) (f : α → Action τ ε σ β) (s : σ) :
    (inspect g >>= f) s = f (g s) s := rfl

theorem bind_after_ok {x : Action τ ε σ α} (f : α → Action τ ε σ β) {s : σ} {a : α}
    (h : (x s).result = .ok a) :
    (x >>= f) s = ⟨(f a (x s).state).result, (f a (x s).state).state,
      (x s).trail ++ (f a (x s).state).trail⟩ := by
  rcases bind_cases x f s with ⟨e, he, -⟩ | ⟨b, hb, hbind⟩
  · cases he.symm.trans h
  · cases hb.symm.trans h
    exact hbind

theorem bind_after_error {x : Action τ ε σ α} (f : α → Action τ ε σ β) {s : σ} {e : ε}
    (h : (x s).result = .error e) : (x >>= f) s = ⟨.error e, (x s).state, (x s).trail⟩ := by
  rcases bind_cases x f s with ⟨e', he, hbind⟩ | ⟨b, hb, -⟩
  · cases he.symm.trans h
    exact hbind
  · cases hb.symm.trans h

/-- The next action only adds to the trail. -/
theorem prefix_bind (x : Action τ ε σ α) (f : α → Action τ ε σ β) (s : σ) :
    (x s).trail <+: ((x >>= f) s).trail := by
  rcases bind_cases x f s with ⟨e, -, hb⟩ | ⟨a, -, hb⟩
  · exact ⟨[], by rw [hb, List.append_nil]⟩
  · exact ⟨_, by rw [hb]⟩

theorem bind_of_ok {x : Action τ ε σ α} {f : α → Action τ ε σ β} {s : σ} {b : β}
    (h : ((x >>= f) s).result = .ok b) :
    ∃ a, (x s).result = .ok a ∧
      (x >>= f) s = ⟨(f a (x s).state).result, (f a (x s).state).state,
        (x s).trail ++ (f a (x s).state).trail⟩ := by
  refine (bind_cases x f s).resolve_left ?_
  rintro ⟨e, -, hb⟩
  rw [hb] at h
  cases h

theorem bind_result_ok {x : Action τ ε σ α} {f : α → Action τ ε σ β} {s : σ} {b : β}
    (h : ((x >>= f) s).result = .ok b) :
    ∃ a, (x s).result = .ok a ∧ (f a (x s).state).result = .ok b := by
  obtain ⟨a, ha, hb⟩ := bind_of_ok h
  rw [hb] at h
  exact ⟨a, ha, h⟩

theorem bind_result_error {x : Action τ ε σ α} {f : α → Action τ ε σ β} {s : σ} {e : ε}
    (h : ((x >>= f) s).result = .error e) : (x s).result = .error e ∨
      ∃ a, (x s).result = .ok a ∧ (f a (x s).state).result = .error e := by
  rcases bind_cases x f s with ⟨e', he, hb⟩ | ⟨a, ha, hb⟩ <;> rw [hb] at h
  · cases h
    exact Or.inl he
  · exact Or.inr ⟨a, ha, h⟩

theorem bind_congr_ok {x : Action τ ε σ α} {f g : α → Action τ ε σ β} {s : σ}
    (h : ∀ a, f a (x s).state = g a (x s).state) : (x >>= f) s = (x >>= g) s := by
  rcases hx : x s with ⟨e | a, s', t⟩
  · rw [bind_error hx, bind_error hx]
  · rw [hx] at h
    rw [bind_ok hx, bind_ok hx, h a]

/-- An action with a handler: either it succeeds and the handler is not run, or the handler runs
and the failure is passed on. -/
theorem onFailure_cases (x : Action τ ε σ α) (handle : ε → Action τ ε σ Unit) (s : σ) :
    (∃ a, (x s).result = .ok a ∧ x.onFailure handle s = ⟨.ok a, (x s).state, (x s).trail⟩) ∨
      ∃ e, (x s).result = .error e ∧
        x.onFailure handle s = ⟨.error e, (handle e (x s).state).state,
          (x s).trail ++ (handle e (x s).state).trail⟩ := by
  rcases hx : x s with ⟨r, s', t⟩
  cases r with
  | error e => exact Or.inr ⟨e, rfl, onFailure_error hx⟩
  | ok a => exact Or.inl ⟨a, rfl, onFailure_ok hx⟩

theorem result_onFailure (x : Action τ ε σ α) (handle : ε → Action τ ε σ Unit) (s : σ) :
    (x.onFailure handle s).result = (x s).result := by
  rcases onFailure_cases x handle s with ⟨a, ha, hb⟩ | ⟨e, he, hb⟩ <;> rw [hb]
  · exact ha.symm
  · exact he.symm

/-! ### Relations between a state and its history -/

/-- **The action keeps a relation between the state and its history**, also when it fails. -/
def Keeps (I : σ → List τ → Prop) (x : Action τ ε σ α) : Prop :=
  ∀ s t, I s t → I (x s).state (t ++ (x s).trail)

section Keeps

variable {I : σ → List τ → Prop}

/-- What leaves no trail and no other state keeps every relation. -/
theorem Keeps.of_still {x : Action τ ε σ α} (h : ∀ s, (x s).state = s ∧ (x s).trail = []) :
    Keeps I x := by
  intro s t hI
  rw [(h s).1, (h s).2, List.append_nil]
  exact hI

theorem keeps_pure (a : α) : Keeps I (pure a : Action τ ε σ α) :=
  .of_still fun _ => ⟨rfl, rfl⟩

theorem keeps_fail (e : ε) : Keeps I (fail e : Action τ ε σ α) :=
  .of_still fun _ => ⟨rfl, rfl⟩

theorem keeps_inspect (f : σ → α) : Keeps I (inspect f : Action τ ε σ α) :=
  .of_still fun _ => ⟨rfl, rfl⟩

theorem keeps_lift (r : Except ε α) : Keeps I (lift r : Action τ ε σ α) :=
  .of_still fun _ => ⟨rfl, rfl⟩

theorem Keeps.bind {x : Action τ ε σ α} {f : α → Action τ ε σ β} (hx : Keeps I x)
    (hf : ∀ a, Keeps I (f a)) : Keeps I (x >>= f) := by
  intro s t hI
  have h := hx s t hI
  rcases bind_cases x f s with ⟨e, -, hb⟩ | ⟨a, -, hb⟩
  · rw [hb]
    exact h
  · rw [hb, ← List.append_assoc]
    exact hf a _ _ h

theorem Keeps.onFailure {x : Action τ ε σ α} {handle : ε → Action τ ε σ Unit} (hx : Keeps I x)
    (hh : ∀ e, Keeps I (handle e)) : Keeps I (x.onFailure handle) := by
  intro s t hI
  have h := hx s t hI
  rcases onFailure_cases x handle s with ⟨a, -, hb⟩ | ⟨e, -, hb⟩
  · rw [hb]
    exact h
  · rw [hb, ← List.append_assoc]
    exact hh e _ _ h

end Keeps

/-! ### What holds after success -/

/-- If the action succeeds, then in a state with the property. -/
def Attains (P : σ → Prop) (x : Action τ ε σ α) : Prop :=
  ∀ s a, (x s).result = .ok a → P (x s).state

theorem Attains.of_last {P : σ → Prop} {x : Action τ ε σ α} {f : α → Action τ ε σ β}
    (hf : ∀ a, Attains P (f a)) : Attains P (x >>= f) := by
  intro s b hb
  rcases bind_cases x f s with ⟨e, -, h⟩ | ⟨a, -, h⟩
  · rw [h] at hb
    cases hb
  · rw [h] at hb ⊢
    exact hf a _ b hb

/-- What the first attains stays if the next one does not touch it. -/
theorem Attains.of_first {P : σ → Prop} {x : Action τ ε σ α} {f : α → Action τ ε σ β}
    (hx : Attains P x) (hf : ∀ a s, P s → P (f a s).state) : Attains P (x >>= f) := by
  intro s b hb
  rcases bind_cases x f s with ⟨e, -, h⟩ | ⟨a, ha, h⟩
  · rw [h] at hb
    cases hb
  · rw [h]
    exact hf a _ (hx s a ha)

/-! ### How actions fail -/

/-- If the action fails, then with a failure that has the property. -/
def FailsOnly (E : ε → Prop) (x : Action τ ε σ α) : Prop :=
  ∀ s e, (x s).result = .error e → E e

section FailsOnly

variable {E : ε → Prop}

theorem FailsOnly.of_ok {x : Action τ ε σ α} (h : ∀ s, ∃ a, (x s).result = .ok a) :
    FailsOnly E x := by
  intro s e he
  obtain ⟨a, ha⟩ := h s
  cases ha.symm.trans he

theorem failsOnly_pure (a : α) : FailsOnly E (pure a : Action τ ε σ α) := .of_ok fun _ => ⟨a, rfl⟩

theorem FailsOnly.bind {x : Action τ ε σ α} {f : α → Action τ ε σ β} (hx : FailsOnly E x)
    (hf : ∀ a, FailsOnly E (f a)) : FailsOnly E (x >>= f) := by
  intro s e he
  rcases bind_cases x f s with ⟨e', hx', hb⟩ | ⟨a, -, hb⟩ <;> rw [hb] at he
  · cases he
    exact hx s e hx'
  · exact hf a _ e he

end FailsOnly

/-! ### What actions leave -/

/-- Whatever the action leaves has the property. -/
def Leaves (P : τ → Prop) (x : Action τ ε σ α) : Prop :=
  ∀ s, ∀ effect ∈ (x s).trail, P effect

section Leaves

variable {P : τ → Prop}

theorem Leaves.of_silent {x : Action τ ε σ α} (h : ∀ s, (x s).trail = []) : Leaves P x := by
  intro s effect hmem
  rw [h s] at hmem
  cases hmem

theorem leaves_pure (a : α) : Leaves P (pure a : Action τ ε σ α) := .of_silent fun _ => rfl

theorem leaves_fail (e : ε) : Leaves P (fail e : Action τ ε σ α) := .of_silent fun _ => rfl

theorem Leaves.bind {x : Action τ ε σ α} {f : α → Action τ ε σ β} (hx : Leaves P x)
    (hf : ∀ a, Leaves P (f a)) : Leaves P (x >>= f) := by
  intro s effect hmem
  rcases bind_cases x f s with ⟨e, -, hb⟩ | ⟨a, -, hb⟩ <;> rw [hb] at hmem
  · exact hx s effect hmem
  · rcases List.mem_append.mp hmem with hmem | hmem
    · exact hx s effect hmem
    · exact hf a _ effect hmem

theorem Leaves.keeps {x : Action τ ε σ α} (h : Leaves P x) :
    Keeps (fun _ t => ∀ effect ∈ t, P effect) x := by
  intro s t ht effect hmem
  rcases List.mem_append.mp hmem with hmem | hmem
  · exact ht effect hmem
  · exact h s effect hmem

theorem leaves_of_keeps {x : Action τ ε σ α} (h : Keeps (fun _ t => ∀ effect ∈ t, P effect) x) :
    Leaves P x :=
  fun s => h s [] (List.forall_mem_nil P)

end Leaves

/-! ### Conditions under which actions begin -/

/-- **Begun under the condition, the action leaves only effects with the property**; if it succeeds, it
ends under the condition again. -/
def Upholds (C : σ → Prop) (P : τ → Prop) (x : Action τ ε σ α) : Prop :=
  ∀ s, C s → (∀ effect ∈ (x s).trail, P effect) ∧ ∀ a, (x s).result = .ok a → C (x s).state

section Upholds

variable {C : σ → Prop} {P : τ → Prop}

/-- What leaves no trail and no other state upholds every condition. -/
theorem Upholds.of_still {x : Action τ ε σ α} (h : ∀ s, (x s).state = s ∧ (x s).trail = []) :
    Upholds C P x := by
  intro s hs
  rw [(h s).1, (h s).2]
  exact ⟨List.forall_mem_nil P, fun _ _ => hs⟩

theorem Upholds.bind {x : Action τ ε σ α} {f : α → Action τ ε σ β} (hx : Upholds C P x)
    (hf : ∀ a, Upholds C P (f a)) : Upholds C P (x >>= f) := by
  intro s hs
  obtain ⟨htrail, hstate⟩ := hx s hs
  rcases bind_cases x f s with ⟨e, -, hb⟩ | ⟨a, ha, hb⟩ <;> rw [hb]
  · exact ⟨htrail, nofun⟩
  · obtain ⟨htrail', hstate'⟩ := hf a _ (hstate a ha)
    exact ⟨List.forall_mem_append.mpr ⟨htrail, htrail'⟩, hstate'⟩

/-- Keeping the condition whatever comes of it is more than upholding it. -/
theorem Upholds.of_keeps {x : Action τ ε σ α}
    (h : Keeps (fun s t => C s ∧ ∀ effect ∈ t, P effect) x) : Upholds C P x := by
  intro s hs
  obtain ⟨hstate, htrail⟩ := h s [] ⟨hs, List.forall_mem_nil P⟩
  exact ⟨htrail, fun _ _ => hstate⟩

end Upholds

/-! ### Actions one after the other -/

/-- The state after actions played one after the other, each whatever came of those before. -/
def after : List (Action τ ε σ α) → σ → σ
  | [], s => s
  | x :: xs, s => after xs (x s).state

/-- **The trail of actions played one after the other.** -/
def history : List (Action τ ε σ α) → σ → List τ
  | [], _ => []
  | x :: xs, s => (x s).trail ++ history xs (x s).state

@[simp] theorem after_nil (s : σ) : after ([] : List (Action τ ε σ α)) s = s := rfl

@[simp] theorem after_cons (x : Action τ ε σ α) (xs : List (Action τ ε σ α)) (s : σ) :
    after (x :: xs) s = after xs (x s).state := rfl

@[simp] theorem history_nil (s : σ) : history ([] : List (Action τ ε σ α)) s = [] := rfl

@[simp] theorem history_cons (x : Action τ ε σ α) (xs : List (Action τ ε σ α)) (s : σ) :
    history (x :: xs) s = (x s).trail ++ history xs (x s).state := rfl

@[simp] theorem after_append (xs ys : List (Action τ ε σ α)) (s : σ) :
    after (xs ++ ys) s = after ys (after xs s) := by
  induction xs generalizing s with
  | nil => rfl
  | cons x xs ih => exact ih _

@[simp] theorem history_append (xs ys : List (Action τ ε σ α)) (s : σ) :
    history (xs ++ ys) s = history xs s ++ history ys (after xs s) := by
  induction xs generalizing s with
  | nil => rfl
  | cons x xs ih =>
    simp only [List.cons_append, history_cons, after_cons, List.append_assoc]
    rw [ih]

/-- **What every action keeps, all of them keep.** -/
theorem keeps_after {I : σ → List τ → Prop} {xs : List (Action τ ε σ α)}
    (h : ∀ x ∈ xs, Keeps I x) {s : σ} {t : List τ} (hI : I s t) :
    I (after xs s) (t ++ history xs s) := by
  induction xs generalizing s t with
  | nil => simpa using hI
  | cons x xs ih =>
    have hx := h x List.mem_cons_self s t hI
    have := ih (fun y hy => h y (List.mem_cons_of_mem _ hy)) hx
    rwa [List.append_assoc] at this

theorem mem_history {xs : List (Action τ ε σ α)} {s : σ} {effect : τ} :
    effect ∈ history xs s ↔ ∃ before x later, xs = before ++ x :: later ∧
      effect ∈ (x (after before s)).trail := by
  constructor
  · intro h
    induction xs generalizing s with
    | nil => cases h
    | cons x xs ih =>
      rcases List.mem_append.mp h with h | h
      · exact ⟨[], x, xs, rfl, h⟩
      · obtain ⟨before, y, later, rfl, hy⟩ := ih h
        exact ⟨x :: before, y, later, rfl, hy⟩
  · rintro ⟨before, x, later, rfl, hx⟩
    rw [history_append, history_cons]
    exact List.mem_append_right _ (List.mem_append_left _ hx)

/-- A property of states that every action leaves in place holds after all of them. -/
theorem stays_after {P : σ → Prop} {xs : List (Action τ ε σ α)}
    (h : ∀ x ∈ xs, ∀ s, P s → P (x s).state) {s : σ} (hs : P s) : P (after xs s) :=
  keeps_after (I := fun s _ => P s) (t := []) (fun x hx s _ hP => h x hx s hP) hs

end PlatformBridge.Action
