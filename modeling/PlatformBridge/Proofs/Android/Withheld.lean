import PlatformBridge.Proofs.Android.Answers

/-!
# What a query does not tell

Much of a query tells no number of a given member, whatever the machine answers. The work that reads
the member tells one only if it succeeds.

* `Mute view m name x` — the work `x` tells no number of the member;
* `Withholds view m name x` — it tells none if it fails; put together by `Mute.withholds`, which is
  first something mute and then something that withholds;
* `withholds_intField` — reading a number withholds it;
* `withholds_sides` — so if the sides of the display cannot be had, the height was not told.
-/

namespace PlatformBridge.Android

open PlatformBridge.Action
open Java (Machine Object Env Operation Lookup Use Value Work)

/-! ### Numbers that are not told -/

section

variable {τ ε ν α β : Type} {view : τ → Option Operation} {m : Machine ν} {name : String}

theorem numberOf?_use_of_eq {u : Use} {given : Option Value} (hu : member u = name)
    (xs : List Exchange) :
    numberOf? name (.use u given :: xs) = numberOf? name [.use u given] := by
  simp only [numberOf?, given?, if_pos hu]

theorem numberOf?_use_of_ne {u : Use} {given : Option Value} (hu : member u ≠ name)
    (xs : List Exchange) : numberOf? name (.use u given :: xs) = numberOf? name xs := by
  simp only [numberOf?, given?, if_neg hu]

theorem numberOf?_concat {xs : List Exchange} {x : Exchange} (hxs : numberOf? name xs = none)
    (hx : numberOf? name [x] = none) : numberOf? name (xs ++ [x]) = none := by
  induction xs with
  | nil => exact hx
  | cons y ys ih =>
    cases y with
    | use u given =>
      by_cases hu : member u = name
      · rw [numberOf?_use_of_eq hu] at hxs
        rw [List.cons_append, numberOf?_use_of_eq hu]
        exact hxs
      · rw [numberOf?_use_of_ne hu] at hxs
        rw [List.cons_append, numberOf?_use_of_ne hu]
        exact ih hxs
    | look lookup found => exact ih hxs
    | characters text given => exact ih hxs
    | getVm status => exact ih hxs

/-- **The action tells no number of the member**, and the machine goes on as it is heard to. -/
def Mute (view : τ → Option Operation) (m : Machine ν) (name : String)
    (x : Action τ ε (Env ν) α) : Prop :=
  ∀ env before, numberOf? name before = none →
    let heard := Hearing.along view m ⟨env.machine, before⟩ (x env).trail
    heard.machine = (x env).state.machine ∧ numberOf? name heard.exchanges = none

/-- **The action tells no number of the member if it fails.** -/
def Withholds (view : τ → Option Operation) (m : Machine ν) (name : String)
    (x : Action τ ε (Env ν) α) : Prop :=
  ∀ env before e, numberOf? name before = none → (x env).result = .error e →
    numberOf? name (Hearing.along view m ⟨env.machine, before⟩ (x env).trail).exchanges = none

theorem mute_of_silent {x : Action τ ε (Env ν) α}
    (h : ∀ env, (x env).state.machine = env.machine ∧ (x env).trail = []) : Mute view m name x := by
  intro env before hbefore
  obtain ⟨hmachine, htrail⟩ := h env
  rw [htrail, hmachine]
  exact ⟨rfl, hbefore⟩

theorem Mute.bind {x : Action τ ε (Env ν) α} {f : α → Action τ ε (Env ν) β}
    (hx : Mute view m name x) (hf : ∀ a, Mute view m name (f a)) : Mute view m name (x >>= f) := by
  intro env before hbefore
  obtain ⟨hmachine, hnone⟩ := hx env before hbefore
  rcases bind_cases x f env with ⟨e, -, hb⟩ | ⟨a, -, hb⟩ <;> rw [hb]
  · exact ⟨hmachine, hnone⟩
  · have hlast := hf a (x env).state _ hnone
    rw [← hmachine] at hlast
    simp only [Hearing.along_append]
    exact hlast

/-- First something that tells nothing, then something that tells nothing if it fails. -/
theorem Mute.withholds {x : Action τ ε (Env ν) α} {f : α → Action τ ε (Env ν) β}
    (hx : Mute view m name x) (hf : ∀ a, Withholds view m name (f a)) :
    Withholds view m name (x >>= f) := by
  intro env before e hbefore he
  obtain ⟨hmachine, hnone⟩ := hx env before hbefore
  rcases bind_cases x f env with ⟨e', -, hb⟩ | ⟨a, -, hb⟩ <;> rw [hb] at he ⊢
  · exact hnone
  · have hlast := hf a (x env).state _ e hnone he
    rw [← hmachine] at hlast
    simp only [Hearing.along_append]
    exact hlast

theorem Withholds.of_first {x : Action τ ε (Env ν) α} {f : α → β} (hx : Withholds view m name x) :
    Withholds view m name (x >>= fun a => pure (f a)) := by
  intro env before e hbefore he
  rcases bind_cases x (fun a => pure (f a)) env with ⟨e', he', hb⟩ | ⟨a, -, hb⟩ <;> rw [hb] at he ⊢
  · exact hx env before e' hbefore he'
  · cases he

end

section

variable {ν α β : Type} {m : Machine ν} {name : String}

abbrev MuteWork (m : Machine ν) (name : String) (x : Work ν α) : Prop :=
  Mute Java.Effect.operation? m name x

theorem mute_look (lookup : Lookup) : MuteWork m name (Java.look m lookup) := by
  intro env before hbefore
  obtain ⟨hheard, -⟩ := along_look m lookup env before
  rw [hheard]
  exact ⟨rfl, numberOf?_concat hbefore rfl⟩

theorem mute_use {u : Use} (hu : member u ≠ name) : MuteWork m name (Java.use m u) := by
  intro env before hbefore
  obtain ⟨hheard, -⟩ := along_use m u env before
  rw [hheard]
  exact ⟨rfl, numberOf?_concat hbefore (numberOf?_use_of_ne hu [])⟩

theorem mute_call {receiver : Option Object} {method signature : String} {argument : Option Value}
    (h : method ≠ name) : MuteWork m name (Java.call m receiver method signature argument) := by
  cases receiver with
  | none => exact mute_of_silent fun _ => ⟨rfl, rfl⟩
  | some o => exact (mute_look _).bind fun _ => mute_use h

theorem mute_field {receiver : Option Object} {field signature : String} (h : field ≠ name) :
    MuteWork m name (Java.field m receiver field signature) := by
  cases receiver with
  | none => exact mute_of_silent fun _ => ⟨rfl, rfl⟩
  | some o => exact (mute_look _).bind fun _ => mute_use h

theorem mute_asObject (value : Value) : MuteWork m name value.asObject := by
  refine mute_of_silent fun env => ?_
  cases value <;> exact ⟨rfl, rfl⟩

theorem mute_asInt (value : Value) : MuteWork m name value.asInt := by
  refine mute_of_silent fun env => ?_
  cases value <;> exact ⟨rfl, rfl⟩

theorem mute_construct {owner signature : String} (h : Java.constructorName ≠ name) :
    MuteWork m name (Java.construct m owner signature) := by
  have huse : MuteWork m name (Java.use m (.construct owner signature)) := mute_use h
  refine (mute_look _).bind fun _ => (mute_look _).bind fun _ => huse.bind fun value =>
    (mute_asObject value).bind fun made => mute_of_silent fun env => ?_
  cases made <;> exact ⟨rfl, rfl⟩

abbrev MuteQuery (m : Machine ν) (name : String) (x : Answering ν α) : Prop :=
  Mute Host.Effect.operation? m name x

theorem mute_attempt {q : Query} {work : Work ν α} (h : MuteWork m name work) :
    MuteQuery m name (attempt q work) := by
  intro env before hbefore
  obtain ⟨hheard, hmachine⟩ := along_attempt (m := m) q work env ⟨env.machine, before⟩
  simp only [hheard, hmachine]
  exact h env before hbefore

theorem mute_callObject {q : Query} {receiver : Option Object} {method signature : String}
    (h : method ≠ name) : MuteQuery m name (callObject m q receiver method signature) :=
  mute_attempt ((mute_call h).bind fun value => mute_asObject value)

theorem mute_intField {q : Query} {receiver : Option Object} {field : String} (h : field ≠ name) :
    MuteQuery m name (intField m q receiver field) :=
  mute_attempt ((mute_field h).bind fun value => mute_asInt value)

theorem withholds_attempt {q : Query} {work : Work ν α}
    (h : Withholds Java.Effect.operation? m name work) :
    Withholds Host.Effect.operation? m name (attempt q work) := by
  intro env before e hbefore he
  have hfailed : ∃ error, (work env).result = .error error := by
    rcases hw : work env with ⟨error | a, env', t⟩
    · exact ⟨error, rfl⟩
    · simp [attempt, hw] at he
  obtain ⟨error, herror⟩ := hfailed
  rw [(along_attempt q work env _).1]
  exact h env before error hbefore herror

theorem numberOf?_use_of_other {u : Use} {given : Option Value} (h : ∀ n, given ≠ some (.int n)) :
    numberOf? name [.use u given] = none := by
  by_cases hu : member u = name
  · simp only [numberOf?, given?, if_pos hu]
  · exact numberOf?_use_of_ne hu []

theorem withholds_use (u : Use) :
    Withholds Java.Effect.operation? m name (Java.use m u >>= fun value => value.asInt) := by
  intro env before e hbefore he
  obtain ⟨hheard, hgiven⟩ := along_use m u env before
  have hnumber : ∀ n, (m.uses u env.machine).1 ≠ some (.int n) := by
    intro n hint
    rw [bind_after_ok _ ((hgiven (.int n)).mpr hint)] at he
    cases he
  -- What becomes of a value asks the machine for nothing.
  have htrail : (((Java.use m u >>= fun value => value.asInt)) env).trail = (Java.use m u env).trail := by
    rcases bind_cases (Java.use m u) (fun value => value.asInt) env with
      ⟨e', -, hb⟩ | ⟨value, -, hb⟩ <;> rw [hb]
    cases value <;> exact List.append_nil _
  rw [htrail, hheard]
  exact numberOf?_concat hbefore (numberOf?_use_of_other hnumber)

/-- **Reading a number tells none if it fails.** -/
theorem withholds_intField (q : Query) (o : Object) :
    Withholds Host.Effect.operation? m name (intField m q (some o) name) := by
  refine withholds_attempt ?_
  rw [Java.field, bind_assoc]
  exact (mute_look _).withholds fun _ => withholds_use _

end

/-- **If the sides cannot be had, the height was not told.** -/
theorem withholds_sides {ν : Type} (m : Machine ν) (activity : Object) :
    Withholds Host.Effect.operation? m "heightPixels" (sides m activity) := by
  have hdisplay : MuteQuery m "heightPixels" (defaultDisplay m activity .realDisplaySize) :=
    (mute_callObject (by decide)).bind fun _ => mute_callObject (by decide)
  exact hdisplay.withholds fun _ => (mute_attempt (mute_construct (by decide))).withholds fun metrics =>
    (mute_attempt (mute_call (by decide))).withholds fun _ =>
    (mute_intField (by decide)).withholds fun _ => (withholds_intField _ metrics).of_first

end PlatformBridge.Android
