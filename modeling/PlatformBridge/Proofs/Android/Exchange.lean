import PlatformBridge.Android.Host
import PlatformBridge.Proofs.Action.History

/-!
# What the virtual machine answers

The operations that were made, and the state that the machine was in, tell what the machine
answered.

* `Exchange` — an operation with its answer;
* `Exchange.isSound` — the answer is one that a working device gives: what is looked up is found,
  and the use of a member gives what that member is for;
* `Hears before x post` — the work `x`, with `before` heard so far, fails only if something unsound
  was heard, and else ends as `post` says; composed step by step (`Hears.bind`).
-/

namespace PlatformBridge

open PlatformBridge.Action
open Java (Machine Object Env Operation Lookup Use Value Characters Work)

def Java.Effect.operation? (effect : Java.Effect) : Option Operation := some effect.operation

namespace Android

/-! ### Exchanges -/

/-- An operation with the machine's answer. -/
inductive Exchange where
  | look (lookup : Lookup) (found : Bool)
  | use (use : Use) (given : Option Value)
  | characters (text : Object) (given : Characters)
  | getVm (status : Int32)
  deriving DecidableEq

/-- The machine as it goes along, and what was heard of it. -/
structure Hearing (ν : Type) where
  machine : ν
  exchanges : List Exchange

/-- What was heard after one more operation; some operations ask for nothing. -/
def Hearing.hear {ν : Type} (m : Machine ν) (h : Hearing ν) : Operation → Hearing ν
  | .look lookup =>
    ⟨(m.finds lookup h.machine).2, h.exchanges ++ [.look lookup (m.finds lookup h.machine).1]⟩
  | .use u => ⟨(m.uses u h.machine).2, h.exchanges ++ [.use u (m.uses u h.machine).1]⟩
  | .characters text =>
    ⟨(m.characters text h.machine).2,
      h.exchanges ++ [.characters text (m.characters text h.machine).1]⟩
  | .getVm => ⟨(m.vmStatus h.machine).2, h.exchanges ++ [.getVm (m.vmStatus h.machine).1]⟩
  | _ => h

/-! ### Sound answers -/

/-- What a member is for. -/
inductive Expectation where
  /-- It gives an object. -/
  | object
  /-- It gives an object or null. -/
  | optional
  /-- It gives a string. -/
  | text
  /-- It gives the code of a rotation. -/
  | rotation
  /-- It gives a number that is not negative. -/
  | length
  /-- It gives a number. -/
  | number
  /-- Nothing hangs on what it gives. -/
  | anything
  deriving DecidableEq

namespace Expectation

@[simp] def admits : Expectation → Value → Bool
  | object, .object (some _) | optional, .object _ | number, .int _ | anything, _ => true
  | text, .object (some o) => o.className = Java.stringClass
  | rotation, .int code => 0 ≤ code ∧ code ≤ 3
  | length, .int n => 0 ≤ n
  | _, _ => false

def wantsObject : Expectation → Bool
  | object | optional | text => true
  | _ => false

def wantsNumber : Expectation → Bool
  | rotation | length | number => true
  | _ => false

end Expectation

/-- The members of the Android host that give a string. -/
def textMembers : List String :=
  ["getPackageName", "MANUFACTURER", "MODEL", "ID", "RELEASE", "toString", "getAbsolutePath",
    "nativeLibraryDir"]

/-- What the members are for that the Android host uses. -/
def expectation (name : String) : Expectation :=
  if name = "getCacheDir" then .optional
  else if name ∈ textMembers then .text
  else if name = "getRotation" then .rotation
  else if name = "widthPixels" ∨ name = "heightPixels" then .length
  else if name = "orientation" then .number
  else if name = "getRealMetrics" ∨ name = "setSystemUiVisibility" then .anything
  else .object

@[simp] def member : Use → String
  | .call _ name _ _ | .callStatic _ name _ | .field _ name _ | .staticField _ name _ => name
  | .construct .. => Java.constructorName

/-- **The answer is one that a working device gives.** -/
@[simp] def Exchange.isSound : Exchange → Bool
  | look _ found => found
  | use u given => given.any (expectation (member u)).admits
  | characters _ (.bytes _) => true
  | characters _ _ => false
  | getVm status => status = 0

/-- Something unsound was heard. -/
def Spoiled (xs : List Exchange) : Prop := ∃ x ∈ xs, x.isSound = false

instance (xs : List Exchange) : Decidable (Spoiled xs) :=
  inferInstanceAs (Decidable (∃ x ∈ xs, x.isSound = false))

@[simp] theorem spoiled_append {xs ys : List Exchange} :
    Spoiled (xs ++ ys) ↔ Spoiled xs ∨ Spoiled ys := by
  simp [Spoiled, or_and_right, exists_or]

@[simp] theorem spoiled_cons {x : Exchange} {xs : List Exchange} :
    Spoiled (x :: xs) ↔ x.isSound = false ∨ Spoiled xs := by
  simp [Spoiled]

@[simp] theorem not_spoiled_nil : ¬ Spoiled [] := by simp [Spoiled]

theorem unsound_of_wantsObject {u : Use} {value : Value}
    (h : (expectation (member u)).wantsObject = true) (hvalue : ∀ r, value ≠ .object r) :
    (Exchange.use u (some value)).isSound = false := by
  unfold Exchange.isSound Expectation.wantsObject at *
  cases value with
  | object r => exact absurd rfl (hvalue r)
  | void => split at h <;> simp_all
  | int n => split at h <;> simp_all

theorem unsound_of_wantsNumber {u : Use} {value : Value}
    (h : (expectation (member u)).wantsNumber = true) (hvalue : ∀ n, value ≠ .int n) :
    (Exchange.use u (some value)).isSound = false := by
  unfold Exchange.isSound Expectation.wantsNumber at *
  cases value with
  | int n => exact absurd rfl (hvalue n)
  | void => split at h <;> simp_all
  | object r => split at h <;> simp_all

theorem unsound_of_text {u : Use} {r : Option Object} (h : expectation (member u) = .text)
    (hr : ∀ o, r = some o → o.className ≠ Java.stringClass) :
    (Exchange.use u (some (.object r))).isSound = false := by
  have hadmits : (Exchange.use u (some (.object r))).isSound =
      (expectation (member u)).admits (.object r) := rfl
  rw [hadmits, h]
  cases r with
  | none => rfl
  | some o => simpa using hr o rfl

/-! ### Hearing at work -/

section

variable {ν τ ε α β : Type} {view : τ → Option Operation} {blames : ε → Prop} {m : Machine ν}
  {before : List Exchange}

/-- What is heard on a trail, with some exchanges heard before. -/
def Hearing.along (view : τ → Option Operation) (m : Machine ν) (h : Hearing ν) (t : List τ) :
    Hearing ν :=
  (t.filterMap view).foldl (hear m) h

theorem Hearing.along_append (h : Hearing ν) (t u : List τ) :
    h.along view m (t ++ u) = (h.along view m t).along view m u := by
  simp [along]

/-- **What work hears**, from wherever the machine is and with some exchanges heard before: its
operations account for the machine's state; if it succeeds then as `post` says of the exchanges and
the result, and it fails only after something unsound, with an error that blames right. -/
def Hears (view : τ → Option Operation) (blames : ε → Prop) (m : Machine ν) (before : List Exchange)
    (x : Action τ ε (Env ν) α) (post : List Exchange → α → Prop) : Prop :=
  ∀ env, (Hearing.along view m ⟨env.machine, before⟩ (x env).trail).machine = (x env).state.machine ∧
    match (x env).result with
    | .ok a => post (Hearing.along view m ⟨env.machine, before⟩ (x env).trail).exchanges a
    | .error e =>
      Spoiled (Hearing.along view m ⟨env.machine, before⟩ (x env).trail).exchanges ∧ blames e

theorem hears_pure {a : α} {post : List Exchange → α → Prop} (h : post before a) :
    Hears view blames m before (pure a) post :=
  fun _ => ⟨rfl, h⟩

theorem hears_fail {e : ε} {post : List Exchange → α → Prop} (h : Spoiled before) (he : blames e) :
    Hears view blames m before (fail e) post :=
  fun _ => ⟨rfl, h, he⟩

theorem hears_tell {t : τ} {post : List Exchange → Unit → Prop} (ht : view t = none)
    (h : post before ()) : Hears view blames m before (tell t) post := by
  intro env
  simpa [Hearing.along, ht] using h

theorem Hears.bind {x : Action τ ε (Env ν) α} {f : α → Action τ ε (Env ν) β}
    {post : List Exchange → β → Prop}
    (h : Hears view blames m before x fun xs a => Hears view blames m xs (f a) post) :
    Hears view blames m before (x >>= f) post := by
  intro env
  obtain ⟨hmachine, hresult⟩ := h env
  rcases bind_cases x f env with ⟨e, he, hb⟩ | ⟨a, ha, hb⟩
  · rw [he] at hresult
    rw [hb]
    exact ⟨hmachine, hresult⟩
  · rw [ha] at hresult
    -- What was heard says where the machine is, so the rest goes on from there.
    have hrest := hresult (x env).state
    rw [← hmachine] at hrest
    rw [hb]
    simp only [Hearing.along_append]
    exact hrest

end

/-! ### Work with the machine -/

section

variable {ν α : Type} {m : Machine ν} {before : List Exchange}

abbrev WorkHears (m : Machine ν) (before : List Exchange) (x : Work ν α)
    (post : List Exchange → α → Prop) : Prop :=
  Hears Java.Effect.operation? (fun _ => True) m before x post

theorem along_look (m : Machine ν) (lookup : Lookup) (env : Env ν) (before : List Exchange) :
    let found := (m.finds lookup env.machine).1
    Hearing.along Java.Effect.operation? m ⟨env.machine, before⟩ (Java.look m lookup env).trail =
        ⟨(Java.look m lookup env).state.machine, before ++ [.look lookup found]⟩ ∧
      ((Java.look m lookup env).result = .ok () ↔ found = true) := by
  rcases hf : m.finds lookup env.machine with ⟨_ | _, machine⟩ <;>
    simp [Java.look, Java.note, Java.request, Java.throwException, bind_apply, hf, Hearing.along,
      Java.Effect.operation?, Hearing.hear]

theorem along_use (m : Machine ν) (u : Use) (env : Env ν) (before : List Exchange) :
    let given := (m.uses u env.machine).1
    Hearing.along Java.Effect.operation? m ⟨env.machine, before⟩ (Java.use m u env).trail =
        ⟨(Java.use m u env).state.machine, before ++ [.use u given]⟩ ∧
      ∀ value, (Java.use m u env).result = .ok value ↔ given = some value := by
  rcases hf : m.uses u env.machine with ⟨_ | _, machine⟩ <;>
    simp [Java.use, Java.note, Java.request, Java.throwException, bind_apply, hf, Hearing.along,
      Java.Effect.operation?, Hearing.hear]

theorem hears_look {lookup : Lookup} {post : List Exchange → Unit → Prop}
    (h : post (before ++ [.look lookup true]) ()) : WorkHears m before (Java.look m lookup) post := by
  intro env
  obtain ⟨hheard, hfound⟩ := along_look m lookup env before
  rw [hheard]
  refine ⟨rfl, ?_⟩
  cases hresult : (Java.look m lookup env).result with
  | ok a =>
    rw [hfound.mp hresult]
    exact h
  | error e =>
    have hmissing : (m.finds lookup env.machine).1 = false := by
      rw [hresult] at hfound
      exact Bool.eq_false_iff.mpr fun htrue => nomatch hfound.mpr htrue
    exact ⟨by simp [hmissing], trivial⟩

theorem hears_use {u : Use} {post : List Exchange → Value → Prop}
    (h : ∀ value, post (before ++ [.use u (some value)]) value) :
    WorkHears m before (Java.use m u) post := by
  intro env
  obtain ⟨hheard, hgiven⟩ := along_use m u env before
  rw [hheard]
  refine ⟨rfl, ?_⟩
  cases hresult : (Java.use m u env).result with
  | ok value =>
    rw [(hgiven value).mp hresult]
    exact h value
  | error e =>
    have hthrown : (m.uses u env.machine).1 = none := by
      rw [hresult] at hgiven
      exact Option.eq_none_iff_forall_ne_some.mpr fun value hvalue => nomatch (hgiven value).mpr hvalue
    exact ⟨by simp [hthrown], trivial⟩

theorem hears_call {receiver : Option Object} {name signature : String} {argument : Option Value}
    {post : List Exchange → Value → Prop} (hnull : receiver = none → Spoiled before)
    (h : ∀ o value, receiver = some o → post (before ++ [.look (.member o.className name signature)
      true, .use (.call o name signature argument) (some value)]) value) :
    WorkHears m before (Java.call m receiver name signature argument) post := by
  cases receiver with
  | none => exact hears_fail (hnull rfl) trivial
  | some o =>
    refine .bind (hears_look (hears_use fun value => ?_))
    simpa using h o value rfl

theorem hears_field {receiver : Option Object} {name signature : String}
    {post : List Exchange → Value → Prop} (hnull : receiver = none → Spoiled before)
    (h : ∀ o value, receiver = some o → post (before ++ [.look (.member o.className name signature)
      true, .use (.field o name signature) (some value)]) value) :
    WorkHears m before (Java.field m receiver name signature) post := by
  cases receiver with
  | none => exact hears_fail (hnull rfl) trivial
  | some o =>
    refine .bind (hears_look (hears_use fun value => ?_))
    simpa using h o value rfl

/-- Members of classes are all used in one way: the class is looked up, then the member. -/
theorem hears_ofClass {owner name signature : String} {u : Use} {post : List Exchange → Value → Prop}
    (h : ∀ value, post (before ++ [.look (.classNamed owner) true,
      .look (.member owner name signature) true, .use u (some value)]) value) :
    WorkHears m before (do
      Java.look m (.classNamed owner)
      Java.look m (.member owner name signature)
      Java.use m u) post := by
  refine .bind (hears_look (.bind (hears_look (hears_use fun value => ?_))))
  simpa using h value

theorem hears_asObject {u : Use} {value : Value} {post : List Exchange → Option Object → Prop}
    (hu : .use u (some value) ∈ before) (hwants : (expectation (member u)).wantsObject = true)
    (h : ∀ r, value = .object r → post before r) : WorkHears m before value.asObject post := by
  have hother : (∀ r, value ≠ .object r) → Spoiled before :=
    fun hvalue => ⟨_, hu, unsound_of_wantsObject hwants hvalue⟩
  cases value with
  | object r => exact hears_pure (h r rfl)
  | void => exact hears_fail (hother nofun) trivial
  | int n => exact hears_fail (hother nofun) trivial

theorem hears_asInt {u : Use} {value : Value} {post : List Exchange → Int32 → Prop}
    (hu : .use u (some value) ∈ before) (hwants : (expectation (member u)).wantsNumber = true)
    (h : ∀ n, value = .int n → post before n) : WorkHears m before value.asInt post := by
  have hother : (∀ n, value ≠ .int n) → Spoiled before :=
    fun hvalue => ⟨_, hu, unsound_of_wantsNumber hwants hvalue⟩
  cases value with
  | int n => exact hears_pure (h n rfl)
  | void => exact hears_fail (hother nofun) trivial
  | object r => exact hears_fail (hother nofun) trivial

theorem hears_construct {owner signature : String} {post : List Exchange → Object → Prop}
    (h : ∀ o, post (before ++ [.look (.classNamed owner) true,
      .look (.member owner Java.constructorName signature) true,
      .use (.construct owner signature) (some (.object (some o)))]) o) :
    WorkHears m before (Java.construct m owner signature) post := by
  refine .bind (hears_look (.bind (hears_look (.bind (hears_use fun value => .bind ?_)))))
  refine hears_asObject (List.mem_append_right _ List.mem_cons_self) rfl ?_
  rintro (_ | o) rfl
  · -- A constructor is to give an object, so null is unsound.
    exact hears_fail ⟨.use (.construct owner signature) (some (.object none)), by simp, rfl⟩ trivial
  · exact hears_pure (by simpa using h o)

theorem hears_readText {text : Object} {post : List Exchange → String → Prop}
    (hclass : text.className ≠ Java.stringClass → Spoiled before)
    (h : ∀ content, text.className = Java.stringClass →
      post (before ++ [.look (.classNamed Java.stringClass) true,
        .characters text (.bytes content)]) (Text.ofMachineBytes content)) :
    WorkHears m before (Java.readText m text) post := by
  refine .bind (hears_look ?_)
  by_cases hc : text.className = Java.stringClass
  · rw [if_neg (not_not_intro hc)]
    intro env
    rcases hm : m.characters text env.machine with ⟨content | _ | _, machine⟩
    · simpa [Java.note, Java.request, bind_apply, hm, Hearing.along,
        Java.Effect.operation?, Hearing.hear] using h content hc
    · simp [Java.note, Java.request, bind_apply, hm, Hearing.along,
        Java.Effect.operation?, Hearing.hear]
    · simp [Java.note, Java.request, Java.throwException, bind_apply, hm, Hearing.along,
        Java.Effect.operation?, Hearing.hear]
  · rw [if_pos hc]
    exact hears_fail (by simp [hclass hc]) trivial

end

end Android

end PlatformBridge
