import PlatformBridge.Android.Host

/-!
# What work and queries inherit

All work with the virtual machine is put together from a few operations, and all queries of the
Android host from such work. What the operations have, and what survives putting them together, the
queries have too.

* `Java.Inherited P` — the property `P` of work survives putting work together, and the operations
  have it, those apart that end the process;
* `Android.Inherited P A` — the property `A` of queries does, and an attempt at work with `P` has it;
* `Android.Inherited.ask` — then every query of the Android host has `A`.
-/

namespace PlatformBridge

open Java (Machine Object Env Work Value)

/-! ### Work with the machine -/

namespace Java

def Effect.isFatal (effect : Effect) : Bool :=
  match effect.operation with
  | .fatalError _ => true
  | _ => false

variable {ν : Type}

/-- **A property that work inherits** from the operations that it is put together from. -/
structure Inherited (P : (α : Type) → Work ν α → Prop) : Prop where
  pure {α : Type} (a : α) : P α (pure a)
  fail {α : Type} (e : Error) : P α (.fail e)
  bind {α β : Type} {x : Work ν α} {f : α → Work ν β} (hx : P α x) (hf : ∀ a, P β (f a)) :
    P β (x >>= f)
  note (operation : Operation) (h : Effect.isFatal ⟨operation, false⟩ = false) :
    P Unit (note operation)
  request {α : Type} (f : ν → α × ν) : P α (request f)
  throw {α : Type} : P α throwException

namespace Inherited

variable {P : (α : Type) → Work ν α → Prop} (h : Inherited P) {m : Machine ν}

include h

theorem look (lookup : Lookup) : P Unit (look m lookup) := by
  refine h.bind (h.note _ rfl) fun _ => h.bind (h.request _) fun found => ?_
  cases found with
  | true => exact h.pure ()
  | false => exact h.throw

theorem use (u : Use) : P Value (use m u) := by
  refine h.bind (h.note _ rfl) fun _ => h.bind (h.request _) fun answer => ?_
  cases answer with
  | some value => exact h.pure value
  | none => exact h.throw

theorem call {receiver : Option Object} {name signature : String} {argument : Option Value} :
    P Value (call m receiver name signature argument) := by
  cases receiver with
  | none => exact h.fail _
  | some o => exact h.bind (h.look _) fun _ => h.use _

theorem field {receiver : Option Object} {name signature : String} :
    P Value (field m receiver name signature) := by
  cases receiver with
  | none => exact h.fail _
  | some o => exact h.bind (h.look _) fun _ => h.use _

theorem ofClass {owner name signature : String} {u : Use} : P Value (do
    Java.look m (.classNamed owner)
    Java.look m (.member owner name signature)
    Java.use m u) :=
  h.bind (h.look _) fun _ => h.bind (h.look _) fun _ => h.use u

theorem asObject (value : Value) : P (Option Object) value.asObject := by
  cases value with
  | object o => exact h.pure o
  | _ => exact h.fail _

theorem asInt (value : Value) : P Int32 value.asInt := by
  cases value with
  | int n => exact h.pure n
  | _ => exact h.fail _

theorem construct {owner signature : String} : P Object (construct m owner signature) := by
  refine h.bind (h.look _) fun _ => h.bind (h.look _) fun _ => h.bind (h.use _) fun value =>
    h.bind (h.asObject value) fun made => ?_
  cases made with
  | some o => exact h.pure o
  | none => exact h.fail _

theorem readText (text : Object) : P String (readText m text) := by
  refine h.bind (h.look _) fun _ => ?_
  split
  · exact h.fail _
  · refine h.bind (h.note _ rfl) fun _ => h.bind (h.request _) fun given => ?_
    cases given with
    | bytes content => exact h.pure _
    | null => exact h.fail _
    | thrown => exact h.throw

theorem getVm : P Unit (getVm m) := by
  refine h.bind (h.note _ rfl) fun _ => h.bind (h.request _) fun status => ?_
  split
  · exact h.pure ()
  · exact h.fail _

theorem newGlobalRef (object : Object) : P Unit (newGlobalRef m object) :=
  h.bind h.getVm fun _ => h.note _ rfl

end Inherited

end Java

/-! ### Queries -/

namespace Android

variable {ν : Type}

/-- **A property that queries inherit** from the work that they attempt. -/
structure Inherited (P : (α : Type) → Work ν α → Prop) (A : (α : Type) → Answering ν α → Prop) :
    Prop where
  work : Java.Inherited P
  pure {α : Type} (a : α) : A α (pure a)
  fail {α : Type} (e : Failure) : A α (.fail e)
  bind {α β : Type} {x : Answering ν α} {f : α → Answering ν β} (hx : A α x) (hf : ∀ a, A β (f a)) :
    A β (x >>= f)
  logged (event : Log.Event) : A Unit (.tell (.logged event))
  attempt {α : Type} (q : Query) {work : Work ν α} (hwork : P α work) : A α (attempt q work)

namespace Inherited

variable {P : (α : Type) → Work ν α → Prop} {A : (α : Type) → Answering ν α → Prop}
  (h : Inherited P A) {m : Machine ν}

include h

theorem callObject {q : Query} {receiver : Option Object} {name signature : String} :
    A (Option Object) (callObject m q receiver name signature) :=
  h.attempt q (h.work.bind h.work.call h.work.asObject)

theorem intField {q : Query} {receiver : Option Object} {name : String} :
    A Int32 (intField m q receiver name) :=
  h.attempt q (h.work.bind h.work.field h.work.asInt)

theorem text {q : Query} {o : Option Object} : A String (text m q o) := by
  cases o with
  | none => exact h.fail _
  | some o => exact h.attempt q (h.work.readText o)

theorem staticText {q : Query} {owner name : String} : A String (staticText m q owner name) :=
  h.bind (h.attempt q (h.work.bind h.work.ofClass h.work.asObject)) fun _ => h.text

theorem defaultDisplay {activity : Object} {q : Query} :
    A (Option Object) (defaultDisplay m activity q) :=
  h.bind h.callObject fun _ => h.callObject

/-- **Every query of the Android host inherits the property.** -/
theorem ask (activity : Object) (q : Query) : A q.Answer (ask m activity q) := by
  cases q with
  | packageName => exact h.bind h.callObject fun _ => h.text
  | deviceIdentity =>
    exact h.bind h.staticText fun _ => h.bind h.staticText fun _ => h.bind h.staticText fun _ =>
      h.pure _
  | osRelease => exact h.staticText
  | locale =>
    exact h.bind (h.attempt _ (h.work.bind h.work.ofClass h.work.asObject)) fun _ =>
      h.bind h.callObject fun _ => h.text
  | realDisplaySize =>
    refine h.bind h.defaultDisplay fun _ => h.bind (h.attempt _ h.work.construct) fun _ =>
      h.bind (h.attempt _ h.work.call) fun _ => h.bind h.intField fun width =>
      h.bind h.intField fun height => ?_
    cases DisplaySize.ofSigned? width height with
    | some size => exact h.pure size
    | none => exact h.fail _
  | cacheDir =>
    refine h.bind h.callObject fun dir => ?_
    cases dir with
    | none => exact h.pure none
    | some dir => exact h.bind h.callObject fun _ => h.bind h.text fun _ => h.pure _
  | nativeLibraryDir =>
    exact h.bind h.callObject fun _ =>
      h.bind (h.attempt _ (h.work.bind h.work.field h.work.asObject)) fun _ => h.text
  | displayRotation =>
    refine h.bind h.defaultDisplay fun _ =>
      h.bind (h.attempt _ (h.work.bind h.work.call h.work.asInt)) fun code => ?_
    cases Rotation.ofSurfaceCode? code with
    | some rotation => exact h.pure rotation
    | none => exact h.fail _
  | axisOrientation =>
    exact h.bind h.callObject fun _ => h.bind h.callObject fun _ => h.bind h.intField fun _ =>
      h.pure _
  | requestImmersive =>
    exact h.bind h.callObject fun _ => h.bind h.callObject fun _ =>
      h.bind (h.attempt _ h.work.call) fun _ => h.logged _

end Inherited

end Android

end PlatformBridge
