import PlatformBridge.Action
import PlatformBridge.Java.Operation
import PlatformBridge.Text.ModifiedUtf8

/-!
Work with a Java virtual machine. The machine may answer each request in any way: a lookup may
throw, the use of a member may throw or give any value, and the characters of a string may not be
had. A request that throws leaves an exception pending, which stays until it is cleared; every
operation is kept in the trail with whether one was pending.
-/

namespace PlatformBridge.Java

/-- What a machine gives for the characters of a string. -/
inductive Characters where
  | bytes (content : List UInt8)
  | null
  | thrown
  deriving DecidableEq, Repr, Inhabited

/-- A virtual machine with states of type `ν`. A use that throws gives nothing. -/
structure Machine (ν : Type) where
  finds : Lookup → ν → Bool × ν
  uses : Use → ν → Option Value × ν
  characters : Object → ν → Characters × ν
  vmStatus : ν → Int32 × ν

/-- The machine's state and whether an exception is pending. -/
structure Env (ν : Type) where
  machine : ν
  pending : Bool := false

/-- Why a request came to nothing. -/
inductive Error where
  | exception
  | nullPointer (context : String)
  | callFailed
  | wrongType (wanted found : String)
  deriving DecidableEq, Repr, Inhabited

def Error.message : Error → String
  | exception => "Java exception was thrown"
  | nullPointer context => "Null pointer in " ++ context
  | callFailed => "JNI call failed"
  | wrongType wanted found => s!"Invalid JValue type cast: {wanted}. Actual type: {found}"

abbrev Work (ν α : Type) : Type := Action Effect Error (Env ν) α

section

variable {ν : Type}

/-- Keeps an operation in the trail. -/
def note (operation : Operation) : Work ν Unit := fun env =>
  ⟨.ok (), env, [⟨operation, env.pending⟩]⟩

/-- The work fails with an exception, which is pending from then on. -/
def throwException {α : Type} : Work ν α := fun env =>
  ⟨.error .exception, { env with pending := true }, []⟩

def request {α : Type} (f : ν → α × ν) : Work ν α := fun env =>
  let (answer, machine) := f env.machine
  ⟨.ok answer, { env with machine }, []⟩

variable (m : Machine ν)

def look (lookup : Lookup) : Work ν Unit := do
  note (.look lookup)
  let found ← request (m.finds lookup)
  if found then pure () else throwException

def use (u : Use) : Work ν Value := do
  note (.use u)
  let answer ← request (m.uses u)
  match answer with
  | some value => pure value
  | none => throwException

def call (receiver : Option Object) (name signature : String) (argument : Option Value) :
    Work ν Value :=
  match receiver with
  | none => .fail (.nullPointer "call_method obj argument")
  | some o => do
    look m (.member o.className name signature)
    use m (.call o name signature argument)

def field (receiver : Option Object) (name signature : String) : Work ν Value :=
  match receiver with
  | none => .fail (.nullPointer "get_object_class")
  | some o => do
    look m (.member o.className name signature)
    use m (.field o name signature)

def callStatic (owner name signature : String) : Work ν Value := do
  look m (.classNamed owner)
  look m (.member owner name signature)
  use m (.callStatic owner name signature)

def staticField (owner name signature : String) : Work ν Value := do
  look m (.classNamed owner)
  look m (.member owner name signature)
  use m (.staticField owner name signature)

/-- The object that a value is; it may be null. -/
def Value.asObject : Value → Work ν (Option Object)
  | .object o => pure o
  | value => .fail (.wrongType "object" value.kind)

def Value.asInt : Value → Work ν Int32
  | .int n => pure n
  | value => .fail (.wrongType "int" value.kind)

def construct (owner signature : String) : Work ν Object := do
  look m (.classNamed owner)
  look m (.member owner constructorName signature)
  let value ← use m (.construct owner signature)
  match ← value.asObject with
  | some o => pure o
  | none => .fail (.nullPointer "NewObjectA result")

/-- Reads a string. The class of strings is looked up first, and an object of another class is
refused. -/
def readText (text : Object) : Work ν String := do
  look m (.classNamed stringClass)
  if text.className ≠ stringClass then .fail .callFailed
  else do
    note (.characters text)
    match ← request (m.characters text) with
    | .bytes content => pure (Text.ofMachineBytes content)
    | .null => .fail (.nullPointer "GetStringUTFChars result")
    | .thrown => throwException

/-- Asks for the machine itself. -/
def getVm : Work ν Unit := do
  note .getVm
  let status ← request m.vmStatus
  if status = 0 then pure () else .fail .callFailed

/-- Pins an object. The machine itself is asked for first, so that the pin can be released. -/
def newGlobalRef (object : Object) : Work ν Unit := do
  getVm m
  note (.newGlobalRef object)

end

/-- Describes and clears the pending exception, if there is one. -/
def settleException {ν : Type} : Work ν Unit := do
  note .exceptionCheck
  let pending ← .inspect Env.pending
  if pending then
    note .exceptionDescribe
    note .exceptionClear
    .change fun env => { env with pending := false }
  else pure ()

end PlatformBridge.Java
