import PlatformBridge.Android.Host
import PlatformBridge.Engine.Registry
import PlatformBridge.Lifecycle.Bridge
import PlatformBridge.Log.Verbosity
import PlatformBridge.Settings.Load

/-!
The bridge in an Android process. Native code registers its engine; the activity starts the bridge
and reports changes of its configuration. The process has three slots, filled once each: the
registered table, the pinned activity, and the bridge. Whatever fails ends the process.
-/

namespace PlatformBridge.Android

open Java (Machine Object Env)

/-- What a process remembers: `ν` is the state of the virtual machine, `μ` that of native code. -/
structure Process (ν μ : Type) where
  registry : Engine.Registry := {}
  /-- Whether the machine and the pinned activity were published. -/
  published : Bool := false
  /-- The bridge, and the table that its engine goes through. -/
  adapter : Option (Engine.Table × Bridge) := none
  /-- How much is logged, once logging was set up. -/
  verbosity : Option Log.Verbosity := none
  env : Env ν
  native : μ

/-- What happens in a process. -/
inductive Effect where
  | bridge (effect : PlatformBridge.Effect)
  | java (effect : Java.Effect)
  | registration (effect : Engine.Effect)
  | published
  | logged (event : Log.Event)

namespace Effect

/-- The event, if the effect is one, whoever logged it. -/
def event? : Effect → Option Log.Event
  | bridge e => e.event?
  | registration (.logged event) | logged event => some event
  | _ => none

def java? : Effect → Option Java.Effect
  | bridge (.host (.java e)) | java e => some e
  | _ => none

def crossing? : Effect → Option (Engine.Table × Engine.NativeCall × Int32)
  | bridge e => e.crossing?
  | _ => none

end Effect

abbrev Act (ν μ α : Type) : Type := Action Effect Failure (Process ν μ) α

section

variable {ν μ α : Type}

def log (event : Log.Event) : Act ν μ Unit := .tell (.logged event)

/-- Work with the virtual machine, whose error becomes a failure. -/
def onMachine (work : Java.Work ν α) (failure : Java.Error → Failure) : Act ν μ α := fun p =>
  let o := work p.env
  ⟨o.result.mapError failure, { p with env := o.state }, o.trail.map .java⟩

/-- Work of the bridge with its engine; without one the given failure. -/
def onAdapter (library : Engine.Library μ) (absent : Failure)
    (work : Engine μ → Bridge.Act (Env ν) μ α) : Act ν μ α := fun p =>
  match p.adapter with
  | none => ⟨.error absent, p, []⟩
  | some (table, bridge) =>
    let o := work (Engine.native library table) ⟨bridge, p.env, p.native⟩
    ⟨o.result,
      { p with
        adapter := some (table, o.state.bridge)
        env := o.state.host
        native := o.state.engine },
      o.trail.map .bridge⟩

def register (table : Engine.Table) : Act ν μ Unit :=
  ((Engine.Registry.register table).mapTrail .registration).zoom Process.registry
    fun registry p => { p with registry }

/-- Sets logging up to a level, which is `info` where the text names none. Only the first time
counts. -/
def setUpLog (filter : String) : Act ν μ Unit :=
  .change fun p =>
    match p.verbosity with
    | some _ => p
    | none => { p with verbosity := some ((Log.Verbosity.ofName? filter).getD .info) }

variable (m : Machine ν) (library : Engine.Library μ)

/-- The settings in the text that the activity passed; without one the defaults. -/
def readSettings : Option Object → Act ν μ Settings
  | none => pure {}
  | some document => do
    let text ← onMachine (Java.readText m document)
      fun e => .settings (.unreadable e.message)
    .lift (Settings.ofText text)

/-- Pins the activity and publishes it with the machine, the first time. -/
def publish (activity : Object) : Act ν μ Unit := do
  let published ← .inspect Process.published
  if published then pure ()
  else do
    onMachine (Java.newGlobalRef m activity) fun e => .hostQuery "activity" e.message
    Action.onFailure (onMachine (Java.getVm m) fun e => .hostQuery "java_vm" e.message)
      fun failure => onMachine (Java.note (.deleteGlobalRef activity)) fun _ => failure
    .tell .published
    .change fun p => { p with published := true }

/-- Makes the bridge, the first time, over the registered engine. -/
def prepare (activity : Object) (settings : Settings) : Act ν μ Unit := do
  let adapter ← .inspect Process.adapter
  match adapter with
  | some _ => pure ()
  | none => do
    publish m activity
    let registered ← .inspect fun p => p.registry.registered
    let table ← .lift registered
    .change fun p => { p with adapter := some (table, { settings }) }

def start (activity : Object) (document : Option Object) : Act ν μ Unit := do
  let settings ← readSettings m document
  setUpLog settings.logFilter
  prepare m activity settings
  onAdapter library .poisoned fun engine => Bridge.onStart (host m activity) engine

def configurationChanged (activity : Object) (code : Int32) : Act ν μ Unit :=
  onAdapter library .notStarted fun engine =>
    Bridge.onConfigurationChanged (host m activity) engine (Axis.ofConfigurationCode code)

def lastWords (failure : Failure) : String := "hostlink: " ++ failure.message

/-- Whatever fails ends the process. -/
def orDie (work : Act ν μ Unit) : Act ν μ Unit :=
  work.onFailure fun failure => do
    log (.aborting failure)
    onMachine (Java.note (.fatalError (lastWords failure))) fun _ => failure

/-- **The activity starts**, with a document of settings or none. -/
def onStart (activity : Object) (document : Option Object) : Act ν μ Unit :=
  orDie (start m library activity document)

/-- **The activity's configuration changes.** -/
def onConfigurationChanged (activity : Object) (code : Int32) : Act ν μ Unit :=
  orDie (configurationChanged m library activity code)

end

end PlatformBridge.Android
