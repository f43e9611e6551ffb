import PlatformBridge.Host.Basic
import PlatformBridge.Java.Machine

/-!
The Android host: it answers queries through the activity that runs in a Java virtual machine. A
query that comes to nothing in the machine fails with the machine's reason, after the exception
that is pending then was cleared.
-/

namespace PlatformBridge.Android

open Java (Machine Object Work Env)

def hostName : String := "Android"

/-- The flags for a full screen without controls that come back on a swipe: stable layout, layout
under the navigation and in full screen, navigation hidden, full screen, sticky. -/
def immersiveFlags : Int32 := 0x100 ||| 0x200 ||| 0x400 ||| 0x2 ||| 0x4 ||| 0x1000

abbrev Answering (ν α : Type) : Type := Action Host.Effect Failure (Env ν) α

section

variable {ν α : Type}

/-- Work with the machine on behalf of a query. -/
def attempt (q : Query) (work : Work ν α) : Answering ν α := fun env =>
  match work env with
  | ⟨.ok a, env, trail⟩ => ⟨.ok a, env, trail.map .java⟩
  | ⟨.error e, env, trail⟩ =>
    let settled := Java.settleException env
    ⟨.error (.hostQuery q.name e.message), settled.state,
      trail.map .java ++ settled.trail.map .java⟩

variable (m : Machine ν)

def callObject (q : Query) (receiver : Option Object) (name signature : String) :
    Answering ν (Option Object) :=
  attempt q do (← Java.call m receiver name signature none).asObject

def intField (q : Query) (receiver : Option Object) (name : String) : Answering ν Int32 :=
  attempt q do (← Java.field m receiver name "I").asInt

/-- Reads a string, which may not be null. -/
def text (q : Query) : Option Object → Answering ν String
  | none => .fail (.hostQuery q.name "host returned null")
  | some o => attempt q (Java.readText m o)

def staticText (q : Query) (owner name : String) : Answering ν String := do
  let o ← attempt q do (← Java.staticField m owner name "Ljava/lang/String;").asObject
  text m q o

variable (activity : Object)

def defaultDisplay (q : Query) : Answering ν (Option Object) := do
  let manager ← callObject m q activity "getWindowManager" "()Landroid/view/WindowManager;"
  callObject m q manager "getDefaultDisplay" "()Landroid/view/Display;"

def packageName : Answering ν String := do
  let name ← callObject m .packageName activity "getPackageName" "()Ljava/lang/String;"
  text m .packageName name

def deviceIdentity : Answering ν DeviceIdentity := do
  let manufacturer ← staticText m .deviceIdentity "android/os/Build" "MANUFACTURER"
  let model ← staticText m .deviceIdentity "android/os/Build" "MODEL"
  let buildId ← staticText m .deviceIdentity "android/os/Build" "ID"
  return ⟨manufacturer, model, buildId⟩

def osRelease : Answering ν String :=
  staticText m .osRelease "android/os/Build$VERSION" "RELEASE"

def locale : Answering ν String := do
  let locale ← attempt .locale do
    (← Java.callStatic m "java/util/Locale" "getDefault" "()Ljava/util/Locale;").asObject
  let tag ← callObject m .locale locale "toString" "()Ljava/lang/String;"
  text m .locale tag

/-- The cache directory; a null one is none. -/
def cacheDir : Answering ν (Option String) := do
  match ← callObject m .cacheDir activity "getCacheDir" "()Ljava/io/File;" with
  | none => return none
  | some dir =>
    let path ← callObject m .cacheDir dir "getAbsolutePath" "()Ljava/lang/String;"
    return some (← text m .cacheDir path)

def nativeLibraryDir : Answering ν String := do
  let info ← callObject m .nativeLibraryDir activity "getApplicationInfo"
    "()Landroid/content/pm/ApplicationInfo;"
  let dir ← attempt .nativeLibraryDir do
    (← Java.field m info "nativeLibraryDir" "Ljava/lang/String;").asObject
  text m .nativeLibraryDir dir

def realDisplaySize : Answering ν DisplaySize := do
  let display ← defaultDisplay m activity .realDisplaySize
  let metrics ← attempt .realDisplaySize (Java.construct m "android/util/DisplayMetrics" "()V")
  let _ ← attempt .realDisplaySize
    (Java.call m display "getRealMetrics" "(Landroid/util/DisplayMetrics;)V"
      (some (.object (some metrics))))
  let width ← intField m .realDisplaySize metrics "widthPixels"
  let height ← intField m .realDisplaySize metrics "heightPixels"
  match DisplaySize.ofSigned? width height with
  | some size => return size
  | none =>
    .fail (.invalidHostValue Query.realDisplaySize.name (min width.toInt height.toInt))

def displayRotation : Answering ν Rotation := do
  let display ← defaultDisplay m activity .displayRotation
  let code ← attempt .displayRotation do
    (← Java.call m display "getRotation" "()I" none).asInt
  match Rotation.ofSurfaceCode? code with
  | some rotation => return rotation
  | none => .fail (.invalidHostValue Query.displayRotation.name code.toInt)

def axisOrientation : Answering ν Axis := do
  let resources ← callObject m .axisOrientation activity "getResources"
    "()Landroid/content/res/Resources;"
  let configuration ← callObject m .axisOrientation resources "getConfiguration"
    "()Landroid/content/res/Configuration;"
  let code ← intField m .axisOrientation configuration "orientation"
  return Axis.ofConfigurationCode code

def requestImmersive : Answering ν Unit := do
  let window ← callObject m .requestImmersive activity "getWindow" "()Landroid/view/Window;"
  let decor ← callObject m .requestImmersive window "getDecorView" "()Landroid/view/View;"
  let _ ← attempt .requestImmersive
    (Java.call m decor "setSystemUiVisibility" "(I)V" (some (.int immersiveFlags)))
  .tell (.logged (.immersiveRequested immersiveFlags))

/-- **The Android host's answer to a query.** -/
def ask : (q : Query) → Answering ν q.Answer
  | .packageName => packageName m activity
  | .deviceIdentity => deviceIdentity m
  | .osRelease => osRelease m
  | .locale => locale m
  | .realDisplaySize => realDisplaySize m activity
  | .cacheDir => cacheDir m activity
  | .nativeLibraryDir => nativeLibraryDir m activity
  | .displayRotation => displayRotation m activity
  | .axisOrientation => axisOrientation m activity
  | .requestImmersive => requestImmersive m activity

def host : Host (Env ν) := ⟨fun _ => hostName, ask m activity⟩

end

end PlatformBridge.Android
