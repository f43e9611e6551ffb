import PlatformBridge.Action
import PlatformBridge.Java.Operation
import PlatformBridge.Log.Event

/-!
Hosts: whatever answers the queries of the bridge. A host is a stateful thing with a name; each
query may change it, may fail, and may leave effects of its own.
-/

namespace PlatformBridge

/-- What the bridge asks of a host. -/
inductive Query where
  | packageName
  | deviceIdentity
  | osRelease
  | locale
  | realDisplaySize
  | cacheDir
  | nativeLibraryDir
  | displayRotation
  | axisOrientation
  | requestImmersive
  deriving DecidableEq, Repr, Inhabited

namespace Query

def all : List Query :=
  [packageName, deviceIdentity, osRelease, locale, realDisplaySize, cacheDir, nativeLibraryDir,
    displayRotation, axisOrientation, requestImmersive]

/-- The query's name in failures and records. -/
def name : Query → String
  | packageName => "package_name"
  | deviceIdentity => "device_identity"
  | osRelease => "os_release"
  | locale => "locale"
  | realDisplaySize => "real_display_size"
  | cacheDir => "cache_dir"
  | nativeLibraryDir => "native_library_dir"
  | displayRotation => "display_rotation"
  | axisOrientation => "axis_orientation"
  | requestImmersive => "request_immersive"

/-- The type of the answer to a query. -/
abbrev Answer : Query → Type
  | packageName | osRelease | locale | nativeLibraryDir => String
  | deviceIdentity => DeviceIdentity
  | realDisplaySize => DisplaySize
  | cacheDir => Option String
  | displayRotation => Rotation
  | axisOrientation => Axis
  | requestImmersive => Unit

def ofName? (text : String) : Option Query := all.find? fun q => q.name = text

@[simp] theorem ofName?_name (q : Query) : ofName? q.name = some q := by
  cases q <;> decide

theorem name_injective {p q : Query} (h : p.name = q.name) : p = q := by
  have := ofName?_name p
  rw [h, ofName?_name] at this
  exact (Option.some.inj this).symm

end Query

/-- What a host does besides answering. -/
inductive Host.Effect where
  | logged (event : Log.Event)
  | java (effect : Java.Effect)
  deriving DecidableEq, Repr, Inhabited

/-- A host with states of type `σ`. -/
structure Host (σ : Type) where
  name : σ → String
  ask : (q : Query) → Action Host.Effect Failure σ q.Answer

end PlatformBridge
