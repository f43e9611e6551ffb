import PlatformBridge.Host.Basic

/-!
The desktop host: it answers from a profile and keeps a record of the queries it answered. One
query, named in the profile, is refused on purpose.
-/

namespace PlatformBridge

/-- The name of the operating system that the desktop host is built for. -/
def builtFor : String := "linux"

/-- What a desktop host tells about itself. -/
structure Profile where
  packageName : String := "dev.hostlink.desktop"
  manufacturer : String := "Hostlink"
  model : String := "Desktop Stub"
  buildId : String := "STUB.0"
  osRelease : String := builtFor
  locale : String := "en_US"
  cacheDir : Option String := none
  nativeLibraryDir : String := "/opt/hostlink/lib"
  display : DisplaySize := ⟨1920, 1080⟩
  rotation : Rotation := .deg0
  axis : Axis := .landscape
  /-- The name of the query that is refused, if any. -/
  failQuery : Option String := none
  deriving DecidableEq, Repr, Inhabited

namespace Profile

/-- The profile in a document; fields that are left out keep their defaults. -/
def schema : Json.Schema Profile where
  name := "HostProfile"
  base := {}
  complete := false
  fields := [
    .of "package_name" .text packageName fun value p => { p with packageName := value },
    .of "manufacturer" .text manufacturer fun value p => { p with manufacturer := value },
    .of "model" .text model fun value p => { p with model := value },
    .of "build_id" .text buildId fun value p => { p with buildId := value },
    .of "os_release" .text osRelease fun value p => { p with osRelease := value },
    .of "locale" .text locale fun value p => { p with locale := value },
    .of "cache_dir" .optional cacheDir fun value p => { p with cacheDir := value },
    .of "native_library_dir" .text nativeLibraryDir
      fun value p => { p with nativeLibraryDir := value },
    .of "display" DisplaySize.schema.codec display fun value p => { p with display := value },
    .of "rotation" Rotation.codec rotation fun value p => { p with rotation := value },
    .of "axis" Axis.codec axis fun value p => { p with axis := value },
    .of "fail_query" .optional failQuery fun value p => { p with failQuery := value }]

def load (document : Document) : Except Failure Profile :=
  match document.text with
  | .error fault => .error (.document fault)
  | .ok text => (schema.codec.decode text).mapError .json

def answer (p : Profile) : (q : Query) → q.Answer
  | .packageName => p.packageName
  | .deviceIdentity => ⟨p.manufacturer, p.model, p.buildId⟩
  | .osRelease => p.osRelease
  | .locale => p.locale
  | .realDisplaySize => p.display
  | .cacheDir => p.cacheDir
  | .nativeLibraryDir => p.nativeLibraryDir
  | .displayRotation => p.rotation
  | .axisOrientation => p.axis
  | .requestImmersive => ()

end Profile

/-- A desktop host: its profile, the queries it answered, and how often it was asked to hide its
controls. -/
structure Desktop where
  profile : Profile := {}
  answered : List Query := []
  immersiveRequests : UInt32 := 0
  deriving DecidableEq, Repr, Inhabited

namespace Desktop

def hostName : String := "Desktop (stub)"

/-- How often the query with the name was answered. -/
def queryCount (d : Desktop) (name : String) : Nat := (d.answered.filter (·.name = name)).length

def setRotation (rotation : Rotation) (d : Desktop) : Desktop :=
  { d with profile := { d.profile with rotation } }

def setAxis (axis : Axis) (d : Desktop) : Desktop := { d with profile := { d.profile with axis } }

def failFromNowOn (query : String) (d : Desktop) : Desktop :=
  { d with profile := { d.profile with failQuery := some query } }

/-- What can be changed about a desktop host between queries. -/
inductive Adjustment where
  | rotation (rotation : Rotation)
  | axis (axis : Axis)
  | refusing (query : String)
  deriving DecidableEq, Repr, Inhabited

def adjust : Adjustment → Desktop → Desktop
  | .rotation rotation => setRotation rotation
  | .axis axis => setAxis axis
  | .refusing query => failFromNowOn query

def record (q : Query) (d : Desktop) : Desktop :=
  { d with
    answered := d.answered ++ [q]
    immersiveRequests := if q = .requestImmersive then d.immersiveRequests + 1
      else d.immersiveRequests }

/-- What is logged with an answer. -/
def notes : Query → List Host.Effect
  | .requestImmersive => [.logged .immersiveNoted]
  | _ => []

/-- **The desktop host's answer to a query.** -/
def ask (q : Query) : Action Host.Effect Failure Desktop q.Answer := fun d =>
  if d.profile.failQuery = some q.name then
    ⟨.error (.hostQuery q.name "injected failure"), d, [.logged (.injectedFailure q.name)]⟩
  else ⟨.ok (d.profile.answer q), d.record q, notes q⟩

def host : Host Desktop := ⟨fun _ => hostName, ask⟩

end Desktop

end PlatformBridge
