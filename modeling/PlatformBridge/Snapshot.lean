import PlatformBridge.Json.Record

/-!
What the engine is told about its platform, once, before anything else: a snapshot of the device,
the application and the screen. In a document every field of it must be given.
-/

namespace PlatformBridge

/-- The size of the screen in pixels. -/
structure DisplaySize where
  width : UInt32
  height : UInt32
  deriving DecidableEq, Repr, Inhabited

namespace DisplaySize

/-- The size with the given sides, if neither is negative. -/
def ofSigned? (width height : Int32) : Option DisplaySize :=
  if 0 ≤ width ∧ 0 ≤ height then some ⟨width.toUInt32, height.toUInt32⟩ else none

/-- The size as log lines show it. -/
def text (size : DisplaySize) : String :=
  toString size.width.toNat ++ "x" ++ toString size.height.toNat

def schema : Json.Schema DisplaySize where
  name := "DisplaySize"
  base := ⟨0, 0⟩
  complete := true
  fields := [
    .of "width" .word width fun value size => { size with width := value },
    .of "height" .word height fun value size => { size with height := value }]

end DisplaySize

/-- The names a device goes by. -/
structure DeviceIdentity where
  manufacturer : String
  model : String
  buildId : String
  deriving DecidableEq, Repr, Inhabited

def DeviceIdentity.schema : Json.Schema DeviceIdentity where
  name := "DeviceIdentity"
  base := ⟨"", "", ""⟩
  complete := true
  fields := [
    .of "manufacturer" .text manufacturer fun value d => { d with manufacturer := value },
    .of "model" .text model fun value d => { d with model := value },
    .of "build_id" .text buildId fun value d => { d with buildId := value }]

/-- What the engine is told about the platform it runs on. -/
structure Snapshot where
  appId : String
  manufacturer : String
  model : String
  buildId : String
  osVersion : String
  locale : String
  cacheDir : String
  executablePath : String
  nativeLibDir : String
  screenWidth : UInt32
  screenHeight : UInt32
  deriving DecidableEq, Repr, Inhabited

def Snapshot.schema : Json.Schema Snapshot where
  name := "PlatformInfo"
  base := ⟨"", "", "", "", "", "", "", "", "", 0, 0⟩
  complete := true
  fields := [
    .of "app_id" .text appId fun value s => { s with appId := value },
    .of "manufacturer" .text manufacturer fun value s => { s with manufacturer := value },
    .of "model" .text model fun value s => { s with model := value },
    .of "build_id" .text buildId fun value s => { s with buildId := value },
    .of "os_version" .text osVersion fun value s => { s with osVersion := value },
    .of "locale" .text locale fun value s => { s with locale := value },
    .of "cache_dir" .text cacheDir fun value s => { s with cacheDir := value },
    .of "executable_path" .text executablePath fun value s => { s with executablePath := value },
    .of "native_lib_dir" .text nativeLibDir fun value s => { s with nativeLibDir := value },
    .of "screen_width" .word screenWidth fun value s => { s with screenWidth := value },
    .of "screen_height" .word screenHeight fun value s => { s with screenHeight := value }]

end PlatformBridge
