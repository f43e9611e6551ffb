import PlatformBridge.Orientation
import PlatformBridge.Snapshot

/-!
What crosses the boundary to a native engine: texts as bytes that end with a zero, numbers as
signed words of 32 bits. A text with a zero in it and a number beyond the signed range cannot
cross.
-/

namespace PlatformBridge

/-- A native engine's table of functions, known by a label. -/
structure Engine.Table where
  label : String
  deriving DecidableEq, Repr, Inhabited

namespace Engine

/-- A text in memory: its bytes up to and with the zero that ends it. -/
abbrev CString : Type := List UInt8

namespace CString

/-- The bytes of a text and the zero that ends it; a text with a zero in it has no such form. -/
def ofString? (text : String) : Option CString :=
  if text.toList.contains '\u0000' then none else some (text.toUTF8.data.toList ++ [0])

/-- The text that stands in memory: the bytes up to the first zero. -/
def toString? (memory : CString) : Option String :=
  String.fromUTF8? ⟨(memory.takeWhile (· ≠ 0)).toArray⟩

end CString

/-- A snapshot as it crosses the boundary. -/
structure RawSnapshot where
  appId : CString
  manufacturer : CString
  model : CString
  buildId : CString
  osVersion : CString
  locale : CString
  cacheDir : CString
  executablePath : CString
  nativeLibDir : CString
  screenWidth : Int32
  screenHeight : Int32
  deriving DecidableEq, Repr, Inhabited

/-- The snapshot as the other side reads it back. -/
def RawSnapshot.readBack? (raw : RawSnapshot) : Option Snapshot := do
  return {
    appId := ← raw.appId.toString?
    manufacturer := ← raw.manufacturer.toString?
    model := ← raw.model.toString?
    buildId := ← raw.buildId.toString?
    osVersion := ← raw.osVersion.toString?
    locale := ← raw.locale.toString?
    cacheDir := ← raw.cacheDir.toString?
    executablePath := ← raw.executablePath.toString?
    nativeLibDir := ← raw.nativeLibDir.toString?
    screenWidth := raw.screenWidth.toUInt32
    screenHeight := raw.screenHeight.toUInt32 }

/-- A call across the boundary. -/
inductive NativeCall where
  | snapshot (raw : RawSnapshot)
  | orientation (code : Int32)
  deriving DecidableEq, Repr, Inhabited

/-- Why a field of a snapshot cannot cross. -/
inductive Refusal where
  | interiorZero (field : String)
  | tooLarge (field : String) (value : UInt32)
  deriving DecidableEq, Repr, Inhabited

def Refusal.message : Refusal → String
  | interiorZero field => s!"{field} contains an interior NUL byte"
  | tooLarge field value => s!"{field} {value.toNat} does not fit in a C int"

def Refusal.field : Refusal → String
  | interiorZero field => field
  | tooLarge field _ => field

/-- A refusal names its field before all else. -/
theorem Refusal.exists_message (refusal : Refusal) :
    ∃ reason, refusal.message = refusal.field ++ " " ++ reason := by
  cases refusal with
  | interiorZero field =>
    refine ⟨"contains an interior NUL byte", ?_⟩
    rw [String.append_assoc]
    rfl
  | tooLarge field value =>
    refine ⟨s!"{value.toNat} does not fit in a C int", ?_⟩
    simp [message, Refusal.field, toString, String.append_assoc]

def marshalText (field : String) (text : String) : Except Refusal CString :=
  match CString.ofString? text with
  | some memory => .ok memory
  | none => .error (.interiorZero field)

def marshalDimension (field : String) (value : UInt32) : Except Refusal Int32 :=
  if value.toNat < 0x80000000 then .ok value.toInt32 else .error (.tooLarge field value)

/-- **A snapshot on its way across**: the dimensions first, then the texts in their order. -/
def marshal (s : Snapshot) : Except Refusal RawSnapshot := do
  let screenWidth ← marshalDimension "screen_width" s.screenWidth
  let screenHeight ← marshalDimension "screen_height" s.screenHeight
  let appId ← marshalText "app_id" s.appId
  let manufacturer ← marshalText "manufacturer" s.manufacturer
  let model ← marshalText "model" s.model
  let buildId ← marshalText "build_id" s.buildId
  let osVersion ← marshalText "os_version" s.osVersion
  let locale ← marshalText "locale" s.locale
  let cacheDir ← marshalText "cache_dir" s.cacheDir
  let executablePath ← marshalText "executable_path" s.executablePath
  let nativeLibDir ← marshalText "native_lib_dir" s.nativeLibDir
  return {
    appId, manufacturer, model, buildId, osVersion, locale, cacheDir, executablePath, nativeLibDir,
    screenWidth, screenHeight }

end Engine

end PlatformBridge
