import PlatformBridge.Lifecycle.Effect

/-!
The snapshot of a host, collected query by query. The first query that fails ends the collection.
-/

namespace PlatformBridge

/-- A path without the slashes at its end. -/
def trimSlashes (path : List Char) : List Char := (path.reverse.dropWhile (· == '/')).reverse

/-- The path of a library in a directory. -/
def executablePath (directory library : String) : String :=
  String.ofList (trimSlashes directory.toList ++ '/' :: library.toList)

/-- What stands for the cache directory, with a warning where the host has none. -/
def effectiveCacheDir {σ : Type} (settings : Settings) :
    Option String → Action Effect Failure σ String
  | some dir => pure dir
  | none => do
    .tell (.logged (.noCacheDir settings.cacheDirSentinel))
    return settings.cacheDirSentinel

/-- **The snapshot of a host.** -/
def collect {σ : Type} (host : Host σ) (settings : Settings) :
    Action Effect Failure σ Snapshot := do
  let appId : String ← host.query .packageName
  let device : DeviceIdentity ← host.query .deviceIdentity
  let osVersion : String ← host.query .osRelease
  let locale : String ← host.query .locale
  let display : DisplaySize ← host.query .realDisplaySize
  let reported : Option String ← host.query .cacheDir
  let cacheDir ← effectiveCacheDir settings reported
  let nativeLibDir : String ← host.query .nativeLibraryDir
  let snapshot : Snapshot := {
    appId
    manufacturer := device.manufacturer
    model := device.model
    buildId := device.buildId
    osVersion
    locale
    cacheDir
    executablePath := executablePath nativeLibDir settings.engineLibrary
    nativeLibDir
    screenWidth := display.width
    screenHeight := display.height }
  let name ← .inspect host.name
  .tell (.logged (.collected name snapshot))
  return snapshot

end PlatformBridge
