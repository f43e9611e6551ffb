import PlatformBridge.Json.Record
import PlatformBridge.Text.Blank

/-!
Settings of the bridge: which library the engine is in, what stands for a missing cache directory,
whether the screen is asked to hide its controls, and which log lines are kept. Settings are sound
if the library is a bare file name and the stand-in is not empty; `Settings.flaw?` tells the first
thing that is wrong.
-/

namespace PlatformBridge

/-- The settings of the bridge. -/
structure Settings where
  /-- The file name of the engine's library, looked for in the host's library directory. -/
  engineLibrary : String := "libengine.so"
  /-- What the engine is told where the host has no cache directory. -/
  cacheDirSentinel : String := "none"
  /-- Whether the host is asked to hide its controls once the engine has started. -/
  immersive : Bool := true
  /-- Which log lines are kept. -/
  logFilter : String := "info"
  deriving DecidableEq, Repr, Inhabited

namespace Settings

/-- The settings in a document; fields that are left out keep their defaults. -/
def schema : Json.Schema Settings where
  name := "BridgeConfig"
  base := {}
  complete := false
  fields := [
    .of "engine_library" .text engineLibrary fun value s => { s with engineLibrary := value },
    .of "cache_dir_sentinel" .text cacheDirSentinel
      fun value s => { s with cacheDirSentinel := value },
    .of "immersive" .boolean immersive fun value s => { s with immersive := value },
    .of "log_filter" .text logFilter fun value s => { s with logFilter := value }]

/-- What can be wrong with settings. -/
inductive Flaw where
  | blankLibrary
  | notABareName (library : String)
  | emptySentinel
  | unreadable (reason : String)
  | stated (detail : String)
  deriving DecidableEq, Repr, Inhabited

def Flaw.message : Flaw → String
  | blankLibrary => "engine_library is empty"
  | notABareName library => s!"engine_library `{library}` must be a bare file name"
  | emptySentinel => "cache_dir_sentinel is empty"
  | unreadable reason => s!"unreadable config string: {reason}"
  | stated detail => detail

def isSeparator (c : Char) : Bool := c = '/' || c = '\\'

/-- **The first flaw of the settings.** -/
def flaw? (s : Settings) : Option Flaw :=
  if Text.blank s.engineLibrary then some .blankLibrary
  else if s.engineLibrary.toList.any isSeparator then some (.notABareName s.engineLibrary)
  else if s.cacheDirSentinel = "" then some .emptySentinel
  else none

end Settings

end PlatformBridge
