import PlatformBridge.Log.Event

/-!
Settings from a text and from a document. Whatever route settings come by, they are sound: a
document that spells unsound ones is refused, with the first of their flaws.
-/

namespace PlatformBridge.Settings

/-- Settings are let through if they have no flaw. -/
def validate (s : Settings) : Except Failure Settings :=
  match s.flaw? with
  | some flaw => .error (.settings flaw)
  | none => .ok s

/-- **The settings that a text spells.** -/
def ofText (text : String) : Except Failure Settings :=
  match schema.codec.decode text with
  | .error e => .error (.json e)
  | .ok s => s.validate

def load (document : Document) : Except Failure Settings :=
  match document.text with
  | .error fault => .error (.document fault)
  | .ok text => ofText text

/-- The settings in a document or, with a warning that tells its path, the defaults. -/
def loadOrDefault (document : Document) (path : String := "") : Settings × List Log.Event :=
  match load document with
  | .ok s => (s, [])
  | .error failure => ({}, [.defaultSettings path failure])

end PlatformBridge.Settings
