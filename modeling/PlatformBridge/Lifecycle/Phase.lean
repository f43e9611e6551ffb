import PlatformBridge.Json.Codec

/-!
The phases of the bridge: it waits for the host to start, tells the engine its platform, tells it
the first orientation, and is then active; any failure poisons it for good.
-/

namespace PlatformBridge

/-- How far the bridge has come. -/
inductive Phase where
  | uninitialized
  | initialized
  | active
  | poisoned
  deriving DecidableEq, Repr, Inhabited

namespace Phase

/-- Every phase, in the order in which messages list them. -/
def all : List Phase := [uninitialized, initialized, active, poisoned]

/-- The phase as documents spell it. -/
def name : Phase → String
  | uninitialized => "Uninitialized"
  | initialized => "Initialized"
  | active => "Active"
  | poisoned => "Poisoned"

/-- The phase as log lines show it. -/
def text : Phase → String
  | uninitialized => "uninitialized"
  | initialized => "initialized"
  | active => "active"
  | poisoned => "poisoned"

def codec : Json.Codec Phase := .choice all name

end Phase

end PlatformBridge
