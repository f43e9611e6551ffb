import PlatformBridge.Document
import PlatformBridge.Settings.Basic

/-!
What can go wrong in the bridge. Each failure has a kind: the host did not answer a query, the
engine's boundary was not crossed, events came in an order that is not allowed, or the bridge was
not set up.
-/

namespace PlatformBridge

/-- A failure of the bridge. -/
inductive Failure where
  /-- The host did not answer. -/
  | hostQuery (query detail : String)
  /-- The host answered with a value that means nothing. -/
  | invalidHostValue (query : String) (value : Int)
  /-- A call did not reach the engine or was rejected by it. -/
  | boundary (call detail : String)
  | engineAlreadyRegistered
  | engineNotRegistered
  | alreadyStarted
  | notStarted
  | poisoned
  | settings (flaw : Settings.Flaw)
  | document (fault : Document.Fault)
  | json (error : Json.Error)
  deriving DecidableEq, Repr, Inhabited

namespace Failure

/-- The kinds of failures. -/
inductive Kind where
  | hostQuery
  | boundary
  | protocolMisuse
  | setup
  deriving DecidableEq, Repr, Inhabited

/-- The kind as log lines show it. -/
def Kind.label : Kind → String
  | hostQuery => "HostQuery"
  | boundary => "Boundary"
  | protocolMisuse => "ProtocolMisuse"
  | setup => "Setup"

def kind : Failure → Kind
  | hostQuery .. | invalidHostValue .. => .hostQuery
  | boundary .. | engineNotRegistered => .boundary
  | alreadyStarted | notStarted | poisoned => .protocolMisuse
  | engineAlreadyRegistered | settings _ | document _ | json _ => .setup

/-- **A failure in words.** -/
def message : Failure → String
  | hostQuery query detail => s!"host query `{query}` failed: {detail}"
  | invalidHostValue query value => s!"host query `{query}` returned unexpected value {value}"
  | boundary call detail => s!"engine call `{call}` failed: {detail}"
  | engineAlreadyRegistered => "native engine already registered"
  | engineNotRegistered => "native engine not registered"
  | alreadyStarted => "onStart delivered more than once"
  | notStarted => "configuration change delivered before onStart completed"
  | poisoned => "bridge is unusable after an earlier fatal failure"
  | settings flaw => "invalid configuration: " ++ flaw.message
  | document fault => "file I/O error: " ++ fault.message
  | json error => "serialization error: " ++ error.message

end Failure

end PlatformBridge
