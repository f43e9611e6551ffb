import PlatformBridge.Log.Filter
import PlatformBridge.Settings.Load
import PlatformBridge.Simulator.Arguments
import PlatformBridge.Simulator.Session

/-!
The simulator as a program: from its arguments, the documents they name and the log filter of the
environment to what it prints and how it exits. Settings are loaded first; log lines are kept from
then on; the profile and the session follow.
-/

namespace PlatformBridge.Simulator

/-- How the program exits. -/
inductive Exit where
  | success
  | failure
  | usage
  deriving DecidableEq, Repr, Inhabited

def Exit.code : Exit → UInt32
  | success => 0
  | failure => 1
  | usage => 2

/-- What the program leaves behind. -/
structure Report where
  exit : Exit
  /-- The lines printed, log lines first. -/
  output : List String
  /-- What is said about omissions and failures. -/
  complaint : String
  deriving DecidableEq, Repr, Inhabited

/-- What the program has to do, with the documents at hand. -/
structure Plan where
  settings : Option Document := none
  profile : Option Document := none
  changes : List Change := []
  log : Option String := none

namespace Plan

def loadSettings (p : Plan) : Except Failure Settings :=
  match p.settings with
  | none => .ok {}
  | some document => Settings.load document

def loadProfile (p : Plan) : Except Failure Profile :=
  match p.profile with
  | none => .ok {}
  | some document => Profile.load document

/-- Lines that are each ended. -/
def ended (lines : List String) : String := String.join (lines.map (· ++ "\n"))

/-- The last line stands behind what the others make. -/
theorem ended_concat (lines : List String) (line : String) :
    ended (lines ++ [line]) = ended lines ++ line ++ "\n" := by
  simp [ended, String.join_append, String.append_assoc]

/-- A failure, behind the log lines and what was said before. -/
def failed (lines notes : List String) (failure : Failure) : Report :=
  ⟨.failure, lines, ended (notes ++ ["hostlink-sim: " ++ failure.message])⟩

def logLines (filter : Log.Filter) (events : List Log.Event) : List String :=
  (events.filter filter.keeps).map Log.Event.line

/-- **Carries a plan out.** The environment's log filter goes before the plan's, which goes before
the one in the settings; what is left out of the filter is noted. -/
def run (p : Plan) (environment : Option String) : Report :=
  match p.loadSettings with
  | .error failure => failed [] [] failure
  | .ok settings =>
    let (filter, omissions) := Log.Filter.select environment (p.log.getD settings.logFilter)
    let notes := omissions.map Log.Omission.message
    match p.loadProfile with
    | .error failure => failed (logLines filter [.simulationFailed failure]) notes failure
    | .ok profile =>
      let session := Session.run profile settings p.changes
      let events := .simulationStarting p.changes.length :: Trail.events session.trail
      match session.result with
      | .error failure =>
        failed (logLines filter (events ++ [.simulationFailed failure])) notes failure
      | .ok summary =>
        ⟨.success, logLines filter events ++ [summary.document.prettyText], ended notes⟩

end Plan

def Notice.text : Notice → List String
  | help => [
      "Replay host lifecycle events against the bridge",
      "",
      "Usage: hostlink-sim [OPTIONS]",
      "",
      "Options:",
      "      --profile <PROFILE>      Host profile (JSON). Defaults to a 1920x1080 landscape device "
        ++ "with no cache dir",
      "      --config <CONFIG>        Bridge configuration (JSON)",
      "      --rotate <AXIS:DEGREES>  Configuration change to deliver after start, as "
        ++ "axis:degrees. Repeatable",
      "      --log <LOG>              Log filter, overriding the configured one. `RUST_LOG` still "
        ++ "takes precedence when set",
      "  -h, --help                   Print help",
      "  -V, --version                Print version"]
  | version => ["hostlink-sim 0.1.0"]

/-- The plan that arguments make, with the documents found under paths. -/
def Arguments.plan (a : Arguments) (find : String → Document) : Plan where
  settings := a.config.map find
  profile := a.profile.map find
  changes := a.changes
  log := a.log

/-- **The whole program.** -/
def program (arguments : List String) (find : String → Document) (environment : Option String) :
    Report :=
  match Arguments.parse arguments with
  | .error error => ⟨.usage, [], error.complaint⟩
  | .ok (.notice notice) => ⟨.success, notice.text, ""⟩
  | .ok (.simulate a) => (a.plan find).run environment

end PlatformBridge.Simulator
