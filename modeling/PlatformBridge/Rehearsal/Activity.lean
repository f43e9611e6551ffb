import PlatformBridge.Android.Process
import PlatformBridge.Rehearsal.Engine
import PlatformBridge.Rehearsal.ScriptedMachine

/-!
Rehearsals of an Android process: an activity in a virtual machine that follows a script, and
native code that gives planned statuses. A rehearsal ends with the process.
-/

namespace PlatformBridge.Rehearsal.Activity

open Java (Object)

def activity : Object := ⟨"dev/hostlink/HostlinkActivity", 0⟩

/-- The table that native code registers. -/
def table : Engine.Table := ⟨"engine"⟩

abbrev Stage : Type := Android.Process Script Statuses

inductive Step where
  | register
  | start (document : Option MachineText)
  | change (code : Int32)
  /-- Gives members other lines. -/
  | revise (lines : List (String × List Line))
  deriving DecidableEq, Repr, Inhabited

inductive Reply where
  | done
  | refused (failure : Failure)
  | fatal (lastWords : String)
  deriving DecidableEq, Repr, Inhabited

/-- A step as it was played. -/
structure Entry where
  reply : Reply
  stage : Stage
  trail : List Android.Effect

/-- The script with other lines for some members. -/
def revise (script : Script) (lines : List (String × List Line)) : Script :=
  lines.foldl (fun s (member, lines) => s.set member lines) script

def withScript (stage : Stage) (f : Script → Script) : Stage :=
  { stage with env := { stage.env with machine := f stage.env.machine } }

def Reply.ofEntry : Except Failure Unit → Reply
  | .ok _ => done
  | .error failure => fatal (Android.lastWords failure)

/-- The activity's document, handed out by the machine. -/
def handDocument (stage : Stage) : Option MachineText → Option Object × Stage
  | none => (none, stage)
  | some text =>
    let (o, script) := stage.env.machine.hand text
    (some o, withScript stage fun _ => script)

def playStep (stage : Stage) : Step → Entry
  | .register =>
    let o := Android.register table stage
    let reply := match o.result with
      | .ok _ => .done
      | .error failure => .refused failure
    ⟨reply, o.state, o.trail⟩
  | .start document =>
    let (o, stage) := handDocument stage document
    let o := Android.onStart Script.machine Statuses.library activity o stage
    ⟨.ofEntry o.result, o.state, o.trail⟩
  | .change code =>
    let o := Android.onConfigurationChanged Script.machine Statuses.library activity code stage
    ⟨.ofEntry o.result, o.state, o.trail⟩
  | .revise lines => ⟨.done, withScript stage fun script => revise script lines, []⟩

/-- Whether the process is still there. -/
def Reply.goesOn : Reply → Bool
  | fatal _ => false
  | _ => true

/-- **Plays the steps of a rehearsal**, up to the first fatal one. -/
def play (stage : Stage) : List Step → List Entry
  | [] => []
  | step :: steps =>
    let entry := playStep stage step
    if entry.reply.goesOn then entry :: play entry.stage steps else [entry]

end PlatformBridge.Rehearsal.Activity
