import PlatformBridge.Engine.Basic

/-!
Native engines: a table of functions behind the boundary, called with what was marshalled. A
status other than zero is a rejection.
-/

namespace PlatformBridge.Engine

/-- What native code answers to a call through a table; `ν` is all that native code remembers. -/
structure Library (ν : Type) where
  respond : Table → NativeCall → ν → Int32 × ν

namespace Call

def nativeName : Call → String
  | snapshot _ => "initialize_platform_info"
  | orientation _ => "update_orientation"

/-- The call as it crosses the boundary. -/
def marshalled : Call → Except Refusal NativeCall
  | snapshot s => (marshal s).map .snapshot
  | orientation o => .ok (.orientation o.code)

/-- What is logged before the call crosses. -/
def announcement : Call → Log.Event
  | snapshot _ => .callingSnapshot
  | orientation o => .callingOrientation o.code

end Call

def checkStatus (call : Call) (status : Int32) : Except Failure Unit :=
  if status = 0 then .ok ()
  else .error (.boundary call.nativeName s!"engine returned status {status.toInt}")

/-- **The native engine behind a table.** What cannot be marshalled never crosses. -/
def native {ν : Type} (library : Library ν) (table : Table) : Engine ν where
  perform call := fun memory =>
    match call.marshalled with
    | .error refusal => ⟨.error (.boundary call.nativeName refusal.message), memory, []⟩
    | .ok raw =>
      let (status, memory) := library.respond table raw memory
      ⟨checkStatus call status, memory,
        [.logged call.announcement, .crossed table raw status]⟩

section

variable {ν : Type} {library : Library ν} {table : Table} {call : Call} {memory : ν}

theorem perform_of_refused {refusal : Refusal} (h : call.marshalled = .error refusal) :
    (native library table).perform call memory =
      ⟨.error (.boundary call.nativeName refusal.message), memory, []⟩ := by
  simp only [native, h]

theorem perform_of_marshalled {raw : NativeCall} (h : call.marshalled = .ok raw) :
    let answer := library.respond table raw memory
    (native library table).perform call memory = ⟨checkStatus call answer.1, answer.2,
      [.logged call.announcement, .crossed table raw answer.1]⟩ := by
  simp only [native, h]

end

end PlatformBridge.Engine
