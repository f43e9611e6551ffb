import PlatformBridge.Engine.Native

/-!
The registration slot: native code registers its table of functions once per process, and every
engine handle made later goes through that table.
-/

namespace PlatformBridge.Engine

/-- The slot for the registered table. -/
structure Registry where
  slot : Option Table := none
  deriving DecidableEq, Repr, Inhabited

namespace Registry

/-- Registers a table; the first one stays. -/
def register (table : Table) : Action Effect Failure Registry Unit := fun r =>
  match r.slot with
  | none => ⟨.ok (), ⟨some table⟩, [.logged .registered]⟩
  | some _ => ⟨.error .engineAlreadyRegistered, r, []⟩

/-- The codes by which native code learns what came of its registration. -/
inductive Code where
  | accepted
  | nullTable
  | duplicate
  deriving DecidableEq, Repr, Inhabited

def Code.value : Code → Int32
  | accepted => 0
  | nullTable => -1
  | duplicate => -2

/-- Registers a table on behalf of native code, which may have passed none. -/
def registerNative (table : Option Table) : Action Effect Failure Registry Code := fun r =>
  match table with
  | none => ⟨.ok .nullTable, r, [.logged .nullTable]⟩
  | some table =>
    match register table r with
    | ⟨.ok _, r, trail⟩ => ⟨.ok .accepted, r, trail⟩
    | ⟨.error failure, r, trail⟩ =>
      ⟨.ok .duplicate, r, trail ++ [.logged (.registrationRejected failure)]⟩

def registered (r : Registry) : Except Failure Table :=
  match r.slot with
  | some table => .ok table
  | none => .error .engineNotRegistered

end Registry

end PlatformBridge.Engine
