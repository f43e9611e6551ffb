import PlatformBridge.Orientation
import PlatformBridge.Text.Unsigned

/-!
Changes of the host's configuration as arguments spell them: an axis and an angle with a colon
between them.
-/

namespace PlatformBridge.Simulator

/-- The device turns to the rotation and lays out along the axis. -/
structure Change where
  axis : Axis
  rotation : Rotation
  deriving DecidableEq, Repr, Inhabited

namespace Change

/-- Why a text spells no change. -/
inductive Error where
  | noColon (text : String)
  | unknownAxis (name : String)
  | notANumber (text : String)
  | noRotation (angle : Nat)
  deriving DecidableEq, Repr, Inhabited

def Error.message : Error → String
  | noColon text => s!"expected axis:degrees, got `{text}`"
  | unknownAxis name => s!"unknown axis `{name}`"
  | notANumber text => s!"rotation `{text}` is not a number"
  | noRotation angle => s!"rotation must be 0, 90, 180 or 270, got {angle}"

/-- A text with its ASCII letters in lower case. -/
def lower (text : List Char) : String := String.ofList (text.map Char.toLower)

/-- The axis that a text names, in ASCII letters of any case. -/
def parseAxis (text : List Char) : Except Error Axis :=
  match Axis.ofName? (lower text) with
  | some axis => .ok axis
  | none => .error (.unknownAxis (lower text))

/-- The rotation by the angle that a text spells; the angle is a word of 32 bits. -/
def parseRotation (text : List Char) : Except Error Rotation :=
  match Text.unsigned? text with
  | none => .error (.notANumber (String.ofList text))
  | some angle =>
    if 0x100000000 ≤ angle then .error (.notANumber (String.ofList text))
    else
      match Rotation.ofDegrees? angle with
      | some rotation => .ok rotation
      | none => .error (.noRotation angle)

/-- **The change that a text spells**, split at its first colon. -/
def parse (text : String) : Except Error Change :=
  match text.toList.dropWhile (· ≠ ':') with
  | [] => .error (.noColon text)
  | _ :: angle => do
    return ⟨← parseAxis (text.toList.takeWhile (· ≠ ':')), ← parseRotation angle⟩

end Change

end PlatformBridge.Simulator
