import PlatformBridge.Json.Codec

/-!
Orientation of the host's screen. A host tells two things: the axis along which it lays the
screen out and the rotation of the display from its natural position. The engine is told one: an
orientation with its code. `Orientation.resolve` takes the two to the one.
-/

namespace PlatformBridge

/-! ### The axis -/

/-- The axis along which the host lays out the screen. -/
inductive Axis where
  | landscape
  | portrait
  | other
  deriving DecidableEq, Repr, Inhabited

namespace Axis

/-- Every axis, in the order in which messages list them. -/
def all : List Axis := [landscape, portrait, other]

/-- The axis as documents and arguments spell it. -/
def name : Axis → String
  | landscape => "landscape"
  | portrait => "portrait"
  | other => "other"

/-- The axis as log lines show it. -/
def label : Axis → String
  | landscape => "Landscape"
  | portrait => "Portrait"
  | other => "Other"

/-- The axis of a host configuration: `1` is portrait, `2` landscape, any other code neither. -/
def ofConfigurationCode (code : Int32) : Axis :=
  if code = 1 then portrait else if code = 2 then landscape else other

def ofName? (text : String) : Option Axis := all.find? fun axis => axis.name = text

@[simp] theorem ofName?_name (axis : Axis) : ofName? axis.name = some axis := by
  cases axis <;> decide

def codec : Json.Codec Axis := .choice all name

end Axis

/-! ### The rotation -/

/-- The rotation of the display from its natural position. -/
inductive Rotation where
  | deg0
  | deg90
  | deg180
  | deg270
  deriving DecidableEq, Repr, Inhabited

namespace Rotation

/-- Every rotation, in increasing order. -/
def all : List Rotation := [deg0, deg90, deg180, deg270]

/-- The rotation as documents spell it. -/
def name : Rotation → String
  | deg0 => "Deg0"
  | deg90 => "Deg90"
  | deg180 => "Deg180"
  | deg270 => "Deg270"

def degrees : Rotation → Nat
  | deg0 => 0
  | deg90 => 90
  | deg180 => 180
  | deg270 => 270

/-- The code under which a display surface reports the rotation. -/
def surfaceCode : Rotation → Int32
  | deg0 => 0
  | deg90 => 1
  | deg180 => 2
  | deg270 => 3

/-- The rotation that a display surface reports by the code. -/
def ofSurfaceCode? (code : Int32) : Option Rotation := all.find? fun r => r.surfaceCode = code

def ofDegrees? (angle : Nat) : Option Rotation := all.find? fun r => r.degrees = angle

def codec : Json.Codec Rotation := .choice all name

/-- A rotation by one or three quarters, which swaps the sides of the display. -/
def isQuarterTurn : Rotation → Bool
  | deg0 | deg180 => false
  | deg90 | deg270 => true

@[simp] theorem ofSurfaceCode?_surfaceCode (r : Rotation) :
    ofSurfaceCode? r.surfaceCode = some r := by
  cases r <;> decide

@[simp] theorem ofDegrees?_degrees (r : Rotation) : ofDegrees? r.degrees = some r := by
  cases r <;> decide

theorem ofDegrees?_eq_some_iff {angle : Nat} {r : Rotation} :
    ofDegrees? angle = some r ↔ angle = r.degrees := by
  constructor
  · intro h
    have := List.find?_some h
    simpa [eq_comm] using this
  · rintro rfl
    exact ofDegrees?_degrees r

theorem ofSurfaceCode?_eq_some_iff {code : Int32} {r : Rotation} :
    ofSurfaceCode? code = some r ↔ code = r.surfaceCode := by
  constructor
  · intro h
    have := List.find?_some h
    simpa [eq_comm] using this
  · rintro rfl
    exact ofSurfaceCode?_surfaceCode r

/-- The codes are `0` to `3`. -/
theorem isSome_ofSurfaceCode?_iff {code : Int32} :
    (ofSurfaceCode? code).isSome ↔ 0 ≤ code ∧ code ≤ 3 := by
  rw [Option.isSome_iff_exists]
  constructor
  · rintro ⟨r, hr⟩
    rw [ofSurfaceCode?_eq_some_iff.mp hr]
    cases r <;> decide
  · rintro ⟨hlow, hhigh⟩
    have hcases : code.toInt = 0 ∨ code.toInt = 1 ∨ code.toInt = 2 ∨ code.toInt = 3 := by
      rw [Int32.le_iff_toInt_le] at hlow hhigh
      change 0 ≤ code.toInt at hlow
      change code.toInt ≤ 3 at hhigh
      omega
    rcases hcases with h | h | h | h
    · exact ⟨.deg0, ofSurfaceCode?_eq_some_iff.mpr (Int32.toInt_inj.mp h)⟩
    · exact ⟨.deg90, ofSurfaceCode?_eq_some_iff.mpr (Int32.toInt_inj.mp h)⟩
    · exact ⟨.deg180, ofSurfaceCode?_eq_some_iff.mpr (Int32.toInt_inj.mp h)⟩
    · exact ⟨.deg270, ofSurfaceCode?_eq_some_iff.mpr (Int32.toInt_inj.mp h)⟩

end Rotation

/-! ### What the engine is told -/

/-- The orientation that the engine draws for. -/
inductive Orientation where
  | landscape
  | landscapeFlipped
  | portrait
  | portraitFlipped
  | undefined
  deriving DecidableEq, Repr, Inhabited

namespace Orientation

/-- Every orientation, in the order in which messages list them. -/
def all : List Orientation := [landscape, landscapeFlipped, portrait, portraitFlipped, undefined]

/-- The orientation as documents spell it. -/
def name : Orientation → String
  | landscape => "Landscape"
  | landscapeFlipped => "LandscapeFlipped"
  | portrait => "Portrait"
  | portraitFlipped => "PortraitFlipped"
  | undefined => "Undefined"

/-- The orientation as log lines show it. -/
def text : Orientation → String
  | landscape => "landscape"
  | landscapeFlipped => "landscape-flipped"
  | portrait => "portrait"
  | portraitFlipped => "portrait-flipped"
  | undefined => "undefined"

/-- The code by which the engine knows the orientation. -/
def code : Orientation → Int32
  | landscape => 0
  | landscapeFlipped => 1
  | portrait => 2
  | portraitFlipped => 3
  | undefined => -1

def codec : Json.Codec Orientation := .choice all name

theorem code_injective {a b : Orientation} (h : a.code = b.code) : a = b := by
  revert h; cases a <;> cases b <;> decide

/-- **The orientation for an axis and a rotation.** A quarter turn flips the axis; a host that
lays out along neither axis has no orientation. -/
def resolve : Axis → Rotation → Orientation
  | .landscape, rotation => if rotation.isQuarterTurn then landscapeFlipped else landscape
  | .portrait, rotation => if rotation.isQuarterTurn then portraitFlipped else portrait
  | .other, _ => undefined

end Orientation

end PlatformBridge
