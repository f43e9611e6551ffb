import Mathlib.Data.List.Forall2
import Mathlib.Data.List.TakeWhile
import Mathlib.Data.Nat.Digits.Defs
import PlatformBridge.Simulator.Change

/-!
# Which texts are changes

A change is spelled as the name of an axis, a colon and an angle. Capitals count as the small letters
that they stand for, and the angle may have a plus sign and zeros before it; nothing else is let
through, and what is wrong is reported by the first thing that is.

* `SameLetter`, `Names` — the name of an axis in ASCII letters of any case;
* `Text.IsNumeral text n` — the text is a number in digits, perhaps with a plus sign;
* `Change.Verdict text result` — the grammar: what comes of each text, in words where it is rejected;
* `Change.parse_eq_iff` — reading a change follows it.
-/

namespace PlatformBridge

/-! ### Letters -/

def SameLetter (c d : Char) : Prop :=
  c = d ∨ (c.isUpper ∧ d.toNat = c.toNat + 32) ∨ (d.isUpper ∧ c.toNat = d.toNat + 32)

theorem isUpper_iff (c : Char) : c.isUpper ↔ 65 ≤ c.toNat ∧ c.toNat ≤ 90 := by
  have hrange : c.isUpper = decide ('A'.val ≤ c.val ∧ c.val ≤ 'Z'.val) := rfl
  simp [hrange, UInt32.le_iff_toNat_le, ← Char.toNat_val]

theorem toNat_toLower (c : Char) :
    c.toLower.toNat = if c.isUpper then c.toNat + 32 else c.toNat := by
  by_cases hc : c.isUpper
  · have hrange := (isUpper_iff c).mp hc
    have hlower : c.toLower = ⟨c.val + ('a'.val - 'A'.val), _⟩ := dif_pos (of_decide_eq_true hc)
    rw [if_pos hc, hlower]
    change (c.toNat + 32) % 4294967296 = c.toNat + 32
    omega
  · have hlower : c.toLower = c := dif_neg fun hrange => hc (decide_eq_true hrange)
    rw [if_neg hc, hlower]

theorem toLower_eq_iff (c d : Char) : c.toLower = d.toLower ↔ SameLetter c d := by
  rw [← Char.toNat_inj, toNat_toLower, toNat_toLower, SameLetter, ← Char.toNat_inj]
  simp only [isUpper_iff]
  split <;> split <;> omega

/-- The name of the axis, in ASCII letters of any case. -/
def Names (name : List Char) (axis : Axis) : Prop :=
  List.Forall₂ SameLetter name axis.name.toList

theorem names_iff {name : List Char} {axis : Axis} :
    Names name axis ↔ String.ofList (name.map Char.toLower) = axis.name := by
  have hsmall : axis.name.toList.map Char.toLower = axis.name.toList := by
    cases axis <;> decide
  calc Names name axis
    _ ↔ List.Forall₂ (fun c d => c.toLower = d.toLower) name axis.name.toList := by
      simp only [Names, toLower_eq_iff]
    _ ↔ name.map Char.toLower = axis.name.toList.map Char.toLower := by
      rw [← List.forall₂_eq_eq_eq, List.forall₂_map_left_iff, List.forall₂_map_right_iff]
    _ ↔ String.ofList (name.map Char.toLower) = axis.name := by
      rw [hsmall, ← String.toList_inj, String.toList_ofList]

/-! ### Angles -/

namespace Text

/-- **The text is a number**: digits in base ten, at least one, and perhaps a plus sign before them. -/
def IsNumeral (text : List Char) (n : Nat) : Prop :=
  ∃ sign digits, (sign = [] ∨ sign = ['+']) ∧ text = sign ++ digits ∧ digits ≠ [] ∧
    (∀ c ∈ digits, c.isDigit) ∧ Nat.ofDigitChars 10 digits 0 = n

theorem digitsValue_eq (digits : List Char) : digitsValue digits = Nat.ofDigitChars 10 digits 0 := by
  simp only [digitsValue, Nat.ofDigitChars, Nat.mul_comm]

theorem digits_iff {digits : List Char} {n : Nat} :
    (if digits ≠ [] ∧ digits.all Char.isDigit then some (digitsValue digits) else none) = some n ↔
      digits ≠ [] ∧ (∀ c ∈ digits, c.isDigit) ∧ Nat.ofDigitChars 10 digits 0 = n := by
  rw [Option.ite_none_right_eq_some, List.all_eq_true, Option.some_inj, digitsValue_eq, and_assoc]

/-- **A text is read as the number that it is.** -/
theorem unsigned?_eq_some_iff {text : List Char} {n : Nat} :
    unsigned? text = some n ↔ IsNumeral text n := by
  by_cases hsign : ∃ rest, text = '+' :: rest
  · obtain ⟨rest, rfl⟩ := hsign
    refine digits_iff.trans ⟨fun h => ⟨['+'], rest, Or.inr rfl, rfl, h⟩, ?_⟩
    rintro ⟨sign, digits, rfl | rfl, htext, h⟩
    · -- A plus sign is no digit.
      have hplus : '+' ∈ digits := by
        rw [← show '+' :: rest = digits from htext]
        exact List.mem_cons_self
      exact absurd (h.2.1 '+' hplus) (by decide)
    · cases htext
      exact h
  · have hbare : ∀ rest, text ≠ '+' :: rest := fun rest heq => hsign ⟨rest, heq⟩
    simp only [unsigned?]
    refine digits_iff.trans ⟨fun h => ⟨[], text, Or.inl rfl, rfl, h⟩, ?_⟩
    rintro ⟨sign, digits, rfl | rfl, rfl, h⟩
    · exact h
    · exact absurd rfl (hbare digits)

end Text

namespace Simulator.Change

open Text (IsNumeral)

variable {text name angle : List Char} {axis : Axis} {rotation : Rotation}

/-! ### The two parts -/

theorem parseAxis_of_names (h : Names name axis) : parseAxis name = .ok axis := by
  rw [parseAxis, lower, names_iff.mp h, Axis.ofName?_name]

theorem parseAxis_of_unknown (h : ∀ axis, ¬ Names name axis) :
    parseAxis name = .error (.unknownAxis (lower name)) := by
  have hnone : Axis.ofName? (lower name) = none := by
    refine List.find?_eq_none.mpr fun axis _ hname => h axis (names_iff.mpr ?_)
    exact (of_decide_eq_true hname).symm
  rw [parseAxis, hnone]

theorem parseRotation_of_numeral {n : Nat} (h : IsNumeral angle n) (small : n < 2 ^ 32) :
    parseRotation angle = match Rotation.ofDegrees? n with
      | some rotation => .ok rotation
      | none => .error (.noRotation n) := by
  rw [parseRotation, Text.unsigned?_eq_some_iff.mpr h]
  exact if_neg (by omega)

theorem parseRotation_of_not (h : ∀ n < 2 ^ 32, ¬ IsNumeral angle n) :
    parseRotation angle = .error (.notANumber (String.ofList angle)) := by
  unfold parseRotation
  split
  next => rfl
  next n hn =>
    have hlarge : ¬ n < 2 ^ 32 := fun hsmall => h n hsmall (Text.unsigned?_eq_some_iff.mp hn)
    rw [if_pos (by omega)]

/-- A text is split at its first colon. -/
theorem parse_split (h : ':' ∉ name) : parse (String.ofList (name ++ ':' :: angle)) =
    (do return ⟨← parseAxis name, ← parseRotation angle⟩ : Except Error Change) := by
  have hall : ∀ c ∈ name, decide (c ≠ ':') = true := by
    intro c hc
    exact decide_eq_true fun heq => h (heq ▸ hc)
  unfold parse
  simp only [String.toList_ofList]
  rw [List.dropWhile_append_of_pos hall, List.takeWhile_append_of_pos hall]
  simp

/-! ### The grammar -/

/-- **What comes of a text**: a change, or what is wrong with it first. -/
inductive Verdict : String → Except String Change → Prop
  /-- There is no colon. -/
  | noColon (text : String) (absent : ':' ∉ text.toList) :
    Verdict text (.error ("expected axis:degrees, got `" ++ text ++ "`"))
  /-- What stands before the first colon names no axis. -/
  | unknownAxis (name angle : List Char) (first : ':' ∉ name) (unknown : ∀ axis, ¬ Names name axis) :
    Verdict (String.ofList (name ++ ':' :: angle))
      (.error ("unknown axis `" ++ String.ofList (name.map Char.toLower) ++ "`"))
  /-- What stands behind the first colon is no number of 32 bits. -/
  | notANumber (name angle : List Char) (axis : Axis) (first : ':' ∉ name) (known : Names name axis)
    (other : ∀ n < 2 ^ 32, ¬ IsNumeral angle n) :
    Verdict (String.ofList (name ++ ':' :: angle))
      (.error ("rotation `" ++ String.ofList angle ++ "` is not a number"))
  /-- The number is not the angle of a rotation. -/
  | noRotation (name angle : List Char) (axis : Axis) (n : Nat) (first : ':' ∉ name)
    (known : Names name axis) (number : IsNumeral angle n) (small : n < 2 ^ 32)
    (other : ∀ rotation : Rotation, n ≠ rotation.degrees) :
    Verdict (String.ofList (name ++ ':' :: angle))
      (.error ("rotation must be 0, 90, 180 or 270, got " ++ toString n))
  /-- Both parts are as they should be. -/
  | change (name angle : List Char) (axis : Axis) (rotation : Rotation) (first : ':' ∉ name)
    (known : Names name axis) (number : IsNumeral angle rotation.degrees) :
    Verdict (String.ofList (name ++ ':' :: angle)) (.ok ⟨axis, rotation⟩)

/-- Every text has a verdict: the first of the five that fits. -/
theorem exists_verdict (text : String) : ∃ result, Verdict text result := by
  by_cases hcolon : ':' ∈ text.toList
  · obtain ⟨name, angle, htext, first⟩ := List.eq_append_cons_of_mem hcolon
    obtain rfl : text = String.ofList (name ++ ':' :: angle) := by
      rw [← htext, String.ofList_toList]
    by_cases hknown : ∃ axis, Names name axis
    · obtain ⟨axis, known⟩ := hknown
      by_cases hnumber : ∃ n < 2 ^ 32, IsNumeral angle n
      · obtain ⟨n, small, number⟩ := hnumber
        by_cases hangle : ∃ rotation : Rotation, n = rotation.degrees
        · obtain ⟨rotation, rfl⟩ := hangle
          exact ⟨_, .change name angle axis rotation first known number⟩
        · have hother : ∀ rotation : Rotation, n ≠ rotation.degrees := fun rotation heq =>
            hangle ⟨rotation, heq⟩
          exact ⟨_, .noRotation name angle axis n first known number small hother⟩
      · have hnone : ∀ n < 2 ^ 32, ¬ IsNumeral angle n := fun n small number =>
          hnumber ⟨n, small, number⟩
        exact ⟨_, .notANumber name angle axis first known hnone⟩
    · have hunknown : ∀ axis, ¬ Names name axis := fun axis known => hknown ⟨axis, known⟩
      exact ⟨_, .unknownAxis name angle first hunknown⟩
  · exact ⟨_, .noColon text hcolon⟩

theorem Verdict.parse_eq {text : String} {result : Except String Change} (h : Verdict text result) :
    (parse text).mapError Error.message = result := by
  cases h with
  | noColon _ absent =>
    have hall : text.toList.dropWhile (· ≠ ':') = [] := by
      exact List.dropWhile_eq_nil_iff.mpr fun c hc => decide_eq_true fun heq => absent (heq ▸ hc)
    rw [parse, hall]
    rfl
  | unknownAxis name angle first unknown =>
    rw [parse_split first, parseAxis_of_unknown unknown]
    rfl
  | notANumber name angle axis first known other =>
    rw [parse_split first, parseAxis_of_names known, parseRotation_of_not other]
    rfl
  | noRotation name angle axis n first known number small other =>
    have hnone : Rotation.ofDegrees? n = none :=
      Option.eq_none_iff_forall_ne_some.mpr fun rotation h =>
        other rotation (Rotation.ofDegrees?_eq_some_iff.mp h)
    rw [parse_split first, parseAxis_of_names known, parseRotation_of_numeral number small, hnone]
    rfl
  | change name angle axis rotation first known number =>
    have hsmall : rotation.degrees < 2 ^ 32 := by cases rotation <;> decide
    rw [parse_split first, parseAxis_of_names known, parseRotation_of_numeral number hsmall,
      Rotation.ofDegrees?_degrees]
    rfl

/-- **Reading a change follows the grammar**: for every text it comes to the verdict on it, and there
is one verdict. -/
theorem parse_eq_iff {text : String} {result : Except String Change} :
    (parse text).mapError Error.message = result ↔ Verdict text result := by
  constructor
  · rintro rfl
    obtain ⟨result, h⟩ := exists_verdict text
    rw [h.parse_eq]
    exact h
  · exact Verdict.parse_eq

example : parse "Portrait:+00270" = .ok ⟨.portrait, .deg270⟩ := by decide

end Simulator.Change

end PlatformBridge
