import PlatformBridge.Json.Skip
import PlatformBridge.Proofs.Json.Spelling

/-!
# The grammar of documents

What may stand in a document as a value, whatever it is a value of: the blanks, the escapes and the
numerals of every kind are here, and not only those that are written.

* `Inside body` — the text may stand between the quotes of a string;
* `SpellsChars chars body` — it spells the characters; a text that pairs no units may stand in a string
  but spells none;
* `IsNumeral text` — the text is a numeral;
* `IsValue text`, `IsItems`, `IsMembers` — the text is a value, or stands between the brackets of one;
* `IsMembers.ends`, `IsItems.ends` — behind a value between brackets no numeral goes on.
-/

namespace PlatformBridge.Json

/-! ### Strings -/

/-- The character stands for itself between quotes. -/
def IsPlain (c : Char) : Prop := c ≠ '"' ∧ c ≠ '\\' ∧ 32 ≤ c.toNat

/-- **The text may stand between the quotes of a string.** -/
inductive Inside : List Char → Prop
  | nil : Inside []
  | plain {c : Char} {body : List Char} (plain : IsPlain c) (h : Inside body) : Inside (c :: body)
  | letter {l c : Char} {body : List Char} (escape : escapeLetter? l = some c) (h : Inside body) :
    Inside ('\\' :: l :: body)
  | unit {a b c d : Char} {unit : Nat} {body : List Char} (digits : hexUnit? [a, b, c, d] = some unit)
    (h : Inside body) : Inside ('\\' :: 'u' :: a :: b :: c :: d :: body)

/-- **The text between quotes spells the characters.** A unit of an escape is a character or half of
a pair. -/
inductive SpellsChars : List Char → List Char → Prop
  | nil : SpellsChars [] []
  | plain {c : Char} {chars body : List Char} (plain : IsPlain c) (h : SpellsChars chars body) :
    SpellsChars (c :: chars) (c :: body)
  | letter {l c : Char} {chars body : List Char} (escape : escapeLetter? l = some c)
    (h : SpellsChars chars body) : SpellsChars (c :: chars) ('\\' :: l :: body)
  | unit {a b c d : Char} {unit : Nat} {chars body : List Char}
    (digits : hexUnit? [a, b, c, d] = some unit) (notHigh : isHighSurrogate unit = false)
    (notLow : isLowSurrogate unit = false) (h : SpellsChars chars body) :
    SpellsChars (Char.ofNat unit :: chars) ('\\' :: 'u' :: a :: b :: c :: d :: body)
  | pair {a b c d a' b' c' d' : Char} {high low : Nat} {chars body : List Char}
    (digits : hexUnit? [a, b, c, d] = some high) (isHigh : isHighSurrogate high = true)
    (digits' : hexUnit? [a', b', c', d'] = some low) (isLow : isLowSurrogate low = true)
    (h : SpellsChars chars body) : SpellsChars (pairedChar high low :: chars)
      ('\\' :: 'u' :: a :: b :: c :: d :: '\\' :: 'u' :: a' :: b' :: c' :: d' :: body)

theorem SpellsChars.inside {chars body : List Char} (h : SpellsChars chars body) : Inside body := by
  induction h with
  | nil => exact .nil
  | plain plain _ ih => exact .plain plain ih
  | letter escape _ ih => exact .letter escape ih
  | unit digits _ _ _ ih => exact .unit digits ih
  | pair digits _ digits' _ _ ih => exact .unit digits (.unit digits' ih)

/-- The text between the quotes of a key spells the key, or nothing if it pairs no units. -/
def IsKey : Option String → List Char → Prop
  | some key, body => SpellsChars key.toList body
  | none, body => Inside body ∧ ∀ chars, ¬ SpellsChars chars body

theorem IsKey.inside {key : Option String} {body : List Char} (h : IsKey key body) : Inside body := by
  cases key with
  | some key => exact SpellsChars.inside h
  | none => exact h.1

/-! ### Numerals -/

def IsDigits (text : List Char) : Prop := ∀ c ∈ text, isDigit c = true

/-- The digits before the point: a single zero, or digits that start with another. -/
def IsWhole (text : List Char) : Prop :=
  text = ['0'] ∨ ∃ c digits, text = c :: digits ∧ isDigit c = true ∧ c ≠ '0' ∧ IsDigits digits

/-- The point and the digits behind it, if any. -/
def IsFraction (text : List Char) : Prop :=
  text = [] ∨ ∃ digits, text = '.' :: digits ∧ digits ≠ [] ∧ IsDigits digits

def IsExponent (text : List Char) : Prop :=
  text = [] ∨ ∃ letter sign digits, text = letter :: (sign ++ digits) ∧
    (letter = 'e' ∨ letter = 'E') ∧ (sign = [] ∨ sign = ['+'] ∨ sign = ['-']) ∧ digits ≠ [] ∧
      IsDigits digits

/-- **The text is a numeral.** -/
def IsNumeral (text : List Char) : Prop :=
  ∃ sign whole fraction exponent, text = sign ++ (whole ++ (fraction ++ exponent)) ∧
    (sign = [] ∨ sign = ['-']) ∧ IsWhole whole ∧ IsFraction fraction ∧ IsExponent exponent

/-! ### Values -/

/-- Members: the key of each, if it spells one, and the text of its value. -/
abbrev Members : Type := List (Option String × List Char)

mutual

/-- **The text is a value.** -/
inductive IsValue : List Char → Prop
  | null : IsValue ['n', 'u', 'l', 'l']
  | yes : IsValue ['t', 'r', 'u', 'e']
  | no : IsValue ['f', 'a', 'l', 's', 'e']
  | number {text : List Char} (h : IsNumeral text) : IsValue text
  | string {body : List Char} (h : Inside body) : IsValue ('"' :: (body ++ ['"']))
  | list {items : List (List Char)} {text : List Char} (h : IsItems true items text) :
    IsValue ('[' :: (text ++ [']']))
  | object {members : Members} {text : List Char}
    (h : IsMembers true members text) : IsValue ('\x7b' :: (text ++ ['\x7d']))

/-- The text has the items that are left, the first one or others before them. -/
inductive IsItems : (first : Bool) → List (List Char) → List Char → Prop
  | done {first : Bool} {blanks : List Char} (h : Blanks blanks) : IsItems first [] blanks
  | item {first : Bool} {before between text more : List Char} {items : List (List Char)}
    (hbefore : Blanks before) (hbetween : Blanks between) (hvalue : IsValue text)
    (hmore : IsItems false items more) :
    IsItems first (text :: items) (before ++ (separator first ++ (between ++ (text ++ more))))

/-- The text has the members that are left, each with its key and its value. -/
inductive IsMembers : (first : Bool) → Members → List Char → Prop
  | done {first : Bool} {blanks : List Char} (h : Blanks blanks) : IsMembers first [] blanks
  | member {first : Bool} {before between body behind ahead text more : List Char}
    {key : Option String} {members : Members} (hbefore : Blanks before)
    (hbetween : Blanks between) (hkey : IsKey key body) (hbehind : Blanks behind)
    (hahead : Blanks ahead) (hvalue : IsValue text) (hmore : IsMembers false members more) :
    IsMembers first ((key, text) :: members)
      (before ++ (separator first ++ (between ++ ('"' :: (body ++ '"' ::
        (behind ++ ':' :: (ahead ++ (text ++ more))))))))

end

theorem IsNumeral.exists_cons {text : List Char} (h : IsNumeral text) :
    ∃ c tail, text = c :: tail ∧ startsNumeral c = true := by
  obtain ⟨sign, whole, fraction, exponent, rfl, rfl | rfl, hwhole, -, -⟩ := h
  · obtain rfl | ⟨c, digits, rfl, hc, -, -⟩ := hwhole
    · exact ⟨'0', _, rfl, rfl⟩
    · exact ⟨c, _, rfl, by rw [startsNumeral, hc, Bool.or_true]⟩
  · exact ⟨'-', _, rfl, rfl⟩

theorem ne_of_startsNumeral {c d : Char} (h : startsNumeral c = true) (hd : startsNumeral d = false) :
    c ≠ d := by
  rintro rfl
  rw [h] at hd
  cases hd

theorem isSpace_of_startsNumeral {c : Char} (h : startsNumeral c = true) : isSpace c = false := by
  by_contra hspace
  have hcases : ((c = ' ' ∨ c = '\n') ∨ c = '\t') ∨ c = '\r' := by
    simpa [isSpace] using Bool.of_not_eq_false hspace
  rcases hcases with ((rfl | rfl) | rfl) | rfl <;> cases h

/-- A value starts with a character that is no blank and closes no bracket. -/
theorem IsValue.exists_cons {text : List Char} (h : IsValue text) :
    ∃ c tail, text = c :: tail ∧ isSpace c = false ∧ c ≠ ']' := by
  cases h with
  | null => exact ⟨'n', _, rfl, rfl, by decide⟩
  | yes => exact ⟨'t', _, rfl, rfl, by decide⟩
  | no => exact ⟨'f', _, rfl, rfl, by decide⟩
  | number h =>
    obtain ⟨c, tail, rfl, hc⟩ := h.exists_cons
    exact ⟨c, tail, rfl, isSpace_of_startsNumeral hc, ne_of_startsNumeral hc rfl⟩
  | string => exact ⟨'"', _, rfl, rfl, by decide⟩
  | list => exact ⟨'[', _, rfl, rfl, by decide⟩
  | object => exact ⟨'\x7b', _, rfl, rfl, by decide⟩

theorem IsValue.skipSpace_eq {blanks text : List Char} (h : IsValue text) (hblanks : Blanks blanks)
    (rest : List Char) : skipSpace (blanks ++ (text ++ rest)) = text ++ rest := by
  obtain ⟨c, tail, rfl, hc, -⟩ := h.exists_cons
  rw [skipSpace_append hblanks, List.cons_append, skipSpace_cons hc]

/-- Behind an item no numeral goes on. -/
theorem IsItems.ends {items : List (List Char)} {more : List Char} (h : IsItems false items more)
    (rest : List Char) : Ends (more ++ ']' :: rest) := by
  cases h with
  | done hblanks => exact hblanks.ends (ends_cons rfl)
  | item hbefore =>
    rw [List.append_assoc]
    exact hbefore.ends (ends_cons rfl)

/-- Behind the value of a member no numeral goes on. -/
theorem IsMembers.ends {members : Members} {more : List Char} (h : IsMembers false members more)
    (rest : List Char) : Ends (more ++ '\x7d' :: rest) := by
  cases h with
  | done hblanks => exact hblanks.ends (ends_cons rfl)
  | member hbefore =>
    rw [List.append_assoc]
    exact hbefore.ends (ends_cons rfl)

end PlatformBridge.Json
