import Mathlib.Data.Nat.Digits.Defs
import PlatformBridge.Json.Number
import PlatformBridge.Json.Value

/-!
# Strings and numbers are read as they were written

Between its quotes a string is written character by character, some of them escaped, and an integer
by its decimal digits.

* `readBody_escapedChar` — reading a character as it was written gives the character, whether it was
  escaped or not;
* `readString_quoted` — so reading a string gives the text that was written;
* `Ends rest` — nothing in `rest` goes on with a numeral;
* `readNumber_digits` — then reading the digits of a number gives the number.
-/

namespace PlatformBridge.Json

/-! ### Strings -/

theorem hexValue?_hexDigit {n : Nat} (h : n < 16) : hexValue? (hexDigit n) = some n := by
  have hall : ∀ k : Fin 16, hexValue? (hexDigit k.val) = some k.val := by decide
  exact hall ⟨n, h⟩

theorem hexUnit_control {n : Nat} (h : n < 32) (rest : List Char) :
    hexUnit ('0' :: '0' :: hexDigit (n / 16) :: hexDigit (n % 16) :: rest) = .ok n := by
  have hzero : hexValue? '0' = some 0 := by decide
  have hhigh : hexValue? (hexDigit (n / 16)) = some (n / 16) := hexValue?_hexDigit (by omega)
  have hlow : hexValue? (hexDigit (n % 16)) = some (n % 16) := hexValue?_hexDigit (by omega)
  have hsum : n / 16 * 16 + n % 16 = n := by omega
  simp [hexUnit, hexUnit?, hzero, hhigh, hlow, hsum]

theorem readBody_skip (spelled more : List Char) :
    readBody spelled.length (spelled ++ more) = readBody 0 more := by
  induction spelled with
  | nil => rfl
  | cons c spelled ih =>
    rw [List.length_cons, List.cons_append, readBody]
    exact ih

theorem readBody_escape {c : Char} (spelled : List Char) {more : List Char}
    (h : readEscape (spelled ++ more) = .ok (c, spelled.length)) :
    readBody 0 ('\\' :: (spelled ++ more)) = (readBody 0 more).map (Prod.map (c :: ·) id) := by
  have hquote : ¬ '\\' = '"' := by decide
  rw [readBody, if_neg hquote, if_pos rfl, h]
  change (readBody spelled.length (spelled ++ more) >>= fun _ => _) = _
  rw [readBody_skip]
  cases readBody 0 more <;> rfl

theorem readEscape_control {c : Char} (h : c.toNat < 32) (rest : List Char) :
    readEscape ('u' :: '0' :: '0' :: hexDigit (c.toNat / 16) :: hexDigit (c.toNat % 16) :: rest) =
      .ok (c, 5) := by
  have hlow : isLowSurrogate c.toNat = false := by
    unfold isLowSurrogate
    simp only [Bool.and_eq_false_iff, decide_eq_false_iff_not]
    omega
  have hhigh : isHighSurrogate c.toNat = false := by
    unfold isHighSurrogate
    simp only [Bool.and_eq_false_iff, decide_eq_false_iff_not]
    omega
  have hunit : readUnicodeEscape
      ('0' :: '0' :: hexDigit (c.toNat / 16) :: hexDigit (c.toNat % 16) :: rest) = .ok (c, 4) := by
    unfold readUnicodeEscape
    rw [hexUnit_control h]
    simp [hlow, hhigh, Char.ofNat_toNat, pure, Except.pure, bind, Except.bind]
  rw [readEscape, hunit]
  rfl

/-- **Reading a character as it was written gives the character.** -/
theorem readBody_escapedChar (c : Char) (more : List Char) :
    readBody 0 (escapedChar c ++ more) = (readBody 0 more).map (Prod.map (c :: ·) id) := by
  unfold escapedChar
  -- The seven characters with a letter of their own come first, as they do when writing.
  by_cases hquote : c = '"'
  · rw [if_pos hquote, hquote]
    exact readBody_escape ['"'] rfl
  by_cases hbackslash : c = '\\'
  · rw [if_neg hquote, if_pos hbackslash, hbackslash]
    exact readBody_escape ['\\'] rfl
  by_cases hnewline : c = '\n'
  · subst hnewline
    exact readBody_escape ['n'] rfl
  by_cases hreturn : c = '\r'
  · subst hreturn
    exact readBody_escape ['r'] rfl
  by_cases htab : c = '\t'
  · subst htab
    exact readBody_escape ['t'] rfl
  by_cases hbackspace : c = '\u0008'
  · subst hbackspace
    exact readBody_escape ['b'] rfl
  by_cases hfeed : c = '\u000c'
  · subst hfeed
    exact readBody_escape ['f'] rfl
  rw [if_neg hquote, if_neg hbackslash, if_neg hnewline, if_neg hreturn, if_neg htab,
    if_neg hbackspace, if_neg hfeed]
  by_cases hcontrol : c.toNat < 32
  · rw [if_pos hcontrol]
    exact readBody_escape ['u', '0', '0', hexDigit (c.toNat / 16), hexDigit (c.toNat % 16)]
      (readEscape_control hcontrol more)
  · rw [if_neg hcontrol]
    change readBody 0 (c :: more) = _
    rw [readBody, if_neg hquote, if_neg hbackslash, if_neg hcontrol]
    cases readBody 0 more <;> rfl

theorem readBody_quoted (text rest : List Char) :
    readBody 0 (text.flatMap escapedChar ++ '"' :: rest) = .ok (text, rest) := by
  induction text with
  | nil => rfl
  | cons c text ih =>
    rw [List.flatMap_cons, List.append_assoc, readBody_escapedChar, ih]
    rfl

/-- **Reading a string gives the text that was written.** -/
theorem readString_quoted (s : String) (rest : List Char) :
    readString (s.toList.flatMap escapedChar ++ '"' :: rest) = .ok (s, rest) := by
  unfold readString
  rw [readBody_quoted]
  change Except.ok (String.ofList s.toList, rest) = _
  rw [String.ofList_toList]

/-! ### Numbers -/

def continuesNumeral (c : Char) : Bool := isDigit c || c = '.' || c = 'e' || c = 'E'

/-- **A numeral ends here**: what is left does not go on with it. -/
def Ends (rest : List Char) : Prop := ∀ c, rest.head? = some c → continuesNumeral c = false

theorem ends_nil : Ends [] := by
  intro c hc
  cases hc

theorem ends_cons {c : Char} {rest : List Char} (h : continuesNumeral c = false) :
    Ends (c :: rest) := by
  intro d hd
  cases hd
  exact h

theorem isDigit_eq (c : Char) : isDigit c = c.isDigit := by
  simp only [isDigit, Char.isDigit, ge_iff_le]
  rfl

section

variable {n : Nat} {rest : List Char}

theorem isDigit_of_mem_digits {c : Char} (h : c ∈ Value.digits n) : isDigit c = true := by
  rw [isDigit_eq]
  exact Nat.isDigit_of_mem_toDigits (by omega) (by omega) h

/-- No digit comes first. -/
def NoDigit (rest : List Char) : Prop := ∀ c, rest.head? = some c → isDigit c = false

theorem Ends.noDigit (h : Ends rest) : NoDigit rest := by
  intro c hc
  have hfalse := h c hc
  simp only [continuesNumeral, Bool.or_eq_false_iff] at hfalse
  exact hfalse.1.1.1

theorem spanDigits_append {digits : List Char} (hdigits : ∀ c ∈ digits, isDigit c = true)
    (h : NoDigit rest) : spanDigits (digits ++ rest) = (digits, rest) := by
  have htake : rest.takeWhile isDigit = [] := by
    cases rest with
    | nil => rfl
    | cons c rest => rw [List.takeWhile_cons, h c rfl]; rfl
  have hdrop : rest.dropWhile isDigit = rest := by
    cases rest with
    | nil => rfl
    | cons c rest => rw [List.dropWhile_cons, h c rfl]; rfl
  rw [spanDigits, List.takeWhile_append_of_pos hdigits, List.dropWhile_append_of_pos hdigits, htake,
    hdrop, List.append_nil]

theorem exists_digits_cons (n : Nat) : ∃ c digits, Value.digits n = c :: digits :=
  List.exists_cons_of_ne_nil Nat.toDigits_ne_nil

theorem head_digits_ne_zero (h : 0 < n) : (Value.digits n).head? ≠ some '0' := by
  induction n using Nat.strongRecOn with
  | ind n ih =>
    unfold Value.digits at ih ⊢
    rw [Nat.toDigits_eq_if (by omega)]
    by_cases hsmall : n < 10
    · have hall : ∀ k : Fin 10, 0 < k.val → [k.val.digitChar].head? ≠ some '0' := by decide
      rw [if_pos hsmall]
      exact hall ⟨n, hsmall⟩ h
    · have hfront := ih (n / 10) (by omega) (by omega)
      obtain ⟨c, digits, hcons⟩ := exists_digits_cons (n / 10)
      unfold Value.digits at hcons
      rw [hcons] at hfront
      rw [if_neg hsmall, hcons]
      exact hfront

theorem readWhole_digits (atEnd : Cause) (h : Ends rest) :
    readWhole atEnd (Value.digits n ++ rest) = .ok (Value.digits n, rest) := by
  by_cases hzero : n = 0
  · subst hzero
    change readWhole atEnd ('0' :: rest) = .ok (['0'], rest)
    cases rest with
    | nil => rfl
    | cons d rest => simp [readWhole, h.noDigit d rfl]
  · obtain ⟨c, digits, hdigits⟩ := exists_digits_cons n
    have hall : ∀ d ∈ c :: digits, isDigit d = true := by
      rw [← hdigits]
      exact fun d => isDigit_of_mem_digits
    have hc : ¬ c = '0' := by
      have hhead := head_digits_ne_zero (Nat.pos_of_ne_zero hzero)
      rw [hdigits] at hhead
      exact fun heq => hhead (congrArg some heq)
    have hspan : spanDigits (digits ++ rest) = (digits, rest) :=
      spanDigits_append (fun d hd => hall d (List.mem_cons_of_mem _ hd)) h.noDigit
    have hfirst : isDigit c = true := hall c List.mem_cons_self
    rw [hdigits, List.cons_append]
    simp only [readWhole, hc, hfirst, hspan, if_true, if_false]

theorem readFraction_of_ends (atEnd : Cause) (h : Ends rest) :
    readFraction atEnd rest = .ok (none, rest) := by
  unfold readFraction
  split
  · have hpoint := h '.' rfl
    cases hpoint
  · rfl

theorem readExponent_of_ends (atEnd : Cause) (h : Ends rest) :
    readExponent atEnd rest = .ok (none, rest) := by
  cases rest with
  | nil => rfl
  | cons c rest =>
    have hc : ¬ (c = 'e' ∨ c = 'E') := by
      have hfalse := h c rfl
      simp only [continuesNumeral, Bool.or_eq_false_iff, decide_eq_false_iff_not] at hfalse
      exact fun heq => heq.elim hfalse.1.2 hfalse.2
    simp only [readExponent, hc, if_false]

/-- A number is read as the numeral of its digits. -/
theorem readNumeral_digits (atEnd : Cause) (h : Ends rest) :
    readNumeral atEnd (Value.digits n ++ rest) =
      .ok (⟨false, Value.digits n, none, none⟩, rest) := by
  have hunsigned : readUnsigned atEnd false (Value.digits n ++ rest) =
      .ok (⟨false, Value.digits n, none, none⟩, rest) := by
    unfold readUnsigned
    rw [readWhole_digits atEnd h]
    change (readFraction atEnd rest >>= _) = _
    rw [readFraction_of_ends atEnd h]
    change (readExponent atEnd rest >>= _) = _
    rw [readExponent_of_ends atEnd h]
    rfl
  unfold readNumeral
  split
  · -- No number starts with a sign.
    rename_i text heq
    obtain ⟨c, digits, hdigits⟩ := exists_digits_cons n
    have hdigit : isDigit c = true := isDigit_of_mem_digits (hdigits ▸ List.mem_cons_self)
    rw [hdigits] at heq
    cases heq
    cases hdigit
  · exact hunsigned

/-- Digits are absorbed in full as long as they stay below the bound. -/
theorem absorb_eq {bound : Nat} {digits : List Char} {start : Nat}
    (h : Nat.ofDigitChars 10 digits start < bound) :
    absorb bound start digits = (Nat.ofDigitChars 10 digits start, 0) := by
  induction digits generalizing start with
  | nil => rfl
  | cons d digits ih =>
    have hvalue : 10 * start + (d.toNat - '0'.toNat) = start * 10 + digitValue d := by
      rw [Nat.mul_comm]
      rfl
    rw [Nat.ofDigitChars_cons, hvalue] at h ⊢
    have hgrows : start * 10 + digitValue d ≤
        Nat.ofDigitChars 10 digits (start * 10 + digitValue d) := by
      rw [Nat.ofDigitChars_eq_ofDigitChars_zero]
      have hpow : 0 < 10 ^ digits.length := Nat.pow_pos (by omega)
      have := Nat.le_mul_of_pos_left (start * 10 + digitValue d) hpow
      omega
    have hbelow : start * 10 + digitValue d < bound := Nat.lt_of_le_of_lt hgrows h
    rw [absorb, if_pos hbelow]
    exact ih h

theorem integer?_digits (h : n < wordBound) :
    Numeral.integer? ⟨false, Value.digits n, none, none⟩ = some (n : Int) := by
  have hvalue : Nat.ofDigitChars 10 (Value.digits n) 0 = n := Nat.ofDigitChars_ten_toDigits
  have habsorb : absorb wordBound 0 (Value.digits n) = (n, 0) := by
    rw [absorb_eq (by rw [hvalue]; exact h), hvalue]
  simp [Numeral.integer?, habsorb]

/-- **Reading the digits of a number gives the number**, if it has 64 bits at most. -/
theorem readNumber_digits (hn : n < wordBound) (h : Ends rest) :
    readNumber (Value.digits n ++ rest) = .ok (.integer n, rest) := by
  unfold readNumber
  rw [readNumeral_digits .endInValue h]
  change (Numeral.value ⟨false, Value.digits n, none, none⟩ rest >>= _) = _
  unfold Numeral.value
  rw [integer?_digits hn]
  rfl

end

end PlatformBridge.Json
