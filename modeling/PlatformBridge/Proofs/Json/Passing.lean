import PlatformBridge.Proofs.Json.Grammar

/-!
# Values are passed over

Passing over a value whose content does not matter takes exactly the value, whatever it is and however
deep its brackets are nested.

* `skipBody_inside` — passing over a string;
* `exists_numeral` — every numeral is taken apart, into the same parts whatever follows;
* `Passes n t s rest t' s' rest'` — in `n` steps passing over goes from one point to another;
* `passes_value`, `passes_items`, `passes_members` — what passing over takes, and that the steps are
  fewer than twice the characters;
* `skipValue_value` — so the budget is enough.
-/

namespace PlatformBridge.Json

/-! ### Strings -/

theorem hexUnit_eq {a b c d : Char} {unit : Nat} (h : hexUnit? [a, b, c, d] = some unit)
    (rest : List Char) : hexUnit (a :: b :: c :: d :: rest) = .ok unit := by
  have hdigits : hexUnit? (a :: b :: c :: d :: rest) = some unit := h
  rw [hexUnit, hdigits]

theorem ne_of_escapeLetter? {l c : Char} (h : escapeLetter? l = some c) : l ≠ 'u' := by
  rintro rfl
  cases h

/-- **Passing over a string** takes what stands between its quotes. -/
theorem skipBody_inside {body : List Char} (h : Inside body) (rest : List Char) :
    skipBody 0 (body ++ '"' :: rest) = .ok rest := by
  have hescape : ¬ '\\' = '"' := by decide
  induction h with
  | nil => rfl
  | plain hc _ ih =>
    rw [List.cons_append, skipBody, if_neg hc.1, if_neg hc.2.1, if_neg (Nat.not_lt.mpr hc.2.2), ih]
  | @letter l c body escape _ ih =>
    have hl : l ≠ 'u' := ne_of_escapeLetter? escape
    have hskip : skipEscape (l :: (body ++ '"' :: rest)) = .ok 1 := by
      simp only [skipEscape, escape]
    rw [List.cons_append, List.cons_append, skipBody, if_neg hescape, if_pos rfl, hskip]
    exact ih
  | @unit a b c d unit body digits _ ih =>
    have hskip : skipEscape ('u' :: a :: b :: c :: d :: (body ++ '"' :: rest)) = .ok 5 := by
      rw [skipEscape, hexUnit_eq digits]
      rfl
    simp only [List.cons_append]
    rw [skipBody, if_neg hescape, if_pos rfl, hskip]
    exact ih

/-! ### Numerals -/

section

variable {rest : List Char}

theorem readWhole_whole {whole : List Char} (h : IsWhole whole) (atEnd : Cause) (hrest : NoDigit rest) :
    readWhole atEnd (whole ++ rest) = .ok (whole, rest) := by
  obtain rfl | ⟨c, digits, rfl, hc, hzero, hdigits⟩ := h
  · change readWhole atEnd ('0' :: rest) = _
    cases rest with
    | nil => rfl
    | cons d rest => simp [readWhole, hrest d rfl]
  · rw [List.cons_append]
    simp only [readWhole, hzero, hc, spanDigits_append hdigits hrest, if_true, if_false]

theorem noDigit_of_head {c : Char} {rest : List Char} (h : isDigit c = false) :
    NoDigit (c :: rest) := by
  intro d hd
  cases hd
  exact h

theorem IsExponent.noDigit {exponent : List Char} (h : IsExponent exponent) (hrest : Ends rest) :
    NoDigit (exponent ++ rest) := by
  obtain rfl | ⟨letter, sign, digits, rfl, rfl | rfl, -⟩ := h
  · exact hrest.noDigit
  · exact noDigit_of_head rfl
  · exact noDigit_of_head rfl

theorem IsFraction.noDigit {fraction : List Char} (h : IsFraction fraction) (hrest : NoDigit rest) :
    NoDigit (fraction ++ rest) := by
  obtain rfl | ⟨digits, rfl, -⟩ := h
  · exact hrest
  · exact noDigit_of_head rfl

theorem exists_fraction {fraction exponent : List Char} (h : IsFraction fraction)
    (hexponent : IsExponent exponent) : ∃ digits, (digits = none → fraction = []) ∧
      ∀ atEnd rest, Ends rest →
        readFraction atEnd (fraction ++ (exponent ++ rest)) = .ok (digits, exponent ++ rest) := by
  obtain rfl | ⟨digits, rfl, hne, hdigits⟩ := h
  · refine ⟨none, fun _ => rfl, fun atEnd rest hrest => ?_⟩
    obtain rfl | ⟨letter, sign, digits, rfl, rfl | rfl, -⟩ := hexponent
    · exact readFraction_of_ends atEnd hrest
    · rfl
    · rfl
  · refine ⟨some digits, nofun, fun atEnd rest hrest => ?_⟩
    have hspan : spanDigits (digits ++ (exponent ++ rest)) = (digits, exponent ++ rest) :=
      spanDigits_append hdigits (hexponent.noDigit hrest)
    obtain ⟨d, digits, rfl⟩ := List.exists_cons_of_ne_nil hne
    rw [List.cons_append, readFraction, hspan]

theorem readExponentDigits_digits {digits : List Char} (hne : digits ≠ []) (hdigits : IsDigits digits)
    (atEnd : Cause) (negative : Bool) (hrest : Ends rest) :
    readExponentDigits atEnd negative (digits ++ rest) = .ok (some (negative, digits), rest) := by
  obtain ⟨d, digits, rfl⟩ := List.exists_cons_of_ne_nil hne
  have hspan : spanDigits (digits ++ rest) = (digits, rest) :=
    spanDigits_append (fun c hc => hdigits c (List.mem_cons_of_mem _ hc)) hrest.noDigit
  simp only [List.cons_append, readExponentDigits, hdigits d List.mem_cons_self, hspan, if_true]

theorem exists_exponent {exponent : List Char} (h : IsExponent exponent) : ∃ parts,
    (parts = none → exponent = []) ∧ ∀ atEnd rest, Ends rest →
      readExponent atEnd (exponent ++ rest) = .ok (parts, rest) := by
  obtain rfl | ⟨letter, sign, digits, rfl, hletter, hsign, hne, hdigits⟩ := h
  · exact ⟨none, fun _ => rfl, fun atEnd rest hrest => readExponent_of_ends atEnd hrest⟩
  · obtain rfl | rfl | rfl := hsign
    · refine ⟨some (false, digits), by simp, fun atEnd rest hrest => ?_⟩
      have hread := readExponentDigits_digits hne hdigits atEnd false hrest
      obtain ⟨d, digits, rfl⟩ := List.exists_cons_of_ne_nil hne
      have hd : isDigit d = true := hdigits d List.mem_cons_self
      have hplus : ∀ tail, d :: digits ++ rest ≠ '+' :: tail := by
        rintro tail heq
        cases heq
        cases hd
      have hminus : ∀ tail, d :: digits ++ rest ≠ '-' :: tail := by
        rintro tail heq
        cases heq
        cases hd
      simp only [List.cons_append, List.nil_append, readExponent, hletter, if_true]
        at hread hplus hminus ⊢
      exact hread
    · refine ⟨some (false, digits), by simp, fun atEnd rest hrest => ?_⟩
      have hread := readExponentDigits_digits hne hdigits atEnd false hrest
      simpa only [List.cons_append, List.nil_append, readExponent, hletter, if_true] using hread
    · refine ⟨some (true, digits), by simp, fun atEnd rest hrest => ?_⟩
      have hread := readExponentDigits_digits hne hdigits atEnd true hrest
      simpa only [List.cons_append, List.nil_append, readExponent, hletter, if_true] using hread

theorem readNumeral_unsigned {whole : List Char} (h : IsWhole whole) (atEnd : Cause)
    (more : List Char) :
    readNumeral atEnd (whole ++ more) = readUnsigned atEnd false (whole ++ more) := by
  have hsign : ∀ tail, whole ++ more ≠ '-' :: tail := by
    intro tail heq
    obtain rfl | ⟨c, digits, rfl, hc, -, -⟩ := h
    · cases heq
    · cases heq
      cases hc
  unfold readNumeral
  split
  · rename_i tail heq
    exact absurd heq (hsign tail)
  · rfl

theorem readNumeral_whole {whole : List Char} (h : IsWhole whole) (atEnd : Cause) (hrest : Ends rest) :
    readNumeral atEnd (whole ++ rest) = .ok (⟨false, whole, none, none⟩, rest) := by
  rw [readNumeral_unsigned h]
  simp only [readUnsigned, readWhole_whole h atEnd hrest.noDigit, readFraction_of_ends atEnd hrest,
    readExponent_of_ends atEnd hrest, bind, Except.bind, pure, Except.pure]

/-- **Every numeral is taken apart**, into the same parts whatever follows it. -/
theorem exists_numeral {text : List Char} (h : IsNumeral text) : ∃ numeral : Numeral,
    (numeral.negative = false → numeral.fraction = none → numeral.exponent = none →
      IsWhole text ∧ numeral.whole = text) ∧
    ∀ atEnd rest, Ends rest → readNumeral atEnd (text ++ rest) = .ok (numeral, rest) := by
  obtain ⟨sign, whole, fraction, exponent, rfl, hsign, hwhole, hfraction, hexponent⟩ := h
  obtain ⟨digits, hnoFraction, hdigits⟩ := exists_fraction hfraction hexponent
  obtain ⟨parts, hnoExponent, hparts⟩ := exists_exponent hexponent
  have hunsigned : ∀ negative atEnd rest, Ends rest →
      readUnsigned atEnd negative (whole ++ (fraction ++ (exponent ++ rest))) =
        .ok (⟨negative, whole, digits, parts⟩, rest) := by
    intro negative atEnd rest hrest
    have hnext : NoDigit (fraction ++ (exponent ++ rest)) :=
      hfraction.noDigit (hexponent.noDigit hrest)
    simp only [readUnsigned, readWhole_whole hwhole atEnd hnext, hdigits atEnd rest hrest,
      hparts atEnd rest hrest, bind, Except.bind, pure, Except.pure]
  obtain rfl | rfl := hsign
  · refine ⟨⟨false, whole, digits, parts⟩, fun _ hf he => ?_, fun atEnd rest hrest => ?_⟩
    · rw [hnoFraction hf, hnoExponent he, List.append_nil, List.append_nil, List.nil_append]
      exact ⟨hwhole, rfl⟩
    · simp only [List.nil_append, List.append_assoc]
      rw [readNumeral_unsigned hwhole]
      exact hunsigned false atEnd rest hrest
  · refine ⟨⟨true, whole, digits, parts⟩, nofun, fun atEnd rest hrest => ?_⟩
    simp only [List.append_assoc]
    exact hunsigned true atEnd rest hrest

end

/-! ### Values -/

/-- **In `n` steps passing over goes from one point to another**, whatever budget is left then. -/
def Passes (n : Nat) (turn : Turn) (stack : List Bracket) (text : List Char) (turn' : Turn)
    (stack' : List Bracket) (text' : List Char) : Prop :=
  ∀ budget, skipOpen (budget + n) turn stack text = skipOpen budget turn' stack' text'

theorem Passes.trans {m n : Nat} {turn turn' turn'' : Turn} {stack stack' stack'' : List Bracket}
    {text text' text'' : List Char} (h : Passes m turn stack text turn' stack' text')
    (h' : Passes n turn' stack' text' turn'' stack'' text'') :
    Passes (m + n) turn stack text turn'' stack'' text'' := by
  intro budget
  rw [Nat.add_comm m n, ← Nat.add_assoc, h, h']

section

variable {stack : List Bracket} {blanks rest : List Char}

theorem passes_scalar {c : Char} {tail : List Char} (hblanks : Blanks blanks)
    (hspace : isSpace c = false) (hlist : c ≠ '[') (hobject : c ≠ '\x7b')
    (h : skipScalar c tail = .ok rest) :
    Passes 1 .value stack (blanks ++ c :: tail) .next stack rest := by
  intro budget
  have hskip : skipSpace (blanks ++ c :: tail) = c :: tail := by
    rw [skipSpace_append hblanks, skipSpace_cons hspace]
  simp only [skipOpen, hskip, if_neg hlist, if_neg hobject, h, bind, Except.bind]

theorem passes_number {text : List Char} (h : IsNumeral text) (hblanks : Blanks blanks)
    (hrest : Ends rest) : Passes 1 .value stack (blanks ++ (text ++ rest)) .next stack rest := by
  obtain ⟨numeral, -, hread⟩ := exists_numeral h
  obtain ⟨c, tail, rfl, hc⟩ := h.exists_cons
  have hne : ∀ {d : Char}, startsNumeral d = false → c ≠ d := ne_of_startsNumeral hc
  have hscalar : skipScalar c (tail ++ rest) = .ok rest := by
    have hnumeral : readNumeral .invalidNumber (c :: (tail ++ rest)) = .ok (numeral, rest) :=
      hread .invalidNumber rest hrest
    simp only [skipScalar, if_neg (hne (d := 'n') rfl), if_neg (hne (d := 't') rfl),
      if_neg (hne (d := 'f') rfl), if_neg (hne (d := '"') rfl), hc, if_true, hnumeral, bind,
      Except.bind, pure, Except.pure]
  exact passes_scalar hblanks (isSpace_of_startsNumeral hc) (hne rfl) (hne rfl) hscalar

theorem passes_open {bracket : Bracket} {c : Char} (hblanks : Blanks blanks)
    (h : c = '[' ∧ bracket = .list ∨ c = '\x7b' ∧ bracket = .object) :
    Passes 1 .value stack (blanks ++ c :: rest) .first (bracket :: stack) rest := by
  intro budget
  obtain ⟨rfl, rfl⟩ | ⟨rfl, rfl⟩ := h
  · have hskip : skipSpace (blanks ++ '[' :: rest) = '[' :: rest := skipSpace_append hblanks
    simp only [skipOpen, hskip, if_true]
  · have hskip : skipSpace (blanks ++ '\x7b' :: rest) = '\x7b' :: rest := skipSpace_append hblanks
    have hlist : ¬ '\x7b' = '[' := by decide
    simp only [skipOpen, hskip, if_neg hlist, if_true]

def Turn.inside (first : Bool) : Turn := if first then .first else .next

theorem passes_close (bracket : Bracket) (first : Bool) (hblanks : Blanks blanks) :
    Passes 1 (.inside first) (bracket :: stack) (blanks ++ bracket.close :: rest) .next stack rest := by
  intro budget
  have hskip : skipSpace (blanks ++ bracket.close :: rest) = bracket.close :: rest := by
    rw [skipSpace_append hblanks]
    cases bracket <;> rfl
  have hcomma : bracket.close ≠ ',' := by
    cases bracket <;> decide
  cases first with
  | true =>
    change skipOpen (budget + 1) .first _ _ = _
    simp only [skipOpen, hskip, if_true]
  | false =>
    change skipOpen (budget + 1) .next _ _ = _
    simp only [skipOpen, hskip, if_neg hcomma, if_true]

/-- What stands before a value inside a bracket takes a step: the comma, and the key of a member. -/
theorem passes_separator {bracket : Bracket} {c : Char} {before between tail value : List Char}
    (first : Bool) (hbefore : Blanks before) (hbetween : Blanks between) (hspace : isSpace c = false)
    (hclose : c ≠ bracket.close)
    (h : ∀ blanks, Blanks blanks → ∃ ahead, Blanks ahead ∧
      enter bracket (blanks ++ c :: tail) = .ok (ahead ++ value)) :
    ∃ ahead, Blanks ahead ∧ Passes 1 (.inside first) (bracket :: stack)
      (before ++ (separator first ++ (between ++ c :: tail))) .value (bracket :: stack)
      (ahead ++ value) := by
  cases first with
  | true =>
    obtain ⟨ahead, hahead, henter⟩ := h [] blanks_nil
    refine ⟨ahead, hahead, fun budget => ?_⟩
    rw [List.nil_append] at henter
    change skipOpen (budget + 1) .first _ _ = _
    simp only [skipOpen, skipSpace_first hbefore hbetween hspace, if_neg hclose, henter, bind,
      Except.bind]
  | false =>
    obtain ⟨ahead, hahead, henter⟩ := h between hbetween
    refine ⟨ahead, hahead, fun budget => ?_⟩
    change skipOpen (budget + 1) .next _ _ = _
    simp only [skipOpen, skipSpace_next hbefore, if_true, henter, bind, Except.bind]

theorem skipKey_inside {body behind : List Char} (h : Inside body) (hblanks : Blanks blanks)
    (hbehind : Blanks behind) :
    skipKey (blanks ++ '"' :: (body ++ '"' :: (behind ++ ':' :: rest))) = .ok rest := by
  have hskip : skipSpace (blanks ++ '"' :: (body ++ '"' :: (behind ++ ':' :: rest))) =
      '"' :: (body ++ '"' :: (behind ++ ':' :: rest)) := skipSpace_append hblanks
  have hcolon : skipSpace (behind ++ ':' :: rest) = ':' :: rest := skipSpace_append hbehind
  unfold skipKey
  simp only [hskip, skipBody_inside h, hcolon, bind, Except.bind]
  rfl

end

/-- A value has a first character, so the step for it is paid twice. -/
theorem IsValue.one_lt {text : List Char} (h : IsValue text) : 1 < 2 * text.length := by
  obtain ⟨c, tail, rfl, -, -⟩ := h.exists_cons
  rw [List.length_cons]
  omega

mutual

/-- **Passing over a value takes the value**, in fewer steps than twice its characters. -/
theorem passes_value : ∀ {text : List Char}, IsValue text →
    ∀ {blanks rest : List Char} (stack : List Bracket), Blanks blanks → Ends rest →
      ∃ n < 2 * text.length, Passes n .value stack (blanks ++ (text ++ rest)) .next stack rest
  | _, .null, _, _, _, hblanks, _ =>
    ⟨1, by decide, passes_scalar hblanks rfl (by decide) (by decide) (readWord_append _ _)⟩
  | _, .yes, _, _, _, hblanks, _ =>
    ⟨1, by decide, passes_scalar hblanks rfl (by decide) (by decide) (readWord_append _ _)⟩
  | _, .no, _, _, _, hblanks, _ =>
    ⟨1, by decide, passes_scalar hblanks rfl (by decide) (by decide) (readWord_append _ _)⟩
  | _, .number h, _, _, _, hblanks, hrest =>
    ⟨1, (IsValue.number h).one_lt, passes_number h hblanks hrest⟩
  | _, @IsValue.string body h, _, rest, _, hblanks, _ => by
    have hscalar : skipScalar '"' (body ++ '"' :: rest) = .ok rest := skipBody_inside h rest
    refine ⟨1, (IsValue.string h).one_lt, ?_⟩
    rw [List.cons_append, List.append_assoc]
    exact passes_scalar hblanks rfl (by decide) (by decide) hscalar
  | _, @IsValue.list _ text h, _, rest, stack, hblanks, _ => by
    obtain ⟨n, hn, hitems⟩ := passes_items h stack rest
    have hopen : Passes 1 .value stack _ .first _ (text ++ ']' :: rest) :=
      passes_open hblanks (.inl ⟨rfl, rfl⟩)
    refine ⟨1 + n, ?_, ?_⟩
    · simp only [List.length_cons, List.length_append, List.length_nil]
      omega
    · rw [List.cons_append, List.append_assoc]
      exact hopen.trans hitems
  | _, @IsValue.object _ text h, _, rest, stack, hblanks, _ => by
    obtain ⟨n, hn, hmembers⟩ := passes_members h stack rest
    have hopen : Passes 1 .value stack _ .first _ (text ++ '\x7d' :: rest) :=
      passes_open hblanks (.inr ⟨rfl, rfl⟩)
    refine ⟨1 + n, ?_, ?_⟩
    · simp only [List.length_cons, List.length_append, List.length_nil]
      omega
    · rw [List.cons_append, List.append_assoc]
      exact hopen.trans hmembers

theorem passes_items : ∀ {first : Bool} {items : List (List Char)} {text : List Char},
    IsItems first items text → ∀ (stack : List Bracket) (rest : List Char),
      ∃ n < 2 * text.length + 2,
        Passes n (.inside first) (.list :: stack) (text ++ ']' :: rest) .next stack rest
  | first, _, _, .done hblanks, _, _ => ⟨1, by omega, passes_close .list first hblanks⟩
  | _, _, _, @IsItems.item first before between text more _ hbefore hbetween hvalue hmore, stack,
      rest => by
    obtain ⟨m, hm, hpassed⟩ := passes_items hmore stack rest
    have hseparator : ∃ ahead, Blanks ahead ∧ Passes 1 (.inside first) (.list :: stack)
        (before ++ (separator first ++ (between ++ (text ++ (more ++ ']' :: rest))))) .value
        (.list :: stack) (ahead ++ (text ++ (more ++ ']' :: rest))) := by
      obtain ⟨c, tail, rfl, hspace, hclose⟩ := hvalue.exists_cons
      exact passes_separator first hbefore hbetween hspace hclose fun blanks hblanks =>
        ⟨blanks, hblanks, rfl⟩
    obtain ⟨ahead, hahead, hopened⟩ := hseparator
    obtain ⟨n, hn, hread⟩ := passes_value hvalue (.list :: stack) hahead (hmore.ends rest)
    -- The step for the separator is paid by the first character of the value.
    refine ⟨1 + (n + m), ?_, ?_⟩
    · simp only [List.length_append]
      omega
    · simp only [List.append_assoc]
      exact hopened.trans (hread.trans hpassed)

theorem passes_members : ∀ {first : Bool} {members : Members} {text : List Char},
    IsMembers first members text → ∀ (stack : List Bracket) (rest : List Char),
      ∃ n < 2 * text.length + 2,
        Passes n (.inside first) (.object :: stack) (text ++ '\x7d' :: rest) .next stack rest
  | first, _, _, .done hblanks, _, _ => ⟨1, by omega, passes_close .object first hblanks⟩
  | _, _, _, @IsMembers.member first before between body behind ahead text more _ _ hbefore hbetween
      hkey hbehind hahead hvalue hmore, stack, rest => by
    obtain ⟨m, hm, hpassed⟩ := passes_members hmore stack rest
    have hseparator : ∃ ahead', Blanks ahead' ∧ Passes 1 (.inside first) (.object :: stack)
        (before ++ (separator first ++ (between ++ '"' :: (body ++ '"' ::
          (behind ++ ':' :: (ahead ++ (text ++ (more ++ '\x7d' :: rest)))))))) .value
        (.object :: stack) (ahead' ++ (text ++ (more ++ '\x7d' :: rest))) :=
      passes_separator first hbefore hbetween rfl (by decide) fun blanks hblanks =>
        ⟨ahead, hahead, skipKey_inside hkey.inside hblanks hbehind⟩
    obtain ⟨ahead', hahead', hopened⟩ := hseparator
    obtain ⟨n, hn, hread⟩ := passes_value hvalue (.object :: stack) hahead' (hmore.ends rest)
    refine ⟨1 + (n + m), ?_, ?_⟩
    · simp only [List.length_append, List.length_cons]
      omega
    · simp only [List.append_assoc, List.cons_append]
      exact hopened.trans (hread.trans hpassed)

end

/-- **Passing over a value takes the value**, with the blanks before it: the budget is enough. -/
theorem skipValue_value {text blanks rest : List Char} (h : IsValue text) (hblanks : Blanks blanks)
    (hrest : Ends rest) : skipValue (blanks ++ (text ++ rest)) = .ok rest := by
  obtain ⟨n, hn, hpassed⟩ := passes_value h [] hblanks hrest
  obtain ⟨budget, hbudget⟩ : ∃ budget, 2 * (blanks ++ (text ++ rest)).length + 2 = budget + 1 + n := by
    simp only [List.length_append]
    exact ⟨2 * (blanks.length + (text.length + rest.length)) + 1 - n, by omega⟩
  unfold skipValue
  rw [hbudget, hpassed]
  rfl

end PlatformBridge.Json
