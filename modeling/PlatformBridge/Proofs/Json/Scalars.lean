import PlatformBridge.Proofs.Json.Meaning

/-!
# Readers of scalars follow their grammars

The readers of texts, truth values, words and choices take each value of their kind, however it is
spelled, and refuse every other value.

* `follows_text`, `follows_boolean`, `follows_word`, `follows_optional` — texts, truth values, words, and
  texts that may be missing;
* `Numeral.integer?_eq_some` — which numerals stand for an integer that is not negative;
* `follows_choice` — choices, by name or as an object with the name as its only key.
-/

namespace PlatformBridge.Json

variable {α : Type} {blanks rest : List Char}

theorem IsNumeral.append_ne {text : List Char} (h : IsNumeral text) {d : Char}
    (hd : startsNumeral d = false) (rest tail : List Char) : text ++ rest ≠ d :: tail := by
  obtain ⟨c, digits, rfl, hc⟩ := h.exists_cons
  intro heq
  exact ne_of_startsNumeral hc hd (List.cons.inj heq).1

theorem IsValue.eq_null {text tail : List Char} (h : IsValue text) (heq : text ++ rest = 'n' :: tail) :
    text = ['n', 'u', 'l', 'l'] := by
  cases h with
  | null => rfl
  | number hnumeral => exact absurd heq (hnumeral.append_ne rfl _ _)
  | _ => cases heq

theorem IsValue.exists_cons_of_not_isNumeral {text : List Char} (h : IsValue text)
    (hnumeral : ¬ IsNumeral text) : ∃ c tail, text = c :: tail ∧ startsNumeral c = false := by
  cases h with
  | number h => exact absurd h hnumeral
  | _ => exact ⟨_, _, rfl, rfl⟩

/-! ### Texts -/

/-- **Texts are read as they are spelled.** -/
theorem follows_text : Follows readText SpellsText where
  reads := by
    rintro s _ ⟨body, rfl, hbody⟩ blanks rest hblanks -
    unfold readText
    rw [skipSpace_enclosed rfl hblanks]
    exact readString_key hbody rest
  refuses := by
    intro text hvalue hnone blanks rest hblanks _
    unfold readText
    rw [hvalue.skipSpace_eq hblanks]
    split
    · rename_i tail heq
      cases hvalue with
      | string hinside =>
        obtain ⟨key, hkey⟩ := exists_key hinside
        cases key with
        | some s => exact absurd ⟨_, rfl, hkey⟩ (hnone s)
        | none =>
          rw [List.cons_append, List.append_assoc] at heq
          rw [← (List.cons.inj heq).2]
          exact refused_key hkey rest
      | number hnumeral => exact absurd heq (hnumeral.append_ne rfl _ _)
      | _ => cases heq
    · exact exists_refuse .string _

/-! ### Truth values -/

/-- **Truth values are read as they are spelled.** -/
theorem follows_boolean : Follows readBoolean SpellsBoolean where
  reads := by
    rintro b _ rfl blanks rest hblanks hrest
    exact faithful_boolean b blanks _ rest hblanks (.boolean b) hrest
  refuses := by
    intro text hvalue hnone blanks rest hblanks _
    unfold readBoolean
    rw [hvalue.skipSpace_eq hblanks]
    split
    · rename_i tail heq
      cases hvalue with
      | yes => exact absurd rfl (hnone true)
      | number hnumeral => exact absurd heq (hnumeral.append_ne rfl _ _)
      | _ => cases heq
    · rename_i tail heq
      cases hvalue with
      | no => exact absurd rfl (hnone false)
      | number hnumeral => exact absurd heq (hnumeral.append_ne rfl _ _)
      | _ => cases heq
    · exact exists_refuse .boolean _

/-! ### Words -/

theorem eq_of_absorb {bound start n : Nat} {digits : List Char}
    (h : absorb bound start digits = (n, 0)) : n = Nat.ofDigitChars 10 digits start := by
  induction digits generalizing start with
  | nil =>
    cases h
    rfl
  | cons d digits ih =>
    rw [absorb] at h
    split at h
    · have hvalue : 10 * start + (d.toNat - '0'.toNat) = start * 10 + digitValue d := by
        rw [Nat.mul_comm]
        rfl
      rw [Nat.ofDigitChars_cons, hvalue]
      exact ih h
    · cases h

/-- **A numeral that stands for an integer that is not negative** has no sign, no fraction and no
exponent. -/
theorem Numeral.integer?_eq_some {numeral : Numeral} {value : Int}
    (h : numeral.integer? = some value) (hvalue : 0 ≤ value) :
    numeral.negative = false ∧ numeral.fraction = none ∧ numeral.exponent = none ∧
      value = Nat.ofDigitChars 10 numeral.whole 0 := by
  obtain ⟨negative, whole, fraction, exponent⟩ := numeral
  unfold Numeral.integer? at h
  split at h
  · rename_i hfraction hexponent
    rcases habsorb : absorb wordBound 0 whole with ⟨n, dropped⟩
    simp only [habsorb] at h
    split at h
    · cases h
    · rename_i hdropped
      have hfull : absorb wordBound 0 whole = (n, 0) := by
        rw [habsorb, not_not.mp hdropped]
      have hn := eq_of_absorb hfull
      cases negative with
      | false =>
        cases h
        exact ⟨rfl, hfraction, hexponent, by rw [hn]⟩
      | true =>
        simp only [Bool.not_true, Bool.false_eq_true, if_false] at h
        split at h
        · cases h
        · cases h
          omega
  · cases h

theorem Numeral.integer?_of_value {numeral : Numeral} {value : Int}
    (h : numeral.value rest = .ok (.integer value)) : numeral.integer? = some value := by
  unfold Numeral.value at h
  split at h
  · rename_i hinteger
    cases h
    exact hinteger
  · cases hreal : numeral.real rest with
    | error fault =>
      rw [hreal] at h
      cases h
    | ok x =>
      rw [hreal] at h
      cases h

theorem IsWhole.isNumeral {text : List Char} (h : IsWhole text) : IsNumeral text :=
  ⟨[], text, [], [], by simp, .inl rfl, h, .inl rfl, .inl rfl⟩

theorem readWord32_numeral {text : List Char} (h : IsNumeral text) (hblanks : Blanks blanks) :
    readWord32 (blanks ++ (text ++ rest)) = readNumber (text ++ rest) >>= fun x => x.1.word x.2 := by
  obtain ⟨c, tail, rfl, hc⟩ := h.exists_cons
  unfold readWord32
  rw [skipSpace_append hblanks, List.cons_append, skipSpace_cons (isSpace_of_startsNumeral hc)]
  simp only [hc, if_true]

/-- **Words are read as they are spelled.** -/
theorem follows_word : Follows readWord32 SpellsWord where
  reads := by
    rintro n text ⟨hwhole, hvalue⟩ blanks rest hblanks hrest
    have hsmall : n.toNat < 0x100000000 := n.toNat_lt
    have hbound : Nat.ofDigitChars 10 text 0 < wordBound := by
      unfold wordBound
      omega
    have habsorb : absorb wordBound 0 text = (n.toNat, 0) := by
      rw [absorb_eq hbound, hvalue]
    have hinteger : Numeral.integer? ⟨false, text, none, none⟩ = some (n.toNat : Int) := by
      simp [Numeral.integer?, habsorb]
    have hnumber : readNumber (text ++ rest) = .ok (.integer n.toNat, rest) := by
      simp only [readNumber, readNumeral_whole hwhole .endInValue hrest, Numeral.value, hinteger,
        bind, Except.bind, pure, Except.pure]
    rw [readWord32_numeral hwhole.isNumeral hblanks]
    simp only [hnumber, word_toNat, bind, Except.bind]
  refuses := by
    intro text hvalue hnone blanks rest hblanks hrest
    by_cases hnumeral : IsNumeral text
    · obtain ⟨numeral, hwhole, hread⟩ := exists_numeral hnumeral
      rw [readWord32_numeral hnumeral hblanks, readNumber, hread .endInValue rest hrest]
      change ∃ fault, ((numeral.value rest >>= fun number => pure (number, rest)) >>= fun x =>
        x.1.word x.2) = .error fault
      cases hnumber : numeral.value rest with
      | error fault => exact ⟨fault, rfl⟩
      | ok number =>
        cases number with
        | real value => exact ⟨_, rfl⟩
        | integer value =>
          by_cases hrange : 0 ≤ value ∧ value < 0x100000000
          · -- A numeral in the range would be a word.
            obtain ⟨hsign, hfraction, hexponent, hdigits⟩ :=
              Numeral.integer?_eq_some (Numeral.integer?_of_value hnumber) hrange.1
            obtain ⟨htext, hsame⟩ := hwhole hsign hfraction hexponent
            refine absurd ⟨htext, ?_⟩ (hnone (UInt32.ofNat value.toNat))
            have hsmall : value.toNat < UInt32.size := by
              unfold UInt32.size
              omega
            rw [UInt32.toNat_ofNat_of_lt' hsmall, hdigits, hsame, Int.toNat_natCast]
          · refine ⟨⟨.notAWord value, rest, 0⟩, ?_⟩
            change Number.word (.integer value) rest = _
            simp only [Number.word, if_neg hrange]
            rfl
    · unfold readWord32
      rw [hvalue.skipSpace_eq hblanks]
      obtain ⟨c, tail, rfl, hc⟩ := hvalue.exists_cons_of_not_isNumeral hnumeral
      simp only [List.cons_append, hc, Bool.false_eq_true, if_false]
      exact exists_refuse .word _

/-! ### Texts that may be missing -/

theorem follows_optional : Follows readOptional SpellsOptional where
  reads := by
    intro value text hspells blanks rest hblanks hrest
    cases value with
    | none =>
      rw [hspells]
      exact faithful_optional none blanks _ rest hblanks .null hrest
    | some s =>
      obtain ⟨body, rfl, hbody⟩ := hspells
      have hread : readText ('"' :: (body ++ '"' :: rest)) = .ok (s, rest) := readString_key hbody rest
      unfold readOptional
      rw [skipSpace_enclosed rfl hblanks]
      change (readText ('"' :: (body ++ '"' :: rest)) >>= _) = _
      rw [hread]
      rfl
  refuses := by
    intro text hvalue hnone blanks rest hblanks hrest
    unfold readOptional
    rw [hvalue.skipSpace_eq hblanks]
    split
    · rename_i tail heq
      exact absurd (hvalue.eq_null heq) (hnone none)
    · obtain ⟨fault, hfault⟩ :=
        follows_text.refuses hvalue (fun s => hnone (some s)) [] rest blanks_nil hrest
      rw [List.nil_append] at hfault
      exact ⟨fault, by rw [hfault]; rfl⟩

/-! ### Choices -/

section

variable {all : List α} {name : α → String} {body : List Char}

theorem readName_spelled (hname : ∀ a, (all.find? fun b => name b = name a) = some a) (a : α)
    (h : SpellsChars (name a).toList body) (rest : List Char) :
    readName all name (body ++ '"' :: rest) = .ok (a, rest) := by
  have hread : readString (body ++ '"' :: rest) = .ok (name a, rest) := readString_key h rest
  simp only [readName, hread, hname, bind, Except.bind, pure, Except.pure]

theorem refused_name (h : Inside body) (hnone : ∀ a, ¬ SpellsChars (name a).toList body)
    (rest : List Char) : ∃ fault, readName all name (body ++ '"' :: rest) = .error fault := by
  obtain ⟨key, hkey⟩ := exists_key h
  cases key with
  | none =>
    obtain ⟨fault, hfault⟩ := refused_key hkey rest
    simp only [readName, hfault]
    exact ⟨fault, rfl⟩
  | some key =>
    have hread := readString_key hkey rest
    cases hfind : all.find? fun a => name a = key with
    | none =>
      simp only [readName, hread, hfind, bind, Except.bind]
      exact ⟨_, rfl⟩
    | some a =>
      have hsame : name a = key := by simpa using List.find?_some hfind
      exact absurd (hsame ▸ hkey) (hnone a)

theorem readNull_value {text : List Char} (h : IsValue text) (hblanks : Blanks blanks)
    (rest : List Char) :
    (text = ['n', 'u', 'l', 'l'] ∧ readNull (blanks ++ (text ++ rest)) = .ok rest) ∨
      text ≠ ['n', 'u', 'l', 'l'] ∧ ∃ fault, readNull (blanks ++ (text ++ rest)) = .error fault := by
  unfold readNull
  rw [h.skipSpace_eq hblanks]
  by_cases hnull : text = ['n', 'u', 'l', 'l']
  · subst hnull
    exact .inl ⟨rfl, readWord_append _ _⟩
  · refine .inr ⟨hnull, ?_⟩
    split
    · rename_i tail heq
      exact absurd (h.eq_null heq) hnull
    · exact exists_refuse .unit _

theorem readNamedUnit_members (hname : ∀ a, (all.find? fun b => name b = name a) = some a)
    {members : Members} {inner : List Char} (h : IsMembers true members inner)
    (rest : List Char) :
    (∃ a, members = [(some (name a), ['n', 'u', 'l', 'l'])] ∧
      readNamedUnit all name (inner ++ '\x7d' :: rest) = .ok (a, rest)) ∨
    (∀ a, members ≠ [(some (name a), ['n', 'u', 'l', 'l'])]) ∧
      ∃ fault, readNamedUnit all name (inner ++ '\x7d' :: rest) = .error fault := by
  cases h with
  | done hblanks =>
    have hskip : skipSpace (inner ++ '\x7d' :: rest) = '\x7d' :: rest := skipSpace_append hblanks
    unfold readNamedUnit
    rw [hskip]
    exact .inr ⟨nofun, _, rfl⟩
  | @member _ before between body behind ahead text more key members hbefore hbetween hkey hbehind
      hahead hvalue hmore =>
    simp only [List.append_assoc, List.cons_append]
    unfold readNamedUnit
    rw [skipSpace_first hbefore hbetween rfl]
    simp only [if_true]
    by_cases hnamed : ∃ a, key = some (name a)
    · obtain ⟨a, rfl⟩ := hnamed
      rw [readName_spelled hname a hkey]
      simp only [bind, Except.bind, readColon_blanks hbehind]
      obtain ⟨rfl, hread⟩ | ⟨hne, fault, hfault⟩ :=
        readNull_value hvalue hahead (more ++ '\x7d' :: rest)
      · rw [hread]
        cases hmore with
        | done hblanks =>
          have hskip : skipSpace (more ++ '\x7d' :: rest) = '\x7d' :: rest := skipSpace_append hblanks
          simp only [hskip]
          exact .inl ⟨a, rfl, rfl⟩
        | member hbefore =>
          simp only [List.append_assoc, skipSpace_next hbefore]
          refine .inr ⟨fun a heq => ?_, _, rfl⟩
          simp at heq
      · rw [hfault]
        refine .inr ⟨fun a heq => ?_, fault, rfl⟩
        simp only [List.cons.injEq, Prod.mk.injEq] at heq
        exact hne heq.1.2
    · have hnone : ∀ a, ¬ SpellsChars (name a).toList body := fun a ha =>
        hnamed ⟨a, hkey.eq_some ha⟩
      have hrefused : ∃ fault, readName all name
          (body ++ '"' :: (behind ++ ':' :: (ahead ++ (text ++ (more ++ '\x7d' :: rest))))) =
            .error fault := refused_name hkey.inside hnone _
      obtain ⟨fault, hfault⟩ := hrefused
      rw [hfault]
      refine .inr ⟨fun a heq => ?_, fault, rfl⟩
      cases heq
      exact hnamed ⟨a, rfl⟩

/-- **Choices are read as they are spelled**, if every name leads back to the choice with the name. -/
theorem follows_choice (hname : ∀ a, (all.find? fun b => name b = name a) = some a) :
    Follows (readChoice all name) (SpellsChoice name) where
  reads := by
    intro a text hspells blanks rest hblanks _
    unfold readChoice
    obtain ⟨body, rfl, hbody⟩ | ⟨inner, rfl, hinner⟩ := hspells
    · rw [skipSpace_enclosed rfl hblanks]
      exact readName_spelled hname a hbody rest
    · rw [skipSpace_enclosed rfl hblanks]
      change readNamedUnit all name (inner ++ '\x7d' :: rest) = _
      obtain ⟨b, heq, hread⟩ | ⟨hne, -⟩ := readNamedUnit_members hname hinner rest
      · have hsame : name a = name b := by simpa using heq
        have hb : some a = some b := by
          rw [← hname a, hsame, hname b]
        rw [Option.some.inj hb, hread]
      · exact absurd rfl (hne a)
  refuses := by
    intro text hvalue hnone blanks rest hblanks _
    unfold readChoice
    rw [hvalue.skipSpace_eq hblanks]
    cases hvalue with
    | @string body hinside =>
      have hunnamed : ∀ a, ¬ SpellsChars (name a).toList body := fun a ha =>
        hnone a (.inl ⟨body, rfl, ha⟩)
      rw [List.cons_append, List.append_assoc]
      exact refused_name hinside hunnamed rest
    | @object members inner hinner =>
      rw [List.cons_append, List.append_assoc]
      change ∃ fault, readNamedUnit all name (inner ++ '\x7d' :: rest) = .error fault
      obtain ⟨a, rfl, -⟩ | ⟨-, hfault⟩ := readNamedUnit_members hname hinner rest
      · exact absurd (.inr ⟨inner, rfl, hinner⟩) (hnone a)
      · exact hfault
    | number hnumeral =>
      obtain ⟨c, tail, rfl, hc⟩ := hnumeral.exists_cons
      have hquote : c ≠ '"' := ne_of_startsNumeral hc rfl
      have hbrace : c ≠ '\x7b' := ne_of_startsNumeral hc rfl
      simp only [List.cons_append, if_neg hquote, if_neg hbrace]
      exact ⟨_, rfl⟩
    | _ => exact ⟨_, rfl⟩

end

end PlatformBridge.Json
