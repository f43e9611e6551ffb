import PlatformBridge.Json.Codec
import PlatformBridge.Proofs.Json.Faithful
import PlatformBridge.Proofs.Json.Passing

/-!
# What a value means

A value means something to some readers and nothing to others: `12` is a word but no text. Which values
mean what is said here by the grammar alone, and the readers follow it.

* `SpellsText`, `SpellsBoolean`, `SpellsWord`, `SpellsOptional`, `SpellsChoice` — the value is a text, a
  truth value, a word of 32 bits, a text that may be missing, a choice;
* `Follows read spells` — the reader takes each value that spells something, whatever follows it, and
  refuses each value that spells nothing;
* `Reads.decode`, `Refuses.decode` — a whole text is read, or refused, as the value in it is;
* `readBody_spelled`, `Inside.judged` — what stands between quotes is read as the characters
  that it spells, and refused if it pairs no units.
-/

namespace PlatformBridge.Json

variable {α β : Type}

/-! ### The grammars -/

/-- The value is a text: a string, however its characters are escaped. -/
def SpellsText (s : String) (text : List Char) : Prop :=
  ∃ body, text = '"' :: (body ++ ['"']) ∧ SpellsChars s.toList body

/-- The value is a truth value. -/
def SpellsBoolean (b : Bool) (text : List Char) : Prop := text = Value.booleanText b

/-- The value is a word: a numeral without sign, fraction and exponent. -/
def SpellsWord (n : UInt32) (text : List Char) : Prop :=
  IsWhole text ∧ Nat.ofDigitChars 10 text 0 = n.toNat

/-- The value is a text, or `null` for none. -/
def SpellsOptional : Option String → List Char → Prop
  | none, text => text = ['n', 'u', 'l', 'l']
  | some s, text => SpellsText s text

/-- The value is a choice: its name, or an object with the name as its only key and no value. -/
def SpellsChoice (name : α → String) (a : α) (text : List Char) : Prop :=
  SpellsText (name a) text ∨
    ∃ inner, text = '\x7b' :: (inner ++ ['\x7d']) ∧
      IsMembers true [(some (name a), ['n', 'u', 'l', 'l'])] inner

/-! ### Following a grammar -/

/-- The reader takes the text, blanks before it included, and gives the value. -/
def Reads (read : Reader α) (text : List Char) (value : α) : Prop :=
  ∀ blanks rest, Blanks blanks → Ends rest → read (blanks ++ (text ++ rest)) = .ok (value, rest)

/-- The reader refuses the text. -/
def Refuses (read : Reader α) (text : List Char) : Prop :=
  ∀ blanks rest, Blanks blanks → Ends rest → ∃ fault, read (blanks ++ (text ++ rest)) = .error fault

/-- **The reader follows the grammar**: it takes what spells something and refuses any other value. -/
structure Follows (read : Reader α) (spells : α → List Char → Prop) : Prop where
  reads {value : α} {text : List Char} : spells value text → Reads read text value
  refuses {text : List Char} : IsValue text → (∀ value, ¬ spells value text) → Refuses read text

section

variable {read : Reader α} {spells : α → List Char → Prop} {text : List Char}

theorem Reads.eq {value value' : α} (h : Reads read text value) (h' : Reads read text value') :
    value = value' := by
  have hread := h [] [] blanks_nil ends_nil
  rw [h' [] [] blanks_nil ends_nil] at hread
  cases hread
  rfl

theorem Follows.eq (h : Follows read spells) {value value' : α} (hspells : spells value text)
    (hspells' : spells value' text) : value = value' :=
  (h.reads hspells).eq (h.reads hspells')

theorem Follows.congr {spells' : α → List Char → Prop} (h : Follows read spells)
    (hsame : ∀ value text, spells value text ↔ spells' value text) : Follows read spells' where
  reads hspells := h.reads ((hsame _ _).mpr hspells)
  refuses hvalue hnone := h.refuses hvalue fun value hspells => hnone value ((hsame _ _).mp hspells)

theorem Follows.spells_of_reads (h : Follows read spells) (hvalue : IsValue text) {value : α}
    (hread : Reads read text value) : spells value text := by
  by_cases hnone : ∀ value, ¬ spells value text
  · obtain ⟨fault, hfault⟩ := h.refuses hvalue hnone [] [] blanks_nil ends_nil
    rw [hread [] [] blanks_nil ends_nil] at hfault
    cases hfault
  · obtain ⟨value', hspells⟩ := not_forall_not.mp hnone
    rwa [hread.eq (h.reads hspells)]

section

variable {codec : Codec α} {before after : List Char}

theorem Blanks.ends_self (h : Blanks after) : Ends after := by
  have hends := h.ends ends_nil
  rwa [List.append_nil] at hends

theorem Reads.decode {value : α} (h : Reads codec.read text value) (hbefore : Blanks before)
    (hafter : Blanks after) : codec.decode (String.ofList (before ++ (text ++ after))) = .ok value := by
  have hblank : skipSpace after = [] := by
    have hskip : skipSpace (after ++ []) = skipSpace [] := skipSpace_append hafter
    rwa [List.append_nil] at hskip
  simp only [Codec.decode, Codec.decodeChars, String.toList_ofList,
    h before after hbefore hafter.ends_self, hblank]
  rfl

theorem Refuses.decode (h : Refuses codec.read text) (hbefore : Blanks before)
    (hafter : Blanks after) :
    ∃ error, codec.decode (String.ofList (before ++ (text ++ after))) = .error error := by
  obtain ⟨fault, hfault⟩ := h before after hbefore hafter.ends_self
  simp only [Codec.decode, Codec.decodeChars, String.toList_ofList, hfault]
  exact ⟨_, rfl⟩

end

end

/-! ### Refusals -/

theorem exists_error_bind {x : Except Fault α} {f : α → Except Fault β}
    (h : ∀ a, ∃ fault, f a = .error fault) : ∃ fault, x >>= f = .error fault := by
  cases x with
  | error fault => exact ⟨fault, rfl⟩
  | ok a => exact h a

theorem exists_refuse (expected : Expected) (text : List Char) :
    ∃ fault, (refuse expected text : Except Fault α) = .error fault := by
  unfold refuse
  split
  · exact ⟨_, rfl⟩
  · repeat' split
    all_goals first
      | exact ⟨_, rfl⟩
      | exact exists_error_bind fun _ => ⟨_, rfl⟩

/-! ### Texts -/

section

variable {body rest : List Char}

theorem readBody_plain {c : Char} (h : IsPlain c) (more : List Char) :
    readBody 0 (c :: more) = (readBody 0 more).map (Prod.map (c :: ·) id) := by
  rw [readBody, if_neg h.1, if_neg h.2.1, if_neg (Nat.not_lt.mpr h.2.2)]
  cases readBody 0 more <;> rfl

theorem readBody_letter {l c : Char} (h : escapeLetter? l = some c) (more : List Char) :
    readBody 0 ('\\' :: l :: more) = (readBody 0 more).map (Prod.map (c :: ·) id) := by
  have hl : l ≠ 'u' := ne_of_escapeLetter? h
  have hescape : readEscape (l :: more) = .ok (c, 1) := by
    simp only [readEscape, h]
  exact readBody_escape [l] hescape

theorem readBody_unit {a b c d : Char} {unit : Nat} (h : hexUnit? [a, b, c, d] = some unit)
    (hhigh : isHighSurrogate unit = false) (hlow : isLowSurrogate unit = false) (more : List Char) :
    readBody 0 ('\\' :: 'u' :: a :: b :: c :: d :: more) =
      (readBody 0 more).map (Prod.map (Char.ofNat unit :: ·) id) := by
  have hescape : readEscape ('u' :: a :: b :: c :: d :: more) = .ok (Char.ofNat unit, 5) := by
    simp [readEscape, readUnicodeEscape, hexUnit_eq h, hhigh, hlow, bind, Except.bind, pure,
      Except.pure]
  exact readBody_escape ['u', a, b, c, d] hescape

theorem not_isLowSurrogate {unit : Nat} (h : isHighSurrogate unit = true) :
    isLowSurrogate unit = false := by
  simp only [isHighSurrogate, isLowSurrogate, Bool.and_eq_true, decide_eq_true_eq,
    Bool.and_eq_false_iff, decide_eq_false_iff_not] at h ⊢
  omega

theorem readBody_pair {a b c d a' b' c' d' : Char} {high low : Nat}
    (h : hexUnit? [a, b, c, d] = some high) (hhigh : isHighSurrogate high = true)
    (h' : hexUnit? [a', b', c', d'] = some low) (hlow : isLowSurrogate low = true)
    (more : List Char) :
    readBody 0 ('\\' :: 'u' :: a :: b :: c :: d :: '\\' :: 'u' :: a' :: b' :: c' :: d' :: more) =
      (readBody 0 more).map (Prod.map (pairedChar high low :: ·) id) := by
  have hescape : readEscape
      ('u' :: a :: b :: c :: d :: '\\' :: 'u' :: a' :: b' :: c' :: d' :: more) =
        .ok (pairedChar high low, 11) := by
    simp [readEscape, readUnicodeEscape, hexUnit_eq h, hexUnit_eq h', hhigh, hlow,
      not_isLowSurrogate hhigh, bind, Except.bind, pure, Except.pure]
  exact readBody_escape ['u', a, b, c, d, '\\', 'u', a', b', c', d'] hescape

/-- A string that spells characters is read as the characters. -/
theorem readBody_spelled {chars : List Char} (h : SpellsChars chars body) (rest : List Char) :
    readBody 0 (body ++ '"' :: rest) = .ok (chars, rest) := by
  induction h with
  | nil => rfl
  | plain plain _ ih =>
    rw [List.cons_append, readBody_plain plain, ih]
    rfl
  | letter escape _ ih =>
    simp only [List.cons_append]
    rw [readBody_letter escape, ih]
    rfl
  | unit digits notHigh notLow _ ih =>
    simp only [List.cons_append]
    rw [readBody_unit digits notHigh notLow, ih]
    rfl
  | pair digits isHigh digits' isLow _ ih =>
    simp only [List.cons_append]
    rw [readBody_pair digits isHigh digits' isLow, ih]
    rfl

/-- A unit that closes a pair does not stand alone. -/
theorem refused_low {a b c d : Char} {low : Nat} (h : hexUnit? [a, b, c, d] = some low)
    (hlow : isLowSurrogate low = true) (more : List Char) :
    ∃ fault, readBody 0 ('\\' :: 'u' :: a :: b :: c :: d :: more) = .error fault := by
  have hescape : readEscape ('u' :: a :: b :: c :: d :: more) = here .loneSurrogate more := by
    simp only [readEscape, readUnicodeEscape, hexUnit_eq h, hlow, bind, Except.bind]
    rfl
  refine ⟨⟨.loneSurrogate, more, 0⟩, ?_⟩
  simp only [readBody, hescape]
  rfl

/-- Behind a unit that opens a pair stands one that closes it, or the string is refused. -/
theorem refused_high {a b c d : Char} {high : Nat} {more : List Char}
    (h : hexUnit? [a, b, c, d] = some high) (hhigh : isHighSurrogate high = true)
    (hmore : ∀ {digits : List Char} {low : Nat}, more = '\\' :: 'u' :: digits →
      hexUnit? digits = some low → isLowSurrogate low = false) :
    ∃ fault, readBody 0 ('\\' :: 'u' :: a :: b :: c :: d :: more) = .error fault := by
  have hescape : ∃ fault, readUnicodeEscape (a :: b :: c :: d :: more) = .error fault := by
    simp only [readUnicodeEscape, hexUnit_eq h, hhigh, not_isLowSurrogate hhigh, bind, Except.bind,
      List.drop_succ_cons, List.drop_zero, Bool.false_eq_true, if_false, if_true]
    split
    · exact ⟨_, rfl⟩
    · exact ⟨_, rfl⟩
    · rename_i digits
      cases hunit : hexUnit? digits with
      | none =>
        have hfault : ∃ fault, hexUnit digits = .error fault := by
          simp only [hexUnit, hunit]
          split <;> exact ⟨_, rfl⟩
        obtain ⟨fault, hfault⟩ := hfault
        exact ⟨fault, by rw [hfault]⟩
      | some low =>
        have hlow : isLowSurrogate low = false := hmore rfl hunit
        simp only [hexUnit, hunit, hlow, Bool.false_eq_true, if_false]
        exact ⟨_, rfl⟩
    · exact ⟨_, rfl⟩
    · exact ⟨_, rfl⟩
  obtain ⟨fault, hescape⟩ := hescape
  refine ⟨fault, ?_⟩
  simp only [readBody, readEscape, hescape]
  rfl

/-- The text spells characters, or a string of it is refused. -/
def Judged (body : List Char) : Prop :=
  (∃ chars, SpellsChars chars body) ∨ ∀ rest, ∃ fault, readBody 0 (body ++ '"' :: rest) = .error fault

/-- A character that is read off the front leaves the judgement to the rest. -/
theorem Judged.cons (front : List Char) {c : Char}
    (hread : ∀ more, readBody 0 (front ++ more) = (readBody 0 more).map (Prod.map (c :: ·) id))
    (hspells : ∀ {chars}, SpellsChars chars body → SpellsChars (c :: chars) (front ++ body))
    (h : Judged body) : Judged (front ++ body) := by
  refine h.imp (fun ⟨chars, hchars⟩ => ⟨c :: chars, hspells hchars⟩) fun hfault rest => ?_
  obtain ⟨fault, hfault⟩ := hfault rest
  rw [List.append_assoc, hread, hfault]
  exact ⟨fault, rfl⟩

/-- **What stands between quotes spells characters or is refused.** -/
theorem Inside.judged : ∀ {body : List Char}, Inside body → Judged body
  | _, .nil => .inl ⟨[], .nil⟩
  | _, @Inside.plain c _ hplain h => .cons [c] (readBody_plain hplain) (.plain hplain) h.judged
  | _, @Inside.letter l _ _ escape h =>
    .cons ['\\', l] (readBody_letter escape) (.letter escape) h.judged
  | _, @Inside.unit a b c d code _ digits h => by
    by_cases hlow : isLowSurrogate code = true
    · exact .inr fun rest => refused_low digits hlow _
    by_cases hhigh : isHighSurrogate code = true
    · -- What follows the first half of a pair is the other half, or nothing will do.
      cases h with
      | nil => exact .inr fun rest => refused_high digits hhigh nofun
      | plain hplain =>
        exact .inr fun rest => refused_high digits hhigh fun heq _ =>
          absurd (List.cons.inj heq).1 hplain.2.1
      | letter escape =>
        exact .inr fun rest => refused_high digits hhigh fun heq _ =>
          absurd (List.cons.inj (List.cons.inj heq).2).1 (ne_of_escapeLetter? escape)
      | @unit a' b' c' d' low body digits' h =>
        by_cases hlow' : isLowSurrogate low = true
        · exact .cons ['\\', 'u', a, b, c, d, '\\', 'u', a', b', c', d']
            (readBody_pair digits hhigh digits' hlow') (.pair digits hhigh digits' hlow') h.judged
        · refine .inr fun rest => refused_high digits hhigh fun heq hunit => ?_
          cases heq
          cases digits'.symm.trans hunit
          exact Bool.of_not_eq_true hlow'
    · have hnotLow := Bool.of_not_eq_true hlow
      have hnotHigh := Bool.of_not_eq_true hhigh
      exact .cons ['\\', 'u', a, b, c, d] (readBody_unit digits hnotHigh hnotLow)
        (.unit digits hnotHigh hnotLow) h.judged

/-- What stands between quotes spells no other characters. -/
theorem SpellsChars.eq {chars chars' : List Char} (h : SpellsChars chars body)
    (h' : SpellsChars chars' body) : chars = chars' := by
  have hread := readBody_spelled h []
  rw [readBody_spelled h'] at hread
  cases hread
  rfl

/-! ### Keys -/

theorem IsKey.eq_some {key : Option String} (h : IsKey key body) {s : String}
    (hs : SpellsChars s.toList body) : key = some s := by
  cases key with
  | none => exact absurd hs (h.2 _)
  | some key => rw [String.toList_inj.mp (SpellsChars.eq h hs)]

theorem readString_key {key : String} (h : IsKey (some key) body) (rest : List Char) :
    readString (body ++ '"' :: rest) = .ok (key, rest) := by
  simp only [readString, readBody_spelled h, bind, Except.bind, pure, Except.pure,
    String.ofList_toList]

theorem refused_key (h : IsKey none body) (rest : List Char) :
    ∃ fault, readString (body ++ '"' :: rest) = .error fault := by
  obtain ⟨chars, hchars⟩ | hfault := h.1.judged
  · exact absurd hchars (h.2 chars)
  · obtain ⟨fault, hfault⟩ := hfault rest
    simp only [readString, hfault]
    exact ⟨fault, rfl⟩

theorem exists_key (h : Inside body) : ∃ key, IsKey key body := by
  by_cases hnone : ∀ chars, ¬ SpellsChars chars body
  · exact ⟨none, h, hnone⟩
  · obtain ⟨chars, hchars⟩ := not_forall_not.mp hnone
    refine ⟨some (String.ofList chars), ?_⟩
    change SpellsChars (String.ofList chars).toList body
    rwa [String.toList_ofList]

end

end PlatformBridge.Json
