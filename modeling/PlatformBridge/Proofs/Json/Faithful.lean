import PlatformBridge.Json.Record
import PlatformBridge.Proofs.Json.Spelling

/-!
# Codecs read what they write

A codec is faithful if it reads back what it writes, however that is spelled. The codecs of scalars
are, and a record's is if those of its fields are.

* `Codec.Faithful` — the codec reads every spelling of what it writes, with blanks before it and
  anything behind it that does not go on with a numeral;
* `faithful_text`, `faithful_word`, … — the codecs of scalars;
* `Field.Reads f put` — reading what the field `f` writes for a record gives the change that `put`
  makes with it;
* `readMembers_written` — so reading the members that were written makes all of these changes;
* `Schema.Restores`, `Schema.Restores.faithful` — if the changes restore the record from the base of
  the schema, the codec of the schema is faithful;
* `Codec.RoundTrips`, `Codec.Faithful.roundTrips` — both layouts of a value are read as the value.
-/

namespace PlatformBridge.Json

variable {α ρ : Type}

/-- **The codec reads back what it writes.** -/
def Codec.Faithful (codec : Codec α) : Prop :=
  ∀ value blanks text rest, Blanks blanks → Spells (codec.write value) text → Ends rest →
    codec.read (blanks ++ (text ++ rest)) = .ok (value, rest)

/-! ### Scalars -/

theorem skipSpace_quote {blanks : List Char} (h : Blanks blanks) (s : String) (rest : List Char) :
    skipSpace (blanks ++ (quote s.toList ++ rest)) =
      '"' :: (s.toList.flatMap escapedChar ++ '"' :: rest) := by
  have hquote : quote s.toList ++ rest = '"' :: (s.toList.flatMap escapedChar ++ '"' :: rest) := by
    simp [quote]
  rw [skipSpace_append h, hquote, skipSpace_cons (by rfl)]

theorem readText_quote {blanks : List Char} (h : Blanks blanks) (s : String) (rest : List Char) :
    readText (blanks ++ (quote s.toList ++ rest)) = .ok (s, rest) := by
  unfold readText
  rw [skipSpace_quote h]
  exact readString_quoted s rest

theorem faithful_text : Codec.text.Faithful := by
  intro s blanks text rest hblanks hspells _
  cases hspells
  exact readText_quote hblanks s rest

theorem faithful_boolean : Codec.boolean.Faithful := by
  intro b blanks text rest hblanks hspells _
  cases hspells
  change readBoolean _ = _
  unfold readBoolean
  rw [skipSpace_append hblanks]
  cases b with
  | true =>
    have hword : readWord ['r', 'u', 'e'] (['r', 'u', 'e'] ++ rest) = .ok rest :=
      readWord_append _ _
    have hskip : skipSpace (Value.booleanText true ++ rest) = 't' :: (['r', 'u', 'e'] ++ rest) := rfl
    simp only [hskip, hword]
    rfl
  | false =>
    have hword : readWord ['a', 'l', 's', 'e'] (['a', 'l', 's', 'e'] ++ rest) = .ok rest :=
      readWord_append _ _
    have hskip : skipSpace (Value.booleanText false ++ rest) =
        'f' :: (['a', 'l', 's', 'e'] ++ rest) := rfl
    simp only [hskip, hword]
    rfl

theorem isSpace_of_isDigit {c : Char} (h : isDigit c = true) : isSpace c = false := by
  by_contra hspace
  have hgoes := continuesNumeral_of_isSpace (Bool.of_not_eq_false hspace)
  simp only [continuesNumeral, h, Bool.true_or] at hgoes
  cases hgoes

theorem word_toNat (n : UInt32) (rest : List Char) :
    Number.word (.integer n.toNat) rest = .ok (n, rest) := by
  have hsmall : n.toNat < 0x100000000 := n.toNat_lt
  have hrange : (0 : Int) ≤ n.toNat ∧ (n.toNat : Int) < 0x100000000 := by omega
  simp [Number.word, hrange]

theorem faithful_word : Codec.word.Faithful := by
  intro n blanks text rest hblanks hspells hrest
  have htext : text = Value.digits n.toNat := by
    cases hspells
    rfl
  obtain ⟨c, digits, hdigits⟩ := exists_digits_cons n.toNat
  have hdigit : isDigit c = true := isDigit_of_mem_digits (hdigits ▸ List.mem_cons_self)
  have hstarts : startsNumeral c = true := by
    rw [startsNumeral, hdigit, Bool.or_true]
  have hsmall : n.toNat < 0x100000000 := n.toNat_lt
  have hnumber : readNumber (c :: (digits ++ rest)) = .ok (.integer n.toNat, rest) := by
    have hbound : n.toNat < wordBound := by
      unfold wordBound
      omega
    have hread := readNumber_digits hbound hrest
    rw [hdigits] at hread
    exact hread
  change readWord32 _ = _
  unfold readWord32
  rw [skipSpace_append hblanks, htext, hdigits, List.cons_append,
    skipSpace_cons (isSpace_of_isDigit hdigit)]
  simp only [hstarts, if_true, hnumber, word_toNat, bind, Except.bind]

theorem faithful_optional : Codec.optional.Faithful := by
  intro value blanks text rest hblanks hspells _
  change readOptional _ = _
  unfold readOptional
  cases value with
  | none =>
    cases hspells
    have hword : readWord ['u', 'l', 'l'] (['u', 'l', 'l'] ++ rest) = .ok rest :=
      readWord_append _ _
    have hskip : skipSpace (['n', 'u', 'l', 'l'] ++ rest) = 'n' :: (['u', 'l', 'l'] ++ rest) := rfl
    rw [skipSpace_append hblanks]
    simp only [hskip, hword]
    rfl
  | some s =>
    cases hspells
    have hread : readText ('"' :: (s.toList.flatMap escapedChar ++ '"' :: rest)) = .ok (s, rest) := by
      have hquote := readText_quote blanks_nil s rest
      rw [List.nil_append] at hquote
      simpa [quote] using hquote
    rw [skipSpace_quote hblanks]
    change (readText ('"' :: (s.toList.flatMap escapedChar ++ '"' :: rest)) >>= _) = _
    rw [hread]
    rfl

/-- A choice is faithful if every name leads back to the choice with the name. -/
theorem faithful_choice {all : List α} {name : α → String}
    (hname : ∀ a, (all.find? fun b => name b = name a) = some a) :
    (Codec.choice all name).Faithful := by
  intro a blanks text rest hblanks hspells _
  cases hspells
  change readChoice all name _ = _
  unfold readChoice
  rw [skipSpace_quote hblanks]
  simp only [if_true]
  unfold readName
  simp only [readString_quoted, bind, Except.bind, hname]
  rfl

/-! ### Members -/

section

variable {blanks rest : List Char}

theorem readKey_eq (first : Bool) {before between : List Char} (hbefore : Blanks before)
    (hbetween : Blanks between) (tail : List Char) :
    Schema.readKey first (before ++ (separator first ++ (between ++ '"' :: tail))) =
      (readString tail).map (Prod.map some id) := by
  unfold Schema.readKey
  cases first with
  | true =>
    rw [skipSpace_first hbefore hbetween rfl]
    change (readString tail >>= fun read => pure (some read.1, read.2)) = _
    cases readString tail <;> rfl
  | false =>
    have hquote : skipSpace (between ++ '"' :: tail) = '"' :: tail := skipSpace_append hbetween
    rw [skipSpace_next hbefore]
    simp only [hquote]
    change (readString tail >>= fun read => pure (some read.1, read.2)) = _
    cases readString tail <;> rfl

theorem readKey_member (first : Bool) {before between : List Char} (hbefore : Blanks before)
    (hbetween : Blanks between) (key : String) (rest : List Char) :
    Schema.readKey first (before ++ (separator first ++ (between ++ (quote key.toList ++ rest)))) =
      .ok (some key, rest) := by
  have hquote : quote key.toList ++ rest = '"' :: (key.toList.flatMap escapedChar ++ '"' :: rest) := by
    simp [quote]
  rw [hquote, readKey_eq first hbefore hbetween, readString_quoted]
  rfl

theorem readKey_done (first : Bool) (h : Blanks blanks) :
    Schema.readKey first (blanks ++ '\x7d' :: rest) = .ok (none, '\x7d' :: rest) := by
  have hclose : skipSpace (blanks ++ '\x7d' :: rest) = '\x7d' :: rest := by
    rw [skipSpace_append h]
    rfl
  unfold Schema.readKey
  rw [hclose]
  rfl

theorem readColon_blanks (h : Blanks blanks) : readColon (blanks ++ ':' :: rest) = .ok rest := by
  have hcolon : skipSpace (blanks ++ ':' :: rest) = ':' :: rest := by
    rw [skipSpace_append h]
    rfl
  unfold readColon
  rw [hcolon]
  rfl

end

/-! ### Fields -/

/-- **The field reads what it writes**: what it writes for a record, however spelled, is read as the
change that `put` makes with the record. -/
def Field.Reads (field : Field ρ) (put : ρ → ρ → ρ) : Prop :=
  ∀ record blanks text rest, Blanks blanks → Spells (field.write record) text → Ends rest →
    field.read (blanks ++ (text ++ rest)) = .ok (put record, rest)

theorem Field.reads_of {key : String} {codec : Codec α} {get : ρ → α} {set : α → ρ → ρ}
    (h : codec.Faithful) : (Field.of key codec get set).Reads fun record => set (get record) := by
  intro record blanks text rest hblanks hspells hrest
  have hread := h (get record) blanks text rest hblanks hspells hrest
  simp only [Field.of, hread]
  rfl

namespace Schema

variable {schema : Schema ρ}

/-- A member with the key of a field that was not given before is read as a change of the record. -/
theorem readMembers_known {first : Bool} {seen : List String} {record : ρ} {budget : Nat}
    {field : Field ρ} {key : String} {change : ρ → ρ} {text afterKey value more : List Char}
    (hfield : schema.field? key = some field) (hnew : key ∉ seen)
    (hkey : readKey first text = .ok (some key, afterKey)) (hcolon : readColon afterKey = .ok value)
    (hvalue : field.read value = .ok (change, more)) :
    schema.readMembers (budget + 1) first seen record text =
      schema.readMembers budget false (key :: seen) (change record) more := by
  have hunseen : seen.contains key = false := by simpa using hnew
  rw [readMembers, hkey]
  simp only [bind, Except.bind, hfield, hunseen, hcolon, hvalue]
  rfl

theorem readMembers_done {first : Bool} {seen : List String} {record : ρ} {budget : Nat}
    {blanks rest : List Char} (h : Blanks blanks) (hmissing : schema.missing? seen = none) :
    schema.readMembers (budget + 1) first seen record (blanks ++ '\x7d' :: rest) =
      .ok (record, rest) := by
  have hclose : behindClose '\x7d' ('\x7d' :: rest) = rest := rfl
  rw [readMembers, readKey_done first h]
  simp only [bind, Except.bind, hmissing, hclose]
  rfl

theorem missing?_eq_none {seen : List String} (h : ∀ field ∈ schema.fields, field.key ∈ seen) :
    schema.missing? seen = none := by
  have hall : (schema.fields.find? fun field => !seen.contains field.key) = none := by
    rw [List.find?_eq_none]
    intro field hmem
    simpa using h field hmem
  unfold missing?
  rw [hall]
  split <;> rfl

theorem field?_of_mem (hdistinct : (schema.fields.map Field.key).Nodup) {field : Field ρ}
    (h : field ∈ schema.fields) : schema.field? field.key = some field := by
  unfold field?
  generalize schema.fields = fields at hdistinct h
  induction fields with
  | nil => cases h
  | cons head fields ih =>
    rw [List.map_cons, List.nodup_cons] at hdistinct
    rw [List.find?_cons]
    rcases List.mem_cons.mp h with rfl | h
    · simp
    · have hne : head.key ≠ field.key := by
        intro heq
        exact hdistinct.1 (heq ▸ List.mem_map_of_mem h)
      simp only [hne, decide_false]
      exact ih hdistinct.2 h

/-- The changes, one after the other. -/
def restore (puts : List (ρ → ρ → ρ)) (record start : ρ) : ρ :=
  puts.foldl (fun made put => put record made) start

/-- **Reading members that were written** makes the changes of their fields, one after the other. -/
theorem readMembers_written (hdistinct : (schema.fields.map Field.key).Nodup) (record : ρ)
    {fields : List (Field ρ)} {puts : List (ρ → ρ → ρ)} (h : List.Forall₂ Field.Reads fields puts)
    {first : Bool} {seen : List String} {start : ρ} {budget : Nat} {text rest : List Char}
    (hfields : ∀ field ∈ fields, field ∈ schema.fields)
    (hnew : ∀ field ∈ fields, field.key ∉ seen) (hnodup : (fields.map Field.key).Nodup)
    (hall : ∀ field ∈ schema.fields, field.key ∈ seen ∨ field ∈ fields)
    (htext : SpellsMembers first (fields.map fun f => (f.key, f.write record)) text)
    (hbudget : text.length < budget) :
    schema.readMembers budget first seen start (text ++ '\x7d' :: rest) =
      .ok (restore puts record start, rest) := by
  obtain ⟨budget, rfl⟩ : ∃ b, budget = b + 1 := ⟨budget - 1, by omega⟩
  -- Along the fields: each member read takes its key to those that were seen.
  induction h generalizing first seen start budget text with
  | nil =>
    cases htext with
    | done hblanks =>
      have hseen : ∀ field ∈ schema.fields, field.key ∈ seen := fun field hmem =>
        (hall field hmem).resolve_right List.not_mem_nil
      exact readMembers_done hblanks (missing?_eq_none hseen)
  | @cons field put fields puts hread _ ih =>
    rw [List.map_cons] at htext
    rw [List.map_cons, List.nodup_cons] at hnodup
    cases htext with
    | @member _ before between behind ahead valueText more _ _ _ hbefore hbetween hbehind hahead
        hvalue hmore =>
      have hfield : schema.field? field.key = some field :=
        field?_of_mem hdistinct (hfields field List.mem_cons_self)
      have hunseen : field.key ∉ seen := hnew field List.mem_cons_self
      have hkey := readKey_member first hbefore hbetween field.key
        (behind ++ ':' :: (ahead ++ (valueText ++ (more ++ '\x7d' :: rest))))
      have hcolon : readColon (behind ++ ':' :: (ahead ++ (valueText ++ (more ++ '\x7d' :: rest)))) =
          .ok (ahead ++ (valueText ++ (more ++ '\x7d' :: rest))) := readColon_blanks hbehind
      have hchange := hread record ahead valueText (more ++ '\x7d' :: rest) hahead hvalue
        (ends_behind_member hmore)
      simp only [List.append_assoc, List.cons_append, List.length_append, List.length_cons]
        at hbudget ⊢
      rw [readMembers_known hfield hunseen hkey hcolon hchange]
      obtain ⟨budget, rfl⟩ : ∃ b, budget = b + 1 := ⟨budget - 1, by omega⟩
      refine ih ?_ ?_ hnodup.2 ?_ hmore budget (by omega)
      · exact fun f hf => hfields f (List.mem_cons_of_mem _ hf)
      · intro f hf hmem
        rcases List.mem_cons.mp hmem with heq | hmem
        · exact hnodup.1 (heq ▸ List.mem_map_of_mem hf)
        · exact hnew f (List.mem_cons_of_mem _ hf) hmem
      · intro f hf
        rcases hall f hf with hmem | hmem
        · exact Or.inl (List.mem_cons_of_mem _ hmem)
        · rcases List.mem_cons.mp hmem with rfl | hmem
          · exact Or.inl List.mem_cons_self
          · exact Or.inr hmem

theorem read_object {blanks : List Char} (hblanks : Blanks blanks) (inner rest : List Char) :
    schema.read (blanks ++ ('\x7b' :: (inner ++ ['\x7d']) ++ rest)) =
      schema.readMembers ((inner ++ '\x7d' :: rest).length + 1) true [] schema.base
        (inner ++ '\x7d' :: rest) := by
  unfold Schema.read
  rw [skipSpace_enclosed rfl hblanks]
  rfl

/-- **The fields restore the record**: their keys are different, each reads what it writes, and their
changes make the record out of the base. -/
structure Restores (schema : Schema ρ) (puts : List (ρ → ρ → ρ)) : Prop where
  distinct : (schema.fields.map Field.key).Nodup
  reads : List.Forall₂ Field.Reads schema.fields puts
  restored : ∀ record, restore puts record schema.base = record

/-- **Then the codec of the record is faithful.** -/
theorem Restores.faithful {puts : List (ρ → ρ → ρ)} (h : schema.Restores puts) :
    schema.codec.Faithful := by
  intro record blanks text rest hblanks hspells _
  change schema.read _ = _
  generalize hwritten : schema.codec.write record = written at hspells
  cases hspells with
  | @object members inner hinside =>
    have hmembers : schema.fields.map (fun f => (f.key, f.write record)) = members := by
      cases hwritten
      rfl
    have hread : schema.readMembers ((inner ++ '\x7d' :: rest).length + 1) true [] schema.base
        (inner ++ '\x7d' :: rest) = .ok (restore puts record schema.base, rest) := by
      refine readMembers_written h.distinct record h.reads (fun _ hf => hf)
        (fun _ _ => List.not_mem_nil) h.distinct (fun _ hf => Or.inr hf) (hmembers ▸ hinside) ?_
      rw [List.length_append]
      omega
    rw [read_object hblanks, hread, h.restored]
  | _ => cases hwritten

end Schema

/-! ### Whole texts -/

theorem Codec.Faithful.decode {codec : Codec α} (h : codec.Faithful) {value : α} {text : List Char}
    (hspells : Spells (codec.write value) text) :
    codec.decode (String.ofList text) = .ok value := by
  have hread : codec.read text = .ok (value, []) := by
    have hread := h value [] text [] blanks_nil hspells ends_nil
    rwa [List.append_nil, List.nil_append] at hread
  have hchars : codec.decodeChars text = .ok value := by
    unfold Codec.decodeChars
    rw [hread]
    rfl
  unfold Codec.decode
  rw [String.toList_ofList, hchars]
  rfl

/-- **Values make the round trip through documents**: both layouts of a value are read as the value,
and so what was read from any text, written and read again, is written the same. -/
structure Codec.RoundTrips (codec : Codec α) : Prop where
  compact : ∀ value, codec.decode (codec.compact value) = .ok value
  pretty : ∀ value, codec.decode (codec.pretty value) = .ok value
  again : ∀ text value, codec.decode text = .ok value →
    ∃ reread, codec.decode (codec.compact value) = .ok reread ∧
      codec.compact reread = codec.compact value

theorem Codec.Faithful.roundTrips {codec : Codec α} (h : codec.Faithful) : codec.RoundTrips where
  compact _ := h.decode (spells_compact _)
  pretty _ := h.decode (spells_pretty _)
  again _ value _ := ⟨value, h.decode (spells_compact _), rfl⟩

end PlatformBridge.Json
