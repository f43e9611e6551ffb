import PlatformBridge.Proofs.Json.Literal

/-!
# Spellings of a document

A document can be spelled in many ways: between any two tokens there may be blanks. The two layouts,
in one line and over several lines, are two spellings.

* `Spells v text` — the text is a spelling of the document `v`;
* `spells_compact`, `spells_pretty` — the two layouts spell the document;
* `ends_behind_member` — a numeral that is the value of a member ends where the member does.
-/

namespace PlatformBridge.Json

/-! ### Blanks -/

/-- There are only blanks in the text. -/
def Blanks (text : List Char) : Prop := ∀ c ∈ text, isSpace c = true

theorem blanks_nil : Blanks [] := List.forall_mem_nil _

theorem blanks_space : Blanks [' '] := by
  intro c hc
  rw [List.mem_singleton.mp hc]
  rfl

theorem Blanks.append {a b : List Char} (ha : Blanks a) (hb : Blanks b) : Blanks (a ++ b) :=
  List.forall_mem_append.mpr ⟨ha, hb⟩

theorem blanks_newline (level : Nat) : Blanks (Value.newline level) := by
  intro c hc
  rcases List.mem_cons.mp hc with rfl | hc
  · rfl
  · rw [(List.mem_replicate.mp hc).2]
    rfl

theorem continuesNumeral_of_isSpace {c : Char} (h : isSpace c = true) :
    continuesNumeral c = false := by
  have hcases : ((c = ' ' ∨ c = '\n') ∨ c = '\t') ∨ c = '\r' := by
    simpa [isSpace] using h
  rcases hcases with ((rfl | rfl) | rfl) | rfl <;> rfl

theorem Blanks.ends {blanks rest : List Char} (h : Blanks blanks) (hrest : Ends rest) :
    Ends (blanks ++ rest) := by
  cases blanks with
  | nil => exact hrest
  | cons c blanks => exact ends_cons (continuesNumeral_of_isSpace (h c List.mem_cons_self))

theorem skipSpace_enclosed {blanks : List Char} {opening closing : Char} (h : isSpace opening = false)
    (hblanks : Blanks blanks) (inner rest : List Char) :
    skipSpace (blanks ++ (opening :: (inner ++ [closing]) ++ rest)) =
      opening :: (inner ++ closing :: rest) := by
  rw [skipSpace_append hblanks, List.cons_append, skipSpace_cons h, List.append_assoc]
  rfl

/-! ### Spellings -/

/-- What stands before an item or a member that is not the first one. -/
def separator (first : Bool) : List Char := if first then [] else [',']

/-- What stands before the first item is blank. -/
theorem skipSpace_first {before between : List Char} {c : Char} (hbefore : Blanks before)
    (hbetween : Blanks between) (hc : isSpace c = false) (tail : List Char) :
    skipSpace (before ++ (separator true ++ (between ++ c :: tail))) = c :: tail := by
  rw [skipSpace_append hbefore]
  change skipSpace (between ++ c :: tail) = _
  rw [skipSpace_append hbetween, skipSpace_cons hc]

/-- What stands before the comma is blank. -/
theorem skipSpace_next {before : List Char} (hbefore : Blanks before) (more : List Char) :
    skipSpace (before ++ (separator false ++ more)) = ',' :: more := by
  rw [skipSpace_append hbefore]
  rfl

mutual

/-- **The text is a spelling of the document.** -/
inductive Spells : Value → List Char → Prop
  | null : Spells .null ['n', 'u', 'l', 'l']
  | boolean (b : Bool) : Spells (.boolean b) (Value.booleanText b)
  | integer (n : Int) : Spells (.integer n) (Value.integerText n)
  | string (s : String) : Spells (.string s) (quote s.toList)
  | list {items : List Value} {text : List Char} (inside : SpellsItems true items text) :
    Spells (.list items) ('[' :: (text ++ [']']))
  | object {members : List (String × Value)} {text : List Char}
    (inside : SpellsMembers true members text) :
    Spells (.object members) ('\x7b' :: (text ++ ['\x7d']))

/-- The text spells the items that are left, the first one or others before them. -/
inductive SpellsItems : (first : Bool) → List Value → List Char → Prop
  | done {first : Bool} {blanks : List Char} (h : Blanks blanks) : SpellsItems first [] blanks
  | item {first : Bool} {before between text more : List Char} {value : Value}
    {items : List Value} (hbefore : Blanks before) (hbetween : Blanks between)
    (hvalue : Spells value text) (hmore : SpellsItems false items more) :
    SpellsItems first (value :: items)
      (before ++ (separator first ++ (between ++ (text ++ more))))

/-- The text spells the members that are left, the first one or others before them. -/
inductive SpellsMembers : (first : Bool) → List (String × Value) → List Char → Prop
  | done {first : Bool} {blanks : List Char} (h : Blanks blanks) : SpellsMembers first [] blanks
  | member {first : Bool} {before between behind ahead text more : List Char} {key : String}
    {value : Value} {members : List (String × Value)} (hbefore : Blanks before)
    (hbetween : Blanks between) (hbehind : Blanks behind) (hahead : Blanks ahead)
    (hvalue : Spells value text) (hmore : SpellsMembers false members more) :
    SpellsMembers first ((key, value) :: members)
      (before ++ (separator first ++ (between ++ (quote key.toList ++
        (behind ++ ':' :: (ahead ++ (text ++ more)))))))

end

theorem SpellsItems.behind_comma {value : Value} {items : List Value} {text : List Char}
    (h : SpellsItems true (value :: items) text) : SpellsItems false (value :: items) (',' :: text) := by
  cases h with
  | item hbefore hbetween hvalue hmore =>
    have hitem : SpellsItems false (value :: items) _ :=
      .item blanks_nil (hbefore.append hbetween) hvalue hmore
    simpa [separator] using hitem

theorem SpellsMembers.behind_comma {key : String} {value : Value} {members : List (String × Value)}
    {text : List Char} (h : SpellsMembers true ((key, value) :: members) text) :
    SpellsMembers false ((key, value) :: members) (',' :: text) := by
  cases h with
  | member hbefore hbetween hbehind hahead hvalue hmore =>
    have hmember : SpellsMembers false ((key, value) :: members) _ :=
      .member blanks_nil (hbefore.append hbetween) hbehind hahead hvalue hmore
    simpa [separator] using hmember

theorem ends_behind_member {members : List (String × Value)} {more rest : List Char}
    (h : SpellsMembers false members more) : Ends (more ++ '\x7d' :: rest) := by
  cases h with
  | done hblanks => exact hblanks.ends (ends_cons rfl)
  | member hbefore =>
    rw [List.append_assoc]
    exact hbefore.ends (ends_cons rfl)

/-! ### The two layouts -/

mutual

/-- **The layout in one line is a spelling.** -/
theorem spells_compact : ∀ v : Value, Spells v v.compact
  | .null => .null
  | .boolean b => .boolean b
  | .integer n => .integer n
  | .string s => .string s
  | .list items => .list (spells_compactItems items)
  | .object members => .object (spells_compactMembers members)

theorem spells_compactItems : ∀ items : List Value,
    SpellsItems true items (Value.compactItems items)
  | [] => .done blanks_nil
  | [item] => by
    have hitem : SpellsItems true [item] _ :=
      .item blanks_nil blanks_nil (spells_compact item) (.done blanks_nil)
    simpa [separator, Value.compactItems] using hitem
  | item :: next :: items => by
    have hmore := (spells_compactItems (next :: items)).behind_comma
    have hitem : SpellsItems true (item :: next :: items) _ :=
      .item blanks_nil blanks_nil (spells_compact item) hmore
    simpa [separator, Value.compactItems] using hitem

theorem spells_compactMembers : ∀ members : List (String × Value),
    SpellsMembers true members (Value.compactMembers members)
  | [] => .done blanks_nil
  | [(key, value)] => by
    have hmember : SpellsMembers true [(key, value)] _ :=
      .member blanks_nil blanks_nil blanks_nil blanks_nil (spells_compact value) (.done blanks_nil)
    simpa [separator, Value.compactMembers] using hmember
  | (key, value) :: (nextKey, nextValue) :: members => by
    have hmore := (spells_compactMembers ((nextKey, nextValue) :: members)).behind_comma
    have hmember : SpellsMembers true ((key, value) :: (nextKey, nextValue) :: members) _ :=
      .member blanks_nil blanks_nil blanks_nil blanks_nil (spells_compact value) hmore
    simpa [separator, Value.compactMembers] using hmember

end

mutual

theorem spells_prettyAt : ∀ (level : Nat) (v : Value), Spells v (v.prettyAt level)
  | _, .null => .null
  | _, .boolean b => .boolean b
  | _, .integer n => .integer n
  | _, .string s => .string s
  | _, .list [] => .list (.done blanks_nil)
  | level, .list (item :: items) => by
    have hitems := spells_prettyItems (level + 1) (item :: items) (blanks_newline level)
    simpa [Value.prettyAt] using Spells.list hitems
  | _, .object [] => .object (.done blanks_nil)
  | level, .object (member :: members) => by
    have hmembers := spells_prettyMembers (level + 1) (member :: members) (blanks_newline level)
    simpa [Value.prettyAt] using Spells.object hmembers

/-- The items with the new line that stands behind them. -/
theorem spells_prettyItems : ∀ (level : Nat) (items : List Value) {last : List Char}, Blanks last →
    SpellsItems true items (Value.prettyItems level items ++ last)
  | _, [], _, hlast => .done hlast
  | level, [item], _, hlast => by
    have hitem : SpellsItems true [item] _ :=
      .item (blanks_newline level) blanks_nil (spells_prettyAt level item) (.done hlast)
    simpa [separator, Value.prettyItems] using hitem
  | level, item :: next :: items, _, hlast => by
    have hmore := (spells_prettyItems level (next :: items) hlast).behind_comma
    have hitem : SpellsItems true (item :: next :: items) _ :=
      .item (blanks_newline level) blanks_nil (spells_prettyAt level item) hmore
    simpa [separator, Value.prettyItems] using hitem

/-- The members with the new line that stands behind them. -/
theorem spells_prettyMembers : ∀ (level : Nat) (members : List (String × Value)) {last : List Char},
    Blanks last → SpellsMembers true members (Value.prettyMembers level members ++ last)
  | _, [], _, hlast => .done hlast
  | level, [(key, value)], _, hlast => by
    have hmember : SpellsMembers true [(key, value)] _ :=
      .member (blanks_newline level) blanks_nil blanks_nil blanks_space
        (spells_prettyAt level value) (.done hlast)
    simpa [separator, Value.prettyMembers] using hmember
  | level, (key, value) :: (nextKey, nextValue) :: members, _, hlast => by
    have hmore := (spells_prettyMembers level ((nextKey, nextValue) :: members) hlast).behind_comma
    have hmember : SpellsMembers true ((key, value) :: (nextKey, nextValue) :: members) _ :=
      .member (blanks_newline level) blanks_nil blanks_nil blanks_space
        (spells_prettyAt level value) hmore
    simpa [separator, Value.prettyMembers] using hmember

end

/-- **The layout over several lines is a spelling.** -/
theorem spells_pretty (v : Value) : Spells v (v.prettyAt 0) := spells_prettyAt 0 v

end PlatformBridge.Json
