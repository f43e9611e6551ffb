import PlatformBridge.Proofs.Json.Meaning

/-!
# What members make of a record

A record is read member by member. Each member with the key of a field is a change of the record, the
others are passed over, and at the end no field may be missing. In a list each item is the change of
the field at its place.

* `Settles read` — the reader takes each value whole or refuses it, whatever follows;
* `Schema.Makes`, `Schema.Lists` — what members, or items, make of a record, member by member;
* `Schema.readMembers_of_makes`, `Schema.refused_members` — reading members makes just that, and refuses
  members that make nothing;
* `Schema.follows_read` — so a schema of which every field must be given follows what its fields do.
-/

namespace PlatformBridge.Json

variable {α ρ : Type}

/-- **The reader takes each value whole or refuses it.** -/
def Settles (read : Reader α) : Prop :=
  ∀ text, IsValue text → (∃ value, Reads read text value) ∨ Refuses read text

theorem Follows.settles {read : Reader α} {spells : α → List Char → Prop} (h : Follows read spells) :
    Settles read := by
  intro text hvalue
  by_cases hnone : ∀ value, ¬ spells value text
  · exact .inr (h.refuses hvalue hnone)
  · obtain ⟨value, hspells⟩ := not_forall_not.mp hnone
    exact .inl ⟨value, h.reads hspells⟩

/-! ### The front -/

/-- **The front of members is read**: the key, if it spells one, and the colon up to the value. -/
theorem IsMembers.front {first : Bool} {key : Option String} {value : List Char} {members : Members}
    {text : List Char} (h : IsMembers first ((key, value) :: members) text) (rest : List Char) :
    ∃ ahead more, Blanks ahead ∧ IsValue value ∧ IsMembers false members more ∧
      more.length < text.length ∧
      (∀ k, key = some k → ∃ behind,
        Schema.readKey first (text ++ '\x7d' :: rest) = .ok (some k, behind) ∧
        readColon behind = .ok (ahead ++ (value ++ (more ++ '\x7d' :: rest)))) ∧
      (key = none → ∃ fault, Schema.readKey first (text ++ '\x7d' :: rest) = .error fault) := by
  cases h with
  | @member _ before between body behind ahead _ more _ _ hbefore hbetween hkey hbehind hahead hvalue
      hmore =>
    refine ⟨ahead, more, hahead, hvalue, hmore, ?_, ?_, ?_⟩
    · simp only [List.length_append, List.length_cons]
      omega
    · rintro k rfl
      refine ⟨behind ++ ':' :: (ahead ++ (value ++ (more ++ '\x7d' :: rest))), ?_,
        readColon_blanks hbehind⟩
      simp only [List.append_assoc, List.cons_append]
      rw [readKey_eq first hbefore hbetween, readString_key hkey]
      rfl
    · rintro rfl
      obtain ⟨fault, hfault⟩ :=
        refused_key hkey (behind ++ ':' :: (ahead ++ (value ++ (more ++ '\x7d' :: rest))))
      simp only [List.append_assoc, List.cons_append]
      rw [readKey_eq first hbefore hbetween, hfault]
      exact ⟨fault, rfl⟩

theorem IsMembers.isValue {first : Bool} {members : Members} {text : List Char}
    (h : IsMembers first members text) : ∀ member ∈ members, IsValue member.2 := by
  induction members generalizing first text with
  | nil => exact List.forall_mem_nil _
  | cons member members ih =>
    obtain ⟨-, more, -, hvalue, hmore, -⟩ := h.front []
    exact List.forall_mem_cons.mpr ⟨hvalue, ih hmore⟩

theorem IsItems.front {first : Bool} {item : List Char} {items : List (List Char)} {text : List Char}
    (h : IsItems first (item :: items) text) (rest : List Char) :
    ∃ more, IsValue item ∧ IsItems false items more ∧
      Schema.readNext first (text ++ ']' :: rest) = .ok (true, item ++ (more ++ ']' :: rest)) ∧
      ∃ fault, Schema.readListEnd (text ++ ']' :: rest) = .error fault := by
  cases h with
  | @item _ before between _ more _ hbefore hbetween hvalue hmore =>
    refine ⟨more, hvalue, hmore, ?_⟩
    obtain ⟨c, tail, rfl, hspace, hclose⟩ := hvalue.exists_cons
    simp only [List.append_assoc, List.cons_append]
    unfold Schema.readNext Schema.readListEnd
    cases first with
    | true =>
      rw [skipSpace_first hbefore hbetween hspace]
      simp only [if_neg hclose, if_true, true_and]
      split
      · split <;> exact ⟨_, rfl⟩
      · exact ⟨_, rfl⟩
    | false =>
      have hskip : skipSpace (between ++ c :: (tail ++ (more ++ ']' :: rest))) =
          c :: (tail ++ (more ++ ']' :: rest)) := by
        rw [skipSpace_append hbetween, skipSpace_cons hspace]
      have hcomma : ¬ ',' = ']' := by decide
      rw [skipSpace_next hbefore]
      simp only [hskip, if_neg hclose, if_neg hcomma, if_true, Bool.false_eq_true, if_false, true_and]
      split <;> exact ⟨_, rfl⟩

theorem IsItems.isValue {first : Bool} {items : List (List Char)} {text : List Char}
    (h : IsItems first items text) : ∀ item ∈ items, IsValue item := by
  induction items generalizing first text with
  | nil => exact List.forall_mem_nil _
  | cons item items ih =>
    obtain ⟨more, hvalue, hmore, -⟩ := h.front []
    exact List.forall_mem_cons.mpr ⟨hvalue, ih hmore⟩

namespace Schema

variable {schema : Schema ρ}

/-! ### Members -/

/-- **What the members make of a record**, one after the other: a member with the key of a field that
was not given before changes it, and a member with a key of no field leaves it. -/
inductive Makes (schema : Schema ρ) : (seen : List String) → (record : ρ) → Members → ρ → Prop
  | done {seen : List String} {record : ρ} (hmissing : schema.missing? seen = none) :
    Makes schema seen record [] record
  | unknown {seen : List String} {record made : ρ} {key : String} {text : List Char} {members : Members}
    (hkey : schema.field? key = none) (hmore : Makes schema seen record members made) :
    Makes schema seen record ((some key, text) :: members) made
  | known {seen : List String} {record made : ρ} {key : String} {text : List Char} {members : Members}
    {field : Field ρ} {change : ρ → ρ} (hkey : schema.field? key = some field) (hnew : key ∉ seen)
    (hvalue : IsValue text) (hread : Reads field.read text change)
    (hmore : Makes schema (key :: seen) (change record) members made) :
    Makes schema seen record ((some key, text) :: members) made

theorem Makes.named {seen : List String} {record made : ρ} {members : Members}
    (h : schema.Makes seen record members made) : ∀ member ∈ members, member.1 ≠ none := by
  induction h with
  | done => exact List.forall_mem_nil _
  | unknown _ _ ih => exact List.forall_mem_cons.mpr ⟨nofun, ih⟩
  | known _ _ _ _ _ ih => exact List.forall_mem_cons.mpr ⟨nofun, ih⟩

section

variable {first : Bool} {seen : List String} {record : ρ} {budget : Nat} {text rest : List Char}

/-- A member with a key of no field is passed over, whatever its value. -/
theorem readMembers_unknown {key : String} {afterKey value more : List Char}
    (hfield : schema.field? key = none) (hkey : readKey first text = .ok (some key, afterKey))
    (hcolon : readColon afterKey = .ok value) (hvalue : skipValue value = .ok more) :
    schema.readMembers (budget + 1) first seen record text =
      schema.readMembers budget false seen record more := by
  rw [readMembers, hkey]
  simp only [bind, Except.bind, hfield, hcolon, hvalue]

/-- **Reading members makes of the record what they make of it.** -/
theorem readMembers_of_makes {members : Members} {made : ρ}
    (hmakes : schema.Makes seen record members made) (h : IsMembers first members text)
    (hbudget : text.length < budget) (rest : List Char) :
    schema.readMembers budget first seen record (text ++ '\x7d' :: rest) = .ok (made, rest) := by
  obtain ⟨budget, rfl⟩ : ∃ b, budget = b + 1 := ⟨budget - 1, by omega⟩
  -- Along what the members make: each member read leaves a shorter text, so the budget lasts.
  induction hmakes generalizing first budget text with
  | done hmissing =>
    cases h with
    | done hblanks => exact readMembers_done hblanks hmissing
  | unknown hfield _ ih =>
    obtain ⟨ahead, more, hahead, hvalue, hmore, hshort, hkey, -⟩ := h.front rest
    obtain ⟨behind, hkey, hcolon⟩ := hkey _ rfl
    rw [readMembers_unknown hfield hkey hcolon (skipValue_value hvalue hahead (hmore.ends rest))]
    obtain ⟨budget, rfl⟩ : ∃ b, budget = b + 1 := ⟨budget - 1, by omega⟩
    exact ih hmore budget (by omega)
  | known hfield hnew _ hread _ ih =>
    obtain ⟨ahead, more, hahead, hvalue, hmore, hshort, hkey, -⟩ := h.front rest
    obtain ⟨behind, hkey, hcolon⟩ := hkey _ rfl
    rw [readMembers_known hfield hnew hkey hcolon (hread ahead _ hahead (hmore.ends rest))]
    obtain ⟨budget, rfl⟩ : ∃ b, budget = b + 1 := ⟨budget - 1, by omega⟩
    exact ih hmore budget (by omega)

/-- **Members that make nothing are refused**, whatever the budget. -/
theorem refused_members (hsettles : ∀ field ∈ schema.fields, Settles field.read) {members : Members}
    (h : IsMembers first members text) (hnone : ∀ made, ¬ schema.Makes seen record members made)
    (rest : List Char) :
    ∃ fault, schema.readMembers budget first seen record (text ++ '\x7d' :: rest) = .error fault := by
  -- Along the members: the first that can make nothing is refused, whatever follows it.
  induction members generalizing first seen record budget text with
  | nil =>
    cases h with
    | done hblanks =>
      cases hmissing : schema.missing? seen with
      | none => exact absurd (.done hmissing) (hnone record)
      | some key =>
        cases budget with
        | zero => exact ⟨_, rfl⟩
        | succ budget =>
          rw [readMembers, readKey_done first hblanks]
          simp only [bind, Except.bind, hmissing]
          exact ⟨_, rfl⟩
  | cons member members ih =>
    obtain ⟨key, value⟩ := member
    obtain ⟨ahead, more, hahead, hvalue, hmore, -, hkey, hunspelled⟩ := h.front rest
    cases budget with
    | zero => exact ⟨_, rfl⟩
    | succ budget =>
      cases key with
      | none =>
        obtain ⟨fault, hfault⟩ := hunspelled rfl
        rw [readMembers, hfault]
        exact ⟨fault, rfl⟩
      | some key =>
        obtain ⟨behind, hkey, hcolon⟩ := hkey key rfl
        cases hfield : schema.field? key with
        | none =>
          rw [readMembers_unknown hfield hkey hcolon (skipValue_value hvalue hahead (hmore.ends rest))]
          exact ih hmore fun made hmade => hnone made (.unknown hfield hmade)
        | some field =>
          by_cases hseen : key ∈ seen
          · rw [readMembers, hkey]
            simp only [bind, Except.bind, hfield, List.contains_iff_mem.mpr hseen, if_true]
            exact ⟨_, rfl⟩
          · obtain ⟨change, hread⟩ | hrefuses :=
              hsettles field (List.mem_of_find?_eq_some hfield) value hvalue
            · rw [readMembers_known hfield hseen hkey hcolon (hread ahead _ hahead (hmore.ends rest))]
              exact ih hmore fun made hmade => hnone made (.known hfield hseen hvalue hread hmade)
            · obtain ⟨fault, hfault⟩ := hrefuses ahead _ hahead (hmore.ends rest)
              have hunseen : seen.contains key = false := by simpa using hseen
              rw [readMembers, hkey]
              simp only [bind, Except.bind, hfield, hunseen, hcolon, hfault]
              exact ⟨fault, rfl⟩

/-! ### Items -/

/-- **What the items make of a record**: each is a change by the field at its place. -/
inductive Lists : List (Field ρ) → (record : ρ) → List (List Char) → ρ → Prop
  | done {record : ρ} : Lists [] record [] record
  | field {field : Field ρ} {fields : List (Field ρ)} {record made : ρ} {item : List Char}
    {items : List (List Char)} {change : ρ → ρ} (hvalue : IsValue item)
    (hread : Reads field.read item change) (hmore : Lists fields (change record) items made) :
    Lists (field :: fields) record (item :: items) made

theorem readElements_of_lists {fields : List (Field ρ)} {items : List (List Char)} {made : ρ}
    (hlists : Lists fields record items made) {present : Nat} (h : IsItems (present == 0) items text)
    (rest : List Char) :
    schema.readElements fields present record (text ++ ']' :: rest) = .ok (made, rest) := by
  induction hlists generalizing present text with
  | done =>
    cases h with
    | done hblanks =>
      have hskip : skipSpace (text ++ ']' :: rest) = ']' :: rest := skipSpace_append hblanks
      have hend : readListEnd (text ++ ']' :: rest) = .ok rest := by
        unfold readListEnd
        rw [hskip]
        rfl
      simp only [readElements, hend, bind, Except.bind, pure, Except.pure]
  | field _ hread _ ih =>
    obtain ⟨more, -, hmore, hnext, -⟩ := h.front rest
    have hitem := hread [] (more ++ ']' :: rest) blanks_nil (hmore.ends rest)
    rw [List.nil_append] at hitem
    simp only [readElements, hnext, hitem, bind, Except.bind, if_true]
    exact ih hmore

/-- **Items that make nothing are refused**, if every field must be given. -/
theorem refused_items (hcomplete : schema.complete = true) {fields : List (Field ρ)}
    (hsettles : ∀ field ∈ fields, Settles field.read) {items : List (List Char)} {present : Nat}
    (h : IsItems (present == 0) items text) (hnone : ∀ made, ¬ Lists fields record items made)
    (rest : List Char) :
    ∃ fault, schema.readElements fields present record (text ++ ']' :: rest) = .error fault := by
  induction fields generalizing items present record text with
  | nil =>
    cases items with
    | nil => exact absurd .done (hnone record)
    | cons item items =>
      obtain ⟨more, -, -, -, fault, hfault⟩ := h.front rest
      simp only [readElements, hfault]
      exact ⟨fault, rfl⟩
  | cons field fields ih =>
    cases items with
    | nil =>
      cases h with
      | done hblanks =>
        have hskip : skipSpace (text ++ ']' :: rest) = ']' :: rest := skipSpace_append hblanks
        have hnext : readNext (present == 0) (text ++ ']' :: rest) = .ok (false, ']' :: rest) := by
          unfold readNext
          rw [hskip]
          rfl
        simp only [readElements, hnext, hcomplete, bind, Except.bind, Bool.false_eq_true, if_false,
          if_true]
        exact ⟨_, rfl⟩
    | cons item items =>
      obtain ⟨more, hvalue, hmore, hnext, -⟩ := h.front rest
      have hends : Ends (more ++ ']' :: rest) := hmore.ends rest
      obtain ⟨change, hread⟩ | hrefuses := hsettles field List.mem_cons_self item hvalue
      · have hitem := hread [] _ blanks_nil hends
        rw [List.nil_append] at hitem
        simp only [readElements, hnext, hitem, bind, Except.bind, if_true]
        exact ih (fun f hf => hsettles f (List.mem_cons_of_mem _ hf)) hmore fun made hmade =>
          hnone made (.field hvalue hread hmade)
      · obtain ⟨fault, hfault⟩ := hrefuses [] _ blanks_nil hends
        rw [List.nil_append] at hfault
        simp only [readElements, hnext, hfault, bind, Except.bind, if_true]
        exact ⟨fault, rfl⟩

end

/-! ### Records -/

/-- The value is a record: an object or a list whose members, or items, make it. -/
def Spelled (schema : Schema ρ) (record : ρ) (text : List Char) : Prop :=
  (∃ members inner, text = '\x7b' :: (inner ++ ['\x7d']) ∧ IsMembers true members inner ∧
    schema.Makes [] schema.base members record) ∨
  ∃ items inner, text = '[' :: (inner ++ [']']) ∧ IsItems true items inner ∧
    Lists schema.fields schema.base items record

theorem read_list {blanks : List Char} (hblanks : Blanks blanks) (inner rest : List Char) :
    schema.read (blanks ++ ('[' :: (inner ++ [']']) ++ rest)) =
      schema.readElements schema.fields 0 schema.base (inner ++ ']' :: rest) := by
  unfold Schema.read
  rw [skipSpace_enclosed rfl hblanks]
  rfl

theorem reads_object {members : Members} {inner : List Char} {record : ρ}
    (h : IsMembers true members inner) (hmakes : schema.Makes [] schema.base members record) :
    Reads schema.read ('\x7b' :: (inner ++ ['\x7d'])) record := by
  intro blanks rest hblanks _
  rw [read_object hblanks]
  refine readMembers_of_makes hmakes h ?_ rest
  rw [List.length_append]
  omega

theorem refuses_object (hsettles : ∀ field ∈ schema.fields, Settles field.read) {members : Members}
    {inner : List Char} (h : IsMembers true members inner)
    (hnone : ∀ record, ¬ schema.Makes [] schema.base members record) :
    Refuses schema.read ('\x7b' :: (inner ++ ['\x7d'])) := by
  intro blanks rest hblanks _
  rw [read_object hblanks]
  exact refused_members hsettles h hnone rest

/-- **A record of which every field must be given is read as it is spelled**, if its fields are. -/
theorem follows_read (hcomplete : schema.complete = true)
    (hsettles : ∀ field ∈ schema.fields, Settles field.read) :
    Follows schema.read schema.Spelled where
  reads := by
    rintro record _ (⟨members, inner, rfl, hinner, hmakes⟩ | ⟨items, inner, rfl, hinner, hlists⟩)
    · exact reads_object hinner hmakes
    · intro blanks rest hblanks _
      have hfirst : IsItems ((0 : Nat) == 0) items inner := hinner
      rw [read_list hblanks]
      exact readElements_of_lists hlists hfirst rest
  refuses := by
    intro text hvalue hnone
    have hother : ∀ {c : Char} {tail : List Char}, text = c :: tail → isSpace c = false →
        c ≠ '\x7b' → c ≠ '[' → Refuses schema.read text := by
      rintro c tail rfl hspace hbrace hbracket blanks rest hblanks -
      unfold Schema.read
      rw [skipSpace_append hblanks, List.cons_append, skipSpace_cons hspace]
      simp only [if_neg hbrace, if_neg hbracket]
      exact exists_refuse _ _
    cases hvalue with
    | object hinner =>
      exact refuses_object hsettles hinner fun record hmakes =>
        hnone record (.inl ⟨_, _, rfl, hinner, hmakes⟩)
    | @list items inner hinner =>
      intro blanks rest hblanks _
      have hfirst : IsItems ((0 : Nat) == 0) items inner := hinner
      rw [read_list hblanks]
      exact refused_items hcomplete hsettles hfirst (fun record hlists =>
        hnone record (.inr ⟨_, _, rfl, hinner, hlists⟩)) rest
    | null => exact hother rfl rfl (by decide) (by decide)
    | yes => exact hother rfl rfl (by decide) (by decide)
    | no => exact hother rfl rfl (by decide) (by decide)
    | string => exact hother rfl rfl (by decide) (by decide)
    | number hnumeral =>
      obtain ⟨c, tail, rfl, hc⟩ := hnumeral.exists_cons
      exact hother rfl (isSpace_of_startsNumeral hc) (ne_of_startsNumeral hc rfl)
        (ne_of_startsNumeral hc rfl)

end Schema

end PlatformBridge.Json
