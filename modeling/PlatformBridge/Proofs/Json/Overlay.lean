import Mathlib.Data.List.Forall2
import PlatformBridge.Proofs.Json.Members
import PlatformBridge.Proofs.Json.Slot

/-!
# Documents that leave fields out

Members are read one after the other, each into the record that the members before it made. What comes
of it is the default with the fields replaced that the members give, and a record of which every field
must be given may also be the items of a list.

* `Field.Fills`, `Schema.Covers` — the fields of the schema fill the slots, one each;
* `Schema.Covers.given`, `Schema.Covers.exists_makes` — what members make has in each slot what they
  give, and members that can be read make something;
* `Schema.Covers.makes_iff`, `Schema.Covers.lists_iff` — so what members make is the overlaid default,
  and what items make is the record that they spell slot by slot;
* `Codec.Overlays`, `Schema.Covers.overlays` — documents are read as defaults with overrides.
-/

namespace PlatformBridge.Json

variable {ρ : Type}

/-! ### Fields that fill slots -/

/-- **The field fills the slot**: reading a value puts what it spells there and keeps the others. -/
structure Field.Fills (field : Field ρ) (slots : List (Slot ρ)) (slot : Slot ρ)
    (set : slot.Kind → ρ → ρ) : Prop where
  key : field.key = slot.key
  follows : Follows field.read fun change text => ∃ value, slot.spells value text ∧ set value = change
  get_set : ∀ value record, slot.get (set value record) = value
  keeps : ∀ other ∈ slots, other.key ≠ slot.key →
    ∀ value record, other.get (set value record) = other.get record

theorem Field.fills_of {α : Type} {key : String} {codec : Codec α} {get : ρ → α} {set : α → ρ → ρ}
    {slots : List (Slot ρ)} {spells : α → List Char → Prop} (h : Follows codec.read spells)
    (hget : ∀ value record, get (set value record) = value)
    (hkeeps : ∀ other ∈ slots, other.key ≠ key →
      ∀ value record, other.get (set value record) = other.get record) :
    (Field.of key codec get set).Fills slots ⟨key, spells, get⟩ set where
  key := rfl
  follows := by
    constructor
    · rintro _ text ⟨value, hspells, rfl⟩ blanks rest hblanks hrest
      simp only [Field.of, h.reads hspells blanks rest hblanks hrest]
      rfl
    · intro text hvalue hnone blanks rest hblanks hrest
      have hunspelled : ∀ value, ¬ spells value text := fun value hspells =>
        hnone (set value) ⟨value, hspells, rfl⟩
      obtain ⟨fault, hfault⟩ := h.refuses hvalue hunspelled blanks rest hblanks hrest
      simp only [Field.of, hfault]
      exact ⟨fault, rfl⟩
  get_set := hget
  keeps := hkeeps

namespace Schema

variable {schema : Schema ρ} {slots : List (Slot ρ)}

/-- What the fields that a document leaves out hold, if they may be left out. -/
def default? (schema : Schema ρ) (record : ρ) : Option ρ :=
  if schema.complete then none else some record

theorem default?_congr {slot : Slot ρ} {members : Members} {default default' record : ρ}
    (h : slot.Given members (schema.default? default) record)
    (hdefault : slot.get default = slot.get default') :
    slot.Given members (schema.default? default') record := by
  by_cases hcomplete : schema.complete = true
  · rw [default?, if_pos hcomplete] at h ⊢
    exact h
  · rw [default?, if_neg hcomplete] at h ⊢
    cases h with
    | present hmem hspells => exact .present hmem hspells
    | absent habsent hsame => exact .absent habsent (hsame.trans hdefault)

/-- **The fields of the schema fill the slots**, one each, and there is nothing else in a record. -/
structure Covers (schema : Schema ρ) (slots : List (Slot ρ)) : Prop where
  distinct : (slots.map Slot.key).Nodup
  fills : List.Forall₂ (fun field slot => ∃ set, field.Fills slots slot set) schema.fields slots
  ext : ∀ record record', (∀ slot ∈ slots, slot.get record = slot.get record') → record = record'

theorem exists_of_forall₂ {α β : Type*} {R : α → β → Prop} {as : List α} {bs : List β}
    (h : List.Forall₂ R as bs) {a : α} (ha : a ∈ as) : ∃ b ∈ bs, R a b := by
  induction h with
  | nil => cases ha
  | cons hab _ ih =>
    rcases List.mem_cons.mp ha with rfl | ha
    · exact ⟨_, List.mem_cons_self, hab⟩
    · obtain ⟨b, hb, hab⟩ := ih ha
      exact ⟨b, List.mem_cons_of_mem _ hb, hab⟩

/-- **The members that are left can be read** after those with the keys `seen`: no slot is given twice,
what is given spells something, and no slot will be missing. -/
structure Ready (schema : Schema ρ) (slots : List (Slot ρ)) (seen : List String) (members : Members) :
    Prop where
  values : ∀ member ∈ members, IsValue member.2
  named : ∀ member ∈ members, member.1 ≠ none
  once : ∀ slot ∈ slots, slot.times members ≤ 1 ∧ (slot.key ∈ seen → slot.times members = 0)
  typed : ∀ slot ∈ slots, ∀ text, (some slot.key, text) ∈ members → ∃ value, slot.spells value text
  present : schema.complete = true → ∀ slot ∈ slots,
    slot.key ∈ seen ∨ ∃ text, (some slot.key, text) ∈ members

section

variable {seen : List String} {key : String} {text : List Char} {members : Members}

theorem Ready.behind_unknown (h : schema.Ready slots seen ((some key, text) :: members))
    (hkey : ∀ slot ∈ slots, key ≠ slot.key) : schema.Ready slots seen members where
  values := (List.forall_mem_cons.mp h.values).2
  named := (List.forall_mem_cons.mp h.named).2
  once slot hslot := by
    have honce := h.once slot hslot
    rwa [Slot.times_cons_of_ne (hkey slot hslot)] at honce
  typed slot hslot text hmem := h.typed slot hslot text (List.mem_cons_of_mem _ hmem)
  present hcomplete slot hslot := by
    refine (h.present hcomplete slot hslot).imp_right fun ⟨value, hmem⟩ => ⟨value, ?_⟩
    rcases List.mem_cons.mp hmem with heq | hmem
    · simp only [Prod.mk.injEq, Option.some.injEq] at heq
      exact absurd heq.1.symm (hkey slot hslot)
    · exact hmem

theorem Ready.behind_known {slot : Slot ρ}
    (h : schema.Ready slots seen ((some slot.key, text) :: members)) :
    schema.Ready slots (slot.key :: seen) members where
  values := (List.forall_mem_cons.mp h.values).2
  named := (List.forall_mem_cons.mp h.named).2
  once other hother := by
    have honce := h.once other hother
    by_cases hsame : slot.key = other.key
    · rw [hsame, Slot.times_cons_self] at honce
      exact ⟨by omega, fun _ => by omega⟩
    · rw [Slot.times_cons_of_ne hsame] at honce
      refine ⟨honce.1, fun hseen => honce.2 ?_⟩
      exact (List.mem_cons.mp hseen).resolve_left (Ne.symm hsame)
  typed other hother text hmem := h.typed other hother text (List.mem_cons_of_mem _ hmem)
  present hcomplete other hother := by
    obtain hseen | ⟨value, hmem⟩ := h.present hcomplete other hother
    · exact .inl (List.mem_cons_of_mem _ hseen)
    rcases List.mem_cons.mp hmem with heq | hmem
    · simp only [Prod.mk.injEq, Option.some.injEq] at heq
      exact .inl (heq.1 ▸ List.mem_cons_self)
    · exact .inr ⟨value, hmem⟩

theorem Ready.of_overlaid {record : ρ} (hvalues : ∀ member ∈ members, IsValue member.2)
    (honce : Once slots members)
    (hrecord : Overlaid slots (schema.default? schema.base) members record) :
    schema.Ready slots [] members where
  values := hvalues
  named := honce.named
  once slot hslot := ⟨honce.once slot hslot, fun hseen => absurd hseen List.not_mem_nil⟩
  typed slot hslot text hmem := by
    have hgiven := hrecord slot hslot
    generalize schema.default? schema.base = default? at hgiven
    cases hgiven with
    | present hmem' hspells =>
      rw [Slot.eq_of_times_le (honce.once slot hslot) hmem' hmem] at hspells
      exact ⟨_, hspells⟩
    | absent habsent => exact absurd hmem (habsent text)
  present hcomplete slot hslot := by
    have hgiven := hrecord slot hslot
    rw [default?, if_pos hcomplete] at hgiven
    cases hgiven with
    | present hmem => exact .inr ⟨_, hmem⟩

end

section

variable {fields : List (Field ρ)} {rest : List (Slot ρ)} {items : List (List Char)} {record made : ρ}

/-- Items fill the slots of their fields, and keep the other slots. -/
theorem Lists.given (hlists : Lists fields record items made)
    (hfills : List.Forall₂ (fun field slot => ∃ set, Field.Fills field slots slot set) fields rest)
    (hdistinct : (rest.map Slot.key).Nodup) (hrest : ∀ slot ∈ rest, slot ∈ slots) :
    (∀ slot ∈ slots, slot.key ∉ rest.map Slot.key → slot.get made = slot.get record) ∧
      List.Forall₂ (fun slot item => slot.spells (slot.get made) item) rest items := by
  induction hlists generalizing rest with
  | done =>
    cases hfills
    exact ⟨fun _ _ _ => rfl, .nil⟩
  | field hvalue hread _ ih =>
    cases hfills with
    | @cons _ slot _ rest hfill hfills =>
      obtain ⟨set, hfill⟩ := hfill
      obtain ⟨value, hspells, rfl⟩ := hfill.follows.spells_of_reads hvalue hread
      obtain ⟨hslot, hrest⟩ := List.forall_mem_cons.mp hrest
      rw [List.map_cons, List.nodup_cons] at hdistinct
      obtain ⟨hkept, hgiven⟩ := ih hfills hdistinct.2 hrest
      refine ⟨fun other hother hkey => ?_, .cons ?_ hgiven⟩
      · rw [List.map_cons, List.mem_cons, not_or] at hkey
        rw [hkept other hother hkey.2, hfill.keeps other hother hkey.1]
      · rw [hkept slot hslot hdistinct.1, hfill.get_set]
        exact hspells

theorem exists_lists (record : ρ) (hvalues : ∀ item ∈ items, IsValue item)
    (hfills : List.Forall₂ (fun field slot => ∃ set, Field.Fills field slots slot set) fields rest)
    (hitems : List.Forall₂ (fun slot item => ∃ value, slot.spells value item) rest items) :
    ∃ made, Lists fields record items made := by
  induction hfills generalizing record items with
  | nil =>
    cases hitems
    exact ⟨record, .done⟩
  | cons hfill _ ih =>
    cases hitems with
    | cons hspells hitems =>
      obtain ⟨set, hfill⟩ := hfill
      obtain ⟨value, hspells⟩ := hspells
      obtain ⟨hvalue, hvalues⟩ := List.forall_mem_cons.mp hvalues
      obtain ⟨made, hmade⟩ := ih (set value record) hvalues hitems
      exact ⟨made, .field hvalue (hfill.follows.reads ⟨value, hspells, rfl⟩) hmade⟩

end

namespace Covers

variable (h : schema.Covers slots)
include h

theorem exists_slot {field : Field ρ} (hfield : field ∈ schema.fields) :
    ∃ slot ∈ slots, ∃ set, field.Fills slots slot set :=
  exists_of_forall₂ h.fills hfield

theorem settles {field : Field ρ} (hfield : field ∈ schema.fields) : Settles field.read := by
  obtain ⟨slot, -, set, hfills⟩ := h.exists_slot hfield
  exact hfills.follows.settles

theorem keys_eq : schema.fields.map Field.key = slots.map Slot.key := by
  have hkeys : List.Forall₂ (fun field slot => field.key = slot.key) schema.fields slots :=
    h.fills.imp fun _ _ ⟨_, hfills⟩ => hfills.key
  rwa [← List.forall₂_eq_eq_eq, List.forall₂_map_left_iff, List.forall₂_map_right_iff]

theorem exists_field {slot : Slot ρ} (hslot : slot ∈ slots) :
    ∃ field set, schema.field? slot.key = some field ∧ field.Fills slots slot set := by
  have hflip : List.Forall₂ (fun slot field => ∃ set, Field.Fills field slots slot set) slots
      schema.fields := List.Forall₂.flip h.fills
  obtain ⟨field, hfield, set, hfills⟩ := exists_of_forall₂ hflip hslot
  refine ⟨field, set, ?_, hfills⟩
  rw [← hfills.key]
  exact field?_of_mem (h.keys_eq ▸ h.distinct) hfield

theorem exists_slot_of_field? {key : String} {field : Field ρ}
    (hfield : schema.field? key = some field) :
    ∃ slot ∈ slots, slot.key = key ∧ ∃ set, field.Fills slots slot set := by
  obtain ⟨slot, hslot, set, hfills⟩ := h.exists_slot (List.mem_of_find?_eq_some hfield)
  have hkey : field.key = key := by simpa using List.find?_some hfield
  exact ⟨slot, hslot, by rw [← hfills.key, hkey], set, hfills⟩

theorem ne_of_field?_eq_none {key : String} (hfield : schema.field? key = none) {slot : Slot ρ}
    (hslot : slot ∈ slots) : key ≠ slot.key := by
  rintro rfl
  obtain ⟨field, -, hfound, -⟩ := h.exists_field hslot
  rw [hfield] at hfound
  cases hfound

theorem missing?_eq_none_iff {seen : List String} : schema.missing? seen = none ↔
    (schema.complete = true → ∀ slot ∈ slots, slot.key ∈ seen) := by
  have hkeys : (∀ field ∈ schema.fields, field.key ∈ seen) ↔ ∀ slot ∈ slots, slot.key ∈ seen := by
    rw [← List.forall_mem_map (P := fun key => key ∈ seen), h.keys_eq, List.forall_mem_map]
  rw [← hkeys]
  unfold missing?
  cases schema.complete <;> simp [List.find?_eq_none]

/-! ### What members make -/

section

variable {seen : List String} {record made : ρ} {members : Members} {slot : Slot ρ}

/-- What was given before is not given again, and nothing is given twice. -/
theorem times_le (hmakes : schema.Makes seen record members made) (hslot : slot ∈ slots) :
    slot.times members ≤ 1 ∧ (slot.key ∈ seen → slot.times members = 0) := by
  induction hmakes with
  | done => exact ⟨Nat.zero_le 1, fun _ => rfl⟩
  | unknown hkey _ ih =>
    rw [Slot.times_cons_of_ne (h.ne_of_field?_eq_none hkey hslot)]
    exact ih
  | @known seen record made key text members field change hkey hnew _ _ _ ih =>
    by_cases hsame : key = slot.key
    · subst hsame
      have hzero : slot.times members = 0 := ih.2 List.mem_cons_self
      rw [Slot.times_cons_self, hzero]
      exact ⟨Nat.le_refl 1, fun hseen => absurd hseen hnew⟩
    · rw [Slot.times_cons_of_ne hsame]
      exact ⟨ih.1, fun hseen => ih.2 (List.mem_cons_of_mem _ hseen)⟩

theorem exists_set {key : String} {field : Field ρ} {text : List Char} {change : ρ → ρ}
    (hkey : schema.field? key = some field) (hvalue : IsValue text)
    (hread : Reads field.read text change) : ∃ slot ∈ slots, slot.key = key ∧
      ∃ set value, field.Fills slots slot set ∧ slot.spells value text ∧ change = set value := by
  obtain ⟨slot, hslot, hsame, set, hfills⟩ := h.exists_slot_of_field? hkey
  obtain ⟨value, hspells, hset⟩ := hfills.follows.spells_of_reads hvalue hread
  exact ⟨slot, hslot, hsame, set, value, hfills, hspells, hset.symm⟩

theorem eq_of_key_eq {slot' : Slot ρ} (hslot : slot ∈ slots) (hslot' : slot' ∈ slots)
    (hkey : slot.key = slot'.key) : slot = slot' :=
  List.inj_on_of_nodup_map h.distinct hslot hslot' hkey

/-- A field that was given before is kept. -/
theorem kept (hmakes : schema.Makes seen record members made) (hslot : slot ∈ slots)
    (hseen : slot.key ∈ seen) : slot.get made = slot.get record := by
  induction hmakes with
  | done => rfl
  | unknown _ _ ih => exact ih hseen
  | known hkey hnew hvalue hread _ ih =>
    obtain ⟨other, hother, rfl, set, value, hfills, -, rfl⟩ := h.exists_set hkey hvalue hread
    have hne : slot.key ≠ other.key := fun hsame => hnew (hsame ▸ hseen)
    rw [ih (List.mem_cons_of_mem _ hseen), hfills.keeps slot hslot hne]

/-- **Members give each field that was not given before.** -/
theorem given (hmakes : schema.Makes seen record members made) (hslot : slot ∈ slots)
    (hseen : slot.key ∉ seen) : slot.Given members (schema.default? record) made := by
  induction hmakes with
  | done hmissing =>
    have hpartial : schema.complete = false := Bool.of_not_eq_true fun hcomplete =>
      hseen (h.missing?_eq_none_iff.mp hmissing hcomplete slot hslot)
    rw [default?, hpartial]
    exact .absent (fun _ => List.not_mem_nil) rfl
  | unknown hkey _ ih => exact (ih hseen).mono (h.ne_of_field?_eq_none hkey hslot)
  | @known seen record made key text members field change hkey hnew hvalue hread hmore ih =>
    obtain ⟨other, hother, rfl, set, value, hfills, hspells, rfl⟩ := h.exists_set hkey hvalue hread
    -- The slot is given here, and nothing later changes it, or it is given later if at all.
    by_cases hsame : slot.key = other.key
    · obtain rfl := h.eq_of_key_eq hslot hother hsame
      have hput : slot.get made = value := by
        rw [h.kept hmore hslot List.mem_cons_self, hfills.get_set]
      exact .present List.mem_cons_self (hput ▸ hspells)
    · have hlater := ih (by simpa [hsame] using hseen)
      have hdefault : slot.get (set value record) = slot.get record :=
        hfills.keeps slot hslot hsame value record
      exact default?_congr (hlater.mono (Ne.symm hsame)) hdefault

/-- **Members that can be read make a record.** -/
theorem exists_makes (record : ρ) (hready : schema.Ready slots seen members) :
    ∃ made, schema.Makes seen record members made := by
  induction members generalizing seen record with
  | nil =>
    refine ⟨record, .done (h.missing?_eq_none_iff.mpr fun hcomplete slot hslot => ?_)⟩
    obtain hseen | ⟨text, hmem⟩ := hready.present hcomplete slot hslot
    · exact hseen
    · cases hmem
  | cons member members ih =>
    obtain ⟨key, text⟩ := member
    obtain ⟨key, rfl⟩ := Option.ne_none_iff_exists'.mp (hready.named _ List.mem_cons_self)
    cases hfield : schema.field? key with
    | none =>
      obtain ⟨made, hmade⟩ := ih record <|
        hready.behind_unknown fun slot hslot => h.ne_of_field?_eq_none hfield hslot
      exact ⟨made, .unknown hfield hmade⟩
    | some field =>
      obtain ⟨slot, hslot, rfl, set, hfills⟩ := h.exists_slot_of_field? hfield
      obtain ⟨value, hspells⟩ := hready.typed slot hslot text List.mem_cons_self
      have hnew : slot.key ∉ seen := by
        intro hseen
        have hzero := (hready.once slot hslot).2 hseen
        rw [Slot.times_cons_self] at hzero
        omega
      obtain ⟨made, hmade⟩ := ih (set value record) hready.behind_known
      exact ⟨made, .known hfield hnew (hready.values _ List.mem_cons_self)
        (hfills.follows.reads ⟨value, hspells, rfl⟩) hmade⟩

end

section

variable {members : Members} {record : ρ}

theorem spells_eq {slot : Slot ρ} (hslot : slot ∈ slots) {value value' : slot.Kind} {text : List Char}
    (hspells : slot.spells value text) (hspells' : slot.spells value' text) : value = value' := by
  obtain ⟨field, set, -, hfills⟩ := h.exists_field hslot
  have hset : set value = set value' :=
    hfills.follows.eq ⟨value, hspells, rfl⟩ ⟨value', hspells', rfl⟩
  rw [← hfills.get_set value schema.base, hset, hfills.get_set]

/-- **What the members make, one after the other, is the overlaid default.** -/
theorem makes_iff (hvalues : ∀ member ∈ members, IsValue member.2) :
    schema.Makes [] schema.base members record ↔
      Once slots members ∧ Overlaid slots (schema.default? schema.base) members record := by
  have hgives : ∀ {made}, schema.Makes [] schema.base members made →
      Overlaid slots (schema.default? schema.base) members made := fun hmakes slot hslot =>
    h.given hmakes hslot List.not_mem_nil
  constructor
  · exact fun hmakes =>
      ⟨⟨hmakes.named, fun slot hslot => (h.times_le hmakes hslot).1⟩, hgives hmakes⟩
  · rintro ⟨honce, hrecord⟩
    obtain ⟨made, hmakes⟩ := h.exists_makes schema.base (.of_overlaid hvalues honce hrecord)
    have hsame : record = made := h.ext _ _ fun slot hslot =>
      (hrecord slot hslot).eq (honce.once slot hslot) (h.spells_eq hslot) (hgives hmakes slot hslot)
    rwa [hsame]

end

/-! ### What items make -/

section

variable {items : List (List Char)} {record : ρ}

/-- **What the items make is the record whose slots they spell**, each at its place. -/
theorem lists_iff (hvalues : ∀ item ∈ items, IsValue item) :
    Lists schema.fields schema.base items record ↔
      List.Forall₂ (fun slot item => slot.spells (slot.get record) item) slots items := by
  have hgives : ∀ {made}, Lists schema.fields schema.base items made →
      List.Forall₂ (fun slot item => slot.spells (slot.get made) item) slots items := fun hlists =>
    (hlists.given h.fills h.distinct fun _ hslot => hslot).2
  refine ⟨hgives, fun hrecord => ?_⟩
  have hspelled := hrecord.imp fun slot item hspells => (⟨_, hspells⟩ : ∃ value, slot.spells value item)
  obtain ⟨made, hlists⟩ := exists_lists schema.base hvalues h.fills hspelled
  have hsame : record = made := by
    refine h.ext _ _ fun slot hslot => ?_
    obtain ⟨i, hi, rfl⟩ := List.getElem_of_mem hslot
    have hi' : i < items.length := hrecord.length_eq ▸ hi
    exact h.spells_eq hslot (hrecord.get hi hi') ((hgives hlists).get hi hi')
  rwa [hsame]

end

end Covers

end Schema

/-! ### Documents -/

/-- The value is an object with the members. -/
def IsObject (members : Members) (text : List Char) : Prop :=
  ∃ inner, text = '\x7b' :: (inner ++ ['\x7d']) ∧ IsMembers true members inner

/-- The value is the record, all of whose slots are given: by the members of an object or, each at its
place, by the items of a list. -/
def SpellsRecord (slots : List (Slot ρ)) (record : ρ) (text : List Char) : Prop :=
  (∃ members, IsObject members text ∧ Once slots members ∧ Overlaid slots none members record) ∨
  ∃ items inner, text = '[' :: (inner ++ [']']) ∧ IsItems true items inner ∧
    List.Forall₂ (fun slot item => slot.spells (slot.get record) item) slots items

/-- **The document is an object with the members**, perhaps between blanks. -/
def IsDocument (members : Members) (document : String) : Prop :=
  ∃ before object after, Blanks before ∧ IsObject members object ∧ Blanks after ∧
    document = String.ofList (before ++ (object ++ after))

/-- **Documents are read as defaults with overrides.** -/
structure Codec.Overlays (codec : Codec ρ) (slots : List (Slot ρ)) (default? : Option ρ) : Prop where
  /-- Reading a document gives a record just if no field is given twice and the record is the default
  with the fields replaced that the members give. -/
  decode_iff {members : Members} {document : String} {record : ρ} : IsDocument members document →
    (codec.decode document = .ok record ↔
      Once slots members ∧ Overlaid slots default? members record)
  /-- If all keys are different strings and what is given of each field spells something, there is such
  a record; without a default, if no field is missing. -/
  exists_record {members : Members} {document : String} : IsDocument members document →
    (members.map Prod.fst).Nodup → (∀ member ∈ members, member.1 ≠ none) →
    (∀ slot ∈ slots, ∀ text, (some slot.key, text) ∈ members → ∃ value, slot.spells value text) →
    (default? = none → ∀ slot ∈ slots, ∃ text, (some slot.key, text) ∈ members) →
    ∃ record, codec.decode document = .ok record ∧ Overlaid slots default? members record
  /-- The order of the members does not matter, nor do those that are passed over. -/
  same {members members' : Members} {document document' : String} : IsDocument members document →
    IsDocument members' document' →
    (heeded slots members).Perm (heeded slots members') →
    (codec.decode document).toOption = (codec.decode document').toOption
  /-- A field that is given twice is an error, whatever else the document holds. -/
  twice {members : Members} {document : String} {slot : Slot ρ} : IsDocument members document →
    slot ∈ slots → 2 ≤ slot.times members → ∃ error, codec.decode document = .error error
  /-- Without a default a missing field is an error. -/
  missing {members : Members} {document : String} {slot : Slot ρ} : IsDocument members document →
    slot ∈ slots → default? = none → slot.times members = 0 →
    ∃ error, codec.decode document = .error error

namespace Schema.Covers

variable {schema : Schema ρ} {slots : List (Slot ρ)} {members : Members} {document : String}

theorem decode_iff_makes (h : schema.Covers slots) (hdocument : IsDocument members document)
    (record : ρ) :
    schema.codec.decode document = .ok record ↔ schema.Makes [] schema.base members record := by
  obtain ⟨before, object, after, hbefore, ⟨inner, rfl, hinner⟩, hafter, rfl⟩ := hdocument
  have hreads : ∀ {made}, schema.Makes [] schema.base members made → schema.codec.decode
      (String.ofList (before ++ ('\x7b' :: (inner ++ ['\x7d']) ++ after))) = .ok made := by
    intro made hmakes
    have hread : Reads schema.codec.read _ made := reads_object hinner hmakes
    exact hread.decode hbefore hafter
  refine ⟨fun hdecode => ?_, hreads⟩
  by_cases hnone : ∀ made, ¬ schema.Makes [] schema.base members made
  · have hrefuses : Refuses schema.codec.read _ :=
      refuses_object (fun _ hfield => h.settles hfield) hinner hnone
    obtain ⟨error, herror⟩ := hrefuses.decode hbefore hafter
    rw [herror] at hdecode
    cases hdecode
  · obtain ⟨made, hmakes⟩ := not_forall_not.mp hnone
    rw [hreads hmakes] at hdecode
    cases hdecode
    exact hmakes

/-- **A record all of whose fields must be given is read as it is spelled.** -/
theorem follows (h : schema.Covers slots) (hcomplete : schema.complete = true) :
    Follows schema.read (SpellsRecord slots) := by
  have hread := follows_read hcomplete fun _ hfield => h.settles hfield
  have hdefault : schema.default? schema.base = none := if_pos hcomplete
  refine hread.congr fun record text => or_congr ⟨?_, ?_⟩ ⟨?_, ?_⟩
  · rintro ⟨members, inner, rfl, hinner, hmakes⟩
    have hmade := (h.makes_iff hinner.isValue).mp hmakes
    rw [hdefault] at hmade
    exact ⟨members, ⟨inner, rfl, hinner⟩, hmade⟩
  · rintro ⟨members, ⟨inner, rfl, hinner⟩, hmade⟩
    rw [← hdefault] at hmade
    exact ⟨members, inner, rfl, hinner, (h.makes_iff hinner.isValue).mpr hmade⟩
  · rintro ⟨items, inner, rfl, hinner, hlists⟩
    exact ⟨items, inner, rfl, hinner, (h.lists_iff hinner.isValue).mp hlists⟩
  · rintro ⟨items, inner, rfl, hinner, hspells⟩
    exact ⟨items, inner, rfl, hinner, (h.lists_iff hinner.isValue).mpr hspells⟩

theorem decode_iff (h : schema.Covers slots) {record : ρ} (hdocument : IsDocument members document) :
    schema.codec.decode document = .ok record ↔
      Once slots members ∧ Overlaid slots (schema.default? schema.base) members record := by
  rw [h.decode_iff_makes hdocument]
  obtain ⟨_, _, _, -, ⟨_, -, hinner⟩, -⟩ := hdocument
  exact h.makes_iff hinner.isValue

/-- **Documents are read as defaults with overrides**, if the fields of the schema fill the slots. -/
theorem overlays (h : schema.Covers slots) :
    schema.codec.Overlays slots (schema.default? schema.base) where
  decode_iff := h.decode_iff
  exists_record := by
    intro members document hdocument hdistinct hnamed htyped hpresent
    obtain ⟨_, _, _, -, ⟨_, -, hinner⟩, -⟩ := id hdocument
    have hready : schema.Ready slots [] members := by
      refine ⟨hinner.isValue, hnamed, fun slot hslot => ⟨?_, nofun⟩, htyped, ?_⟩
      · exact Slot.times_le_of_nodup hdistinct
      · intro hcomplete slot hslot
        exact .inr (hpresent (if_pos hcomplete) slot hslot)
    obtain ⟨record, hmakes⟩ := h.exists_makes schema.base hready
    have hdecode := (h.decode_iff_makes hdocument record).mpr hmakes
    exact ⟨record, hdecode, ((h.decode_iff hdocument).mp hdecode).2⟩
  same := by
    intro members members' document document' hdocument hdocument' hperm
    have hsame : ∀ record,
        schema.codec.decode document = .ok record ↔ schema.codec.decode document' = .ok record := by
      intro record
      rw [h.decode_iff hdocument, h.decode_iff hdocument']
      exact ⟨fun ⟨honce, hrecord⟩ => ⟨honce.of_heeded hperm, hrecord.of_heeded hperm⟩,
        fun ⟨honce, hrecord⟩ => ⟨honce.of_heeded hperm.symm, hrecord.of_heeded hperm.symm⟩⟩
    cases hdecode : schema.codec.decode document with
    | ok record => rw [(hsame record).mp hdecode]
    | error error =>
      cases hdecode' : schema.codec.decode document' with
      | error error' => rfl
      | ok record =>
        rw [(hsame record).mpr hdecode'] at hdecode
        cases hdecode
  twice := by
    intro members document slot hdocument hslot htwice
    cases hdecode : schema.codec.decode document with
    | error error => exact ⟨error, rfl⟩
    | ok record =>
      have honce := ((h.decode_iff hdocument).mp hdecode).1.once slot hslot
      omega
  missing := by
    intro members document slot hdocument hslot hdefault hnever
    cases hdecode : schema.codec.decode document with
    | error error => exact ⟨error, rfl⟩
    | ok record =>
      have hgiven := ((h.decode_iff hdocument).mp hdecode).2 slot hslot
      rw [hdefault] at hgiven
      cases hgiven with
      | present hmem => exact absurd hmem (Slot.times_eq_zero.mp hnever _)

end Schema.Covers

end PlatformBridge.Json
