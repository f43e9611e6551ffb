import Mathlib.Data.List.Nodup
import PlatformBridge.Proofs.Json.Grammar

/-!
# Fields, apart from any reader

What a document says of a record does not depend on the order of its members, and members with other
keys do not matter: each field is what the member with its key spells, or what the default holds.

* `Slot` — a field of a record apart from any reader: its key, what its values mean, and where it is;
* `Slot.Given`, `Overlaid` — the record is the default with the fields replaced that the members give;
* `Once` — the members leave no doubt: their keys are strings, and no field is given twice;
* `Slot.Given.eq` — then what the members give is the same in all records that are overlaid by them;
* `Once.of_heeded`, `Overlaid.of_heeded` — the members with keys of fields settle both, in any order.
-/

namespace PlatformBridge.Json

variable {ρ : Type}

/-! ### Slots -/

/-- A field of a record, apart from any reader: its key, what its values mean, and where it is. -/
structure Slot (ρ : Type) where
  {Kind : Type}
  key : String
  spells : Kind → List Char → Prop
  get : ρ → Kind

/-- **The members give the slot**: the member with its key spells what the record has there or, if there
is no such member, it is what the default has there. Without a default there must be one. -/
inductive Slot.Given (slot : Slot ρ) (members : Members) : (default? : Option ρ) → (record : ρ) → Prop
  | present {default? : Option ρ} {record : ρ} {text : List Char}
    (hmem : (some slot.key, text) ∈ members) (hspells : slot.spells (slot.get record) text) :
    Slot.Given slot members default? record
  | absent {default record : ρ} (habsent : ∀ text, (some slot.key, text) ∉ members)
    (hdefault : slot.get record = slot.get default) : Slot.Given slot members (some default) record

/-- **The record is the default with the fields replaced that the members give.** -/
def Overlaid (slots : List (Slot ρ)) (default? : Option ρ) (members : Members) (record : ρ) : Prop :=
  ∀ slot ∈ slots, slot.Given members default? record

def Slot.times (slot : Slot ρ) (members : Members) : Nat :=
  members.countP fun member => member.1 = some slot.key

/-- The members leave no doubt: their keys are strings, and no slot is given twice. -/
structure Once (slots : List (Slot ρ)) (members : Members) : Prop where
  named : ∀ member ∈ members, member.1 ≠ none
  once : ∀ slot ∈ slots, slot.times members ≤ 1

/-- Whether the member is passed over: its key is that of no slot. -/
def passedOver (slots : List (Slot ρ)) (member : Option String × List Char) : Bool :=
  match member.1 with
  | none => false
  | some key => !(slots.map Slot.key).contains key

def heeded (slots : List (Slot ρ)) (members : Members) : Members :=
  members.filter fun member => !passedOver slots member

section

variable {slot : Slot ρ} {slots : List (Slot ρ)} {key : String} {text text' : List Char}
  {members members' : Members}

theorem Slot.times_cons_self : slot.times ((some slot.key, text) :: members) = slot.times members + 1 :=
  List.countP_cons_of_pos (by simp)

theorem Slot.times_cons_of_ne (h : key ≠ slot.key) :
    slot.times ((some key, text) :: members) = slot.times members :=
  List.countP_cons_of_neg (by simpa using h)

theorem Slot.times_eq_zero : slot.times members = 0 ↔ ∀ text, (some slot.key, text) ∉ members := by
  simp only [Slot.times, List.countP_eq_zero, decide_eq_true_eq, Prod.forall]
  constructor
  · exact fun h text hmem => h _ text hmem rfl
  · rintro h _ text hmem rfl
    exact h text hmem

theorem Slot.times_le_of_nodup (h : (members.map Prod.fst).Nodup) : slot.times members ≤ 1 := by
  have hcount := List.nodup_iff_count_le_one.mp h (some slot.key)
  rw [List.count, List.countP_map] at hcount
  refine Nat.le_trans (Nat.le_of_eq (List.countP_congr fun member _ => ?_)) hcount
  simp

theorem Slot.eq_of_times_le (h : slot.times members ≤ 1) (hmem : (some slot.key, text) ∈ members)
    (hmem' : (some slot.key, text') ∈ members) : text = text' := by
  have hgiven : ∀ {value}, (some slot.key, value) ∈ members →
      (some slot.key, value) ∈ members.filter fun member => member.1 = some slot.key := fun hmem =>
    List.mem_filter.mpr ⟨hmem, by simp⟩
  have hfirst := hgiven hmem
  have hsecond := hgiven hmem'
  rw [Slot.times, List.countP_eq_length_filter] at h
  generalize members.filter _ = given at h hfirst hsecond
  cases given with
  | nil => cases hfirst
  | cons member given =>
    obtain rfl : given = [] := List.eq_nil_of_length_eq_zero (by rw [List.length_cons] at h; omega)
    rw [List.mem_singleton] at hfirst hsecond
    rw [← hsecond] at hfirst
    cases hfirst
    rfl

theorem Slot.Given.mono {default? : Option ρ} {record : ρ} (h : slot.Given members default? record)
    (hne : key ≠ slot.key) : slot.Given ((some key, text) :: members) default? record := by
  cases h with
  | present hmem hspells => exact .present (List.mem_cons_of_mem _ hmem) hspells
  | absent habsent hdefault =>
    refine .absent (fun value hmem => ?_) hdefault
    rcases List.mem_cons.mp hmem with heq | hmem
    · cases heq
      exact hne rfl
    · exact habsent value hmem

/-- The fields that the members give are the same in all records that are overlaid by them. -/
theorem Slot.Given.eq {default? : Option ρ} {record record' : ρ} (honce : slot.times members ≤ 1)
    (hfunctional : ∀ {value value' text}, slot.spells value text → slot.spells value' text →
      value = value')
    (h : slot.Given members default? record) (h' : slot.Given members default? record') :
    slot.get record = slot.get record' := by
  cases h with
  | present hmem hspells =>
    cases h' with
    | present hmem' hspells' =>
      rw [← Slot.eq_of_times_le honce hmem hmem'] at hspells'
      exact hfunctional hspells hspells'
    | absent habsent => exact absurd hmem (habsent _)
  | absent habsent hdefault =>
    cases h' with
    | present hmem => exact absurd hmem (habsent _)
    | absent _ hdefault' => rw [hdefault, hdefault']

/-! ### Members that do not matter -/

theorem passedOver_of_slot (hslot : slot ∈ slots) (text : List Char) :
    passedOver slots (some slot.key, text) = false := by
  have hkey : (slots.map Slot.key).contains slot.key = true :=
    List.contains_iff_mem.mpr (List.mem_map_of_mem hslot)
  simp only [passedOver, hkey, Bool.not_true]

theorem mem_heeded (hslot : slot ∈ slots) :
    (some slot.key, text) ∈ heeded slots members ↔ (some slot.key, text) ∈ members := by
  simp [heeded, passedOver_of_slot hslot]

theorem Slot.times_heeded (hslot : slot ∈ slots) :
    slot.times (heeded slots members) = slot.times members := by
  rw [Slot.times, heeded, List.countP_filter]
  refine List.countP_congr fun member _ => ?_
  obtain ⟨key, text⟩ := member
  simp only [Bool.and_eq_true, decide_eq_true_eq, and_iff_left_iff_imp]
  rintro rfl
  rw [passedOver_of_slot hslot, Bool.not_false]

theorem named_heeded : (∀ member ∈ heeded slots members, member.1 ≠ none) ↔
    ∀ member ∈ members, member.1 ≠ none := by
  refine ⟨fun h member hmem hnone => ?_, fun h member hmem => h member (List.mem_filter.mp hmem).1⟩
  have hheeded : member ∈ heeded slots members :=
    List.mem_filter.mpr ⟨hmem, by simp only [passedOver, hnone, Bool.not_false]⟩
  exact h member hheeded hnone

/-- Whether the members leave doubt, and what they give, is settled by those that are heeded, in any
order. -/
theorem Once.of_heeded (hperm : (heeded slots members).Perm (heeded slots members'))
    (h : Once slots members) : Once slots members' where
  named := named_heeded.mp fun member hmem =>
    named_heeded.mpr h.named member (hperm.mem_iff.mpr hmem)
  once slot hslot := by
    calc slot.times members'
      _ = slot.times (heeded slots members') := (Slot.times_heeded hslot).symm
      _ = slot.times (heeded slots members) := (hperm.countP_eq _).symm
      _ = slot.times members := Slot.times_heeded hslot
      _ ≤ 1 := h.once slot hslot

theorem Overlaid.of_heeded {default? : Option ρ} {record : ρ}
    (hperm : (heeded slots members).Perm (heeded slots members'))
    (h : Overlaid slots default? members record) : Overlaid slots default? members' record := by
  intro slot hslot
  have hmem : ∀ text, (some slot.key, text) ∈ members ↔ (some slot.key, text) ∈ members' := by
    intro text
    rw [← mem_heeded hslot, hperm.mem_iff, mem_heeded hslot]
  cases h slot hslot with
  | present hgiven hspells => exact .present ((hmem _).mp hgiven) hspells
  | absent habsent hdefault => exact .absent (fun text h => habsent text ((hmem text).mpr h)) hdefault

end

end PlatformBridge.Json
