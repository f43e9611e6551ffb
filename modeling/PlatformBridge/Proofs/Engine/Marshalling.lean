import PlatformBridge.Engine.Native
import PlatformBridge.Proofs.Lifecycle.Trail

/-!
# Snapshots across the boundary

A snapshot crosses the boundary to native code as zero-terminated texts and signed numbers, or it
does not cross at all.

* `Portable s` — the snapshot has a form on the other side, and `obstacles s` are the fields that
  stand in the way, in the order in which they are looked at;
* `Yields faults x P` — the outcome `x` against a list of faults: without any it is a value with `P`,
  else it is the first fault; composed step by step (`Yields.bind`);
* `yields_marshal` — marshalling against the obstacles;
* `hands_over_or_refuses` — so the native engine hands over a portable snapshot once, for native code
  to read back what was sent, and refuses any other for the first obstacle.
-/

namespace PlatformBridge

/-! ### What can cross -/

/-- The dimensions of a snapshot, by the names that refusals give them. -/
def Snapshot.dimensions (s : Snapshot) : List (String × UInt32) :=
  [("screen_width", s.screenWidth), ("screen_height", s.screenHeight)]

/-- The texts of a snapshot, by the names that refusals give them. -/
def Snapshot.texts (s : Snapshot) : List (String × String) :=
  [("app_id", s.appId), ("manufacturer", s.manufacturer), ("model", s.model),
    ("build_id", s.buildId), ("os_version", s.osVersion), ("locale", s.locale),
    ("cache_dir", s.cacheDir), ("executable_path", s.executablePath),
    ("native_lib_dir", s.nativeLibDir)]

/-- **The snapshot has a form on the other side**: its dimensions are signed words of 32 bits and no
text has a zero in it. -/
structure Snapshot.Portable (s : Snapshot) : Prop where
  width : s.screenWidth.toNat ≤ 2147483647
  height : s.screenHeight.toNat ≤ 2147483647
  texts : ∀ t ∈ s.texts, '\u0000' ∉ t.2.toList

namespace Engine

def obstacleOfDimension (d : String × UInt32) : List Refusal :=
  if d.2.toNat ≤ 2147483647 then [] else [.tooLarge d.1 d.2]

def obstacleOfText (t : String × String) : List Refusal :=
  if '\u0000' ∈ t.2.toList then [.interiorZero t.1] else []

/-- The fields that cannot cross: dimensions first, then the texts in their order. -/
def obstacles (s : Snapshot) : List Refusal :=
  s.dimensions.flatMap obstacleOfDimension ++ s.texts.flatMap obstacleOfText

theorem obstacles_eq_nil_iff {s : Snapshot} : obstacles s = [] ↔ s.Portable := by
  constructor
  · intro h
    obtain ⟨hd, ht⟩ := List.append_eq_nil_iff.mp h
    rw [List.flatMap_eq_nil_iff] at hd ht
    refine ⟨?_, ?_, fun t hmem hzero => ?_⟩
    · simpa [obstacleOfDimension] using hd ("screen_width", s.screenWidth) (by simp [Snapshot.dimensions])
    · simpa [obstacleOfDimension] using hd ("screen_height", s.screenHeight) (by simp [Snapshot.dimensions])
    · simpa [obstacleOfText, hzero] using ht t hmem
  · intro h
    refine List.append_eq_nil_iff.mpr ⟨?_, List.flatMap_eq_nil_iff.mpr fun t hmem => ?_⟩
    · simp only [Snapshot.dimensions, List.flatMap_cons, obstacleOfDimension, if_pos h.width,
        if_pos h.height]
      rfl
    · exact if_neg (h.texts t hmem)

/-! ### Texts in memory -/

/-- The bytes of a character hold a zero only if it is the zero character. -/
theorem zero_notMem_utf8EncodeChar {c : Char} (h : c ≠ '\u0000') : 0 ∉ String.utf8EncodeChar c := by
  have hv : c.val.toNat ≠ 0 := by
    intro h0
    exact h (Char.ext (UInt32.toNat_inj.mp h0))
  have hbyte : ∀ n : Nat, n % 256 ≠ 0 → (0 : UInt8) ≠ UInt8.ofNat n := by
    intro n hn h0
    have := congrArg UInt8.toNat h0
    simp [UInt8.toNat_ofNat'] at this
    omega
  -- One byte is the character's number; each byte of several has its high bit set.
  simp only [String.utf8EncodeChar]
  split
  · simp only [List.mem_singleton]
    exact hbyte _ (by omega)
  split
  · simp only [List.mem_cons, List.not_mem_nil, or_false, not_or]
    exact ⟨hbyte _ (by omega), hbyte _ (by omega)⟩
  split
  · simp only [List.mem_cons, List.not_mem_nil, or_false, not_or]
    exact ⟨hbyte _ (by omega), hbyte _ (by omega), hbyte _ (by omega)⟩
  · simp only [List.mem_cons, List.not_mem_nil, or_false, not_or]
    exact ⟨hbyte _ (by omega), hbyte _ (by omega), hbyte _ (by omega), hbyte _ (by omega)⟩

theorem zero_notMem_toUTF8 {text : String} (h : '\u0000' ∉ text.toList) :
    0 ∉ text.toUTF8.data.toList := by
  have hbytes : text.toUTF8.data.toList = text.toList.flatMap String.utf8EncodeChar := by
    conv => lhs; rw [← String.ofList_toList (s := text)]
    exact congrArg Array.toList List.data_toByteArray
  rw [hbytes, List.mem_flatMap]
  rintro ⟨c, hc, hzero⟩
  refine zero_notMem_utf8EncodeChar ?_ hzero
  rintro rfl
  exact h hc

/-- **A text in memory is read back as it was.** -/
theorem CString.toString?_of_ofString? {text : String} {memory : CString}
    (h : ofString? text = some memory) : memory.toString? = some text := by
  unfold ofString? at h
  split at h
  · cases h
  rename_i hzero
  have hnone : 0 ∉ text.toUTF8.data.toList := zero_notMem_toUTF8 (by simpa using hzero)
  cases h
  have hread : (text.toUTF8.data.toList ++ [0]).takeWhile (· ≠ 0) = text.toUTF8.data.toList := by
    rw [List.takeWhile_append_of_pos]
    · simp
    · intro b hb
      have : b ≠ 0 := fun h0 => hnone (h0 ▸ hb)
      simpa using this
  rw [toString?, hread]
  simp only [String.fromUTF8?, String.toUTF8_eq_toByteArray]
  exact dif_pos text.isValidUTF8

/-! ### Outcomes against their faults -/

/-- **The outcome against a list of faults**: without any it is a value with the property, else it
is the first of them. -/
def Yields {ε α : Type} (faults : List ε) (x : Except ε α) (P : α → Prop) : Prop :=
  match faults with
  | [] => ∃ a, x = .ok a ∧ P a
  | fault :: _ => x = .error fault

section

variable {ε α β : Type} {faults later : List ε} {x : Except ε α} {P : α → Prop} {Q : β → Prop}

theorem Yields.bind {f : α → Except ε β} (hx : Yields faults x P)
    (hf : ∀ a, P a → Yields later (f a) Q) : Yields (faults ++ later) (x >>= f) Q := by
  cases faults with
  | nil =>
    obtain ⟨a, rfl, ha⟩ := hx
    exact hf a ha
  | cons fault faults =>
    cases (hx : x = .error fault)
    exact rfl

theorem Yields.mono {Q : α → Prop} (hx : Yields faults x P) (h : ∀ a, P a → Q a) :
    Yields faults x Q := by
  cases faults with
  | nil =>
    obtain ⟨a, rfl, ha⟩ := hx
    exact ⟨a, rfl, h a ha⟩
  | cons fault faults => exact hx

theorem yields_pure {a : α} (h : P a) : Yields ([] : List ε) (pure a) P := ⟨a, rfl, h⟩

end

theorem yields_marshalDimension (field : String) (value : UInt32) :
    Yields (obstacleOfDimension (field, value)) (marshalDimension field value) fun word =>
      word.toInt = value.toNat ∧ word.toUInt32 = value := by
  unfold obstacleOfDimension marshalDimension
  by_cases h : value.toNat ≤ 2147483647
  · rw [if_pos h, if_pos (by omega)]
    refine ⟨_, rfl, ?_, UInt32.toUInt32_toInt32 value⟩
    exact BitVec.toInt_eq_toNat_of_lt (show 2 * value.toNat < 2 ^ 32 by omega)
  · rw [if_neg h, if_neg (by omega)]
    rfl

theorem yields_marshalText (field text : String) :
    Yields (obstacleOfText (field, text)) (marshalText field text) fun memory =>
      memory.toString? = some text := by
  unfold obstacleOfText marshalText
  by_cases h : '\u0000' ∈ text.toList
  · have hnone : CString.ofString? text = none := by simp [CString.ofString?, h]
    rw [if_pos h, hnone]
    rfl
  · rw [if_neg h]
    rcases hm : CString.ofString? text with - | memory
    · simp [CString.ofString?, h] at hm
    · exact ⟨memory, rfl, CString.toString?_of_ofString? hm⟩

/-- The snapshot in the form in which it crosses: read back it is the snapshot again, and its
dimensions are the same numbers. -/
structure RawSnapshot.Carries (raw : RawSnapshot) (s : Snapshot) : Prop where
  readBack : raw.readBack? = some s
  width : raw.screenWidth.toInt = s.screenWidth.toNat
  height : raw.screenHeight.toInt = s.screenHeight.toNat

/-- **Marshalling carries a snapshot over, or names the first obstacle.** -/
theorem yields_marshal (s : Snapshot) : Yields (obstacles s) (marshal s) (·.Carries s) := by
  simp only [obstacles, Snapshot.dimensions, Snapshot.texts, List.flatMap_cons, List.flatMap_nil,
    List.append_assoc, List.nil_append]
  refine (yields_marshalDimension _ _).bind fun width hwidth =>
    (yields_marshalDimension _ _).bind fun height hheight =>
    (yields_marshalText _ _).bind fun appId happId =>
    (yields_marshalText _ _).bind fun manufacturer hmanufacturer =>
    (yields_marshalText _ _).bind fun model hmodel =>
    (yields_marshalText _ _).bind fun buildId hbuildId =>
    (yields_marshalText _ _).bind fun osVersion hosVersion =>
    (yields_marshalText _ _).bind fun locale hlocale =>
    (yields_marshalText _ _).bind fun cacheDir hcacheDir =>
    (yields_marshalText _ _).bind fun executablePath hexecutablePath =>
    (yields_marshalText _ _).bind fun nativeLibDir hnativeLibDir => yields_pure ⟨?_, ?_, ?_⟩
  · simp [RawSnapshot.readBack?, *]
  · exact hwidth.1
  · exact hheight.1

/-! ### The native engine and a snapshot -/

variable {ν : Type}

/-- **The native engine hands a snapshot over, or refuses it.** A portable snapshot crosses once, in
a form that carries it, and the status of native code decides; any other does not cross, and the
first of its obstacles is the reason, which names the field. -/
theorem hands_over_or_refuses (library : Library ν) (table : Table) (s : Snapshot) (memory : ν) :
    let o := (native library table).perform (.snapshot s) memory
    let crossings := Trail.crossings (o.trail.map .engine)
    (crossings ≠ [] ↔ s.Portable) ∧
    (s.Portable → ∃ raw : RawSnapshot, raw.Carries s ∧
      let answer := library.respond table (.snapshot raw) memory
      crossings = [(table, .snapshot raw, answer.1)] ∧ o.state = answer.2 ∧
        (o.result = .ok () ↔ answer.1 = 0) ∧
        (answer.1 ≠ 0 → o.result = .error (.boundary "initialize_platform_info"
          s!"engine returned status {answer.1.toInt}"))) ∧
    ∀ refusal rest, obstacles s = refusal :: rest →
      crossings = [] ∧ o.state = memory ∧
        o.result = .error (.boundary "initialize_platform_info" refusal.message) ∧
        ∃ reason, refusal.message = refusal.field ++ " " ++ reason := by
  intro o crossings
  have hyields := yields_marshal s
  rcases hobstacles : obstacles s with - | ⟨refusal, rest⟩ <;> rw [hobstacles] at hyields
  · have hportable := obstacles_eq_nil_iff.mp hobstacles
    obtain ⟨raw, hraw, hcarries⟩ := hyields
    have hmarshalled : (Call.snapshot s).marshalled = .ok (.snapshot raw) := by
      rw [Call.marshalled, hraw]
      rfl
    have ho : o = _ := perform_of_marshalled hmarshalled
    have hcrossings : crossings =
        [(table, .snapshot raw, (library.respond table (.snapshot raw) memory).1)] := by
      rw [show crossings = Trail.crossings (o.trail.map .engine) from rfl, ho]
      rfl
    refine ⟨?_, fun _ => ⟨raw, hcarries, hcrossings, ?_, ?_, ?_⟩, nofun⟩
    · rw [hcrossings]
      exact iff_of_true nofun hportable
    · rw [ho]
    · rw [ho]
      unfold checkStatus
      split <;> simp [*]
    · intro hstatus
      rw [ho]
      exact if_neg hstatus
  · have hstuck : ¬ s.Portable := fun h => by
      rw [obstacles_eq_nil_iff.mpr h] at hobstacles
      cases hobstacles
    have hmarshalled : (Call.snapshot s).marshalled = .error refusal := by
      rw [Call.marshalled, show marshal s = _ from hyields]
      rfl
    have ho : o = _ := perform_of_refused hmarshalled
    have hcrossings : crossings = [] := by
      rw [show crossings = Trail.crossings (o.trail.map .engine) from rfl, ho]
      rfl
    refine ⟨?_, fun h => absurd h hstuck, ?_⟩
    · rw [hcrossings]
      exact iff_of_false (not_not_intro rfl) hstuck
    · rintro _ _ ⟨rfl, rfl⟩
      refine ⟨hcrossings, ?_, ?_, refusal.exists_message⟩ <;> rw [ho]
      rfl

end Engine

end PlatformBridge
