import PlatformBridge.Proofs.Android.Abort
import PlatformBridge.Proofs.Host.Collected

/-!
# The gate for settings

Settings come from a text, from a document, from a document with the defaults to fall back on, or from
the string that an activity passes. Each of the four ways leads through one gate, which lets sound
settings through as they are and refuses any others for the first rule that they break.

* `Settings.Sound`, `Settings.Breaks` — settings that break no rule, and the first rule that settings
  break;
* `validate_cases` — the gate tells the two apart;
* `Ruling` — what comes of a text, by what it spells, with `ruling_ofText`;
* `Admitted` — settings that came one of the four ways, with `Admitted.sound`;
* `only_sound_pass` — all of it together, down to the cache directory of a snapshot.
-/

namespace PlatformBridge

open PlatformBridge.Action

namespace Settings

/-! ### Sound settings -/

/-- The library is named by more than blanks. -/
def Named (s : Settings) : Prop := ∃ c ∈ s.engineLibrary.toList, c ∉ Text.blanks

/-- The library is named without its directory. -/
def Bare (s : Settings) : Prop := '/' ∉ s.engineLibrary.toList ∧ '\\' ∉ s.engineLibrary.toList

/-- **Settings that break no rule.** -/
structure Sound (s : Settings) : Prop where
  named : s.Named
  bare : s.Bare
  sentinel : s.cacheDirSentinel ≠ ""

/-- **The first rule that the settings break**, by the flaw that tells it. -/
inductive Breaks (s : Settings) : Flaw → Prop
  | blank : ¬ s.Named → Breaks s .blankLibrary
  | separator : s.Named → ¬ s.Bare → Breaks s (.notABareName s.engineLibrary)
  | sentinel : s.Named → s.Bare → s.cacheDirSentinel = "" → Breaks s .emptySentinel

variable {s : Settings}

theorem blank_engineLibrary : Text.blank s.engineLibrary = false ↔ s.Named := by
  rw [Text.blank_eq_false_iff]
  refine exists_congr fun c => and_congr_right fun _ => ?_
  rw [← Text.isBlank_iff, Bool.not_eq_true]

theorem any_isSeparator : s.engineLibrary.toList.any isSeparator = false ↔ s.Bare := by
  rw [List.any_eq_false]
  constructor
  · intro h
    exact ⟨fun hmem => h _ hmem rfl, fun hmem => h _ hmem rfl⟩
  · rintro ⟨hslash, hback⟩ c hc hsep
    simp only [isSeparator, Bool.or_eq_true, decide_eq_true_eq] at hsep
    rcases hsep with rfl | rfl
    · exact hslash hc
    · exact hback hc

/-- **The gate**: sound settings go through as they are, any others are refused for the first rule that
they break. -/
theorem validate_cases (s : Settings) : (s.Sound ∧ s.validate = .ok s) ∨
    ∃ flaw, s.Breaks flaw ∧ s.validate = .error (.settings flaw) := by
  unfold validate flaw?
  by_cases hnamed : s.Named
  · rw [blank_engineLibrary.mpr hnamed, if_neg Bool.false_ne_true]
    by_cases hbare : s.Bare
    · rw [any_isSeparator.mpr hbare, if_neg Bool.false_ne_true]
      by_cases hsentinel : s.cacheDirSentinel = ""
      · rw [if_pos hsentinel]
        exact Or.inr ⟨_, .sentinel hnamed hbare hsentinel, rfl⟩
      · rw [if_neg hsentinel]
        exact Or.inl ⟨⟨hnamed, hbare, hsentinel⟩, rfl⟩
    · rw [eq_true_of_ne_false (mt any_isSeparator.mp hbare), if_pos rfl]
      exact Or.inr ⟨_, .separator hnamed hbare, rfl⟩
  · rw [eq_true_of_ne_false (mt blank_engineLibrary.mp hnamed), if_pos rfl]
    exact Or.inr ⟨_, .blank hnamed, rfl⟩

/-- What comes through the gate is sound, and is what went in. -/
theorem sound_of_validate {checked : Settings} (h : s.validate = .ok checked) :
    checked = s ∧ s.Sound := by
  rcases validate_cases s with ⟨hsound, hv⟩ | ⟨flaw, -, hv⟩
  · cases hv.symm.trans h
    exact ⟨rfl, hsound⟩
  · cases hv.symm.trans h

theorem Sound.not_breaks (h : s.Sound) (flaw : Flaw) : ¬ s.Breaks flaw := by
  intro hbreaks
  cases hbreaks with
  | blank hnamed => exact hnamed h.named
  | separator _ hbare => exact hbare h.bare
  | sentinel _ _ hempty => exact h.sentinel hempty

/-- The defaults are sound. -/
theorem sound_default : Sound {} := by
  have haccepted : validate {} = .ok {} := by decide
  exact (sound_of_validate haccepted).2

/-! ### What comes of a text -/

/-- **What comes of a text**, by what it spells: nothing, settings that break a rule, or sound ones. -/
inductive Ruling : Except Json.Error Settings → Except Failure Settings → Prop
  | unread (e : Json.Error) : Ruling (.error e) (.error (.json e))
  | broken (s : Settings) (flaw : Flaw) : s.Breaks flaw → Ruling (.ok s) (.error (.settings flaw))
  | sound (s : Settings) : s.Sound → Ruling (.ok s) (.ok s)

theorem ruling_ofText (text : String) : Ruling (schema.codec.decode text) (ofText text) := by
  unfold ofText
  rcases schema.codec.decode text with e | s
  · exact .unread e
  · show Ruling (.ok s) s.validate
    rcases validate_cases s with ⟨hsound, hv⟩ | ⟨flaw, hbreaks, hv⟩ <;> rw [hv]
    · exact .sound s hsound
    · exact .broken s flaw hbreaks

/-- A text gives settings exactly if it spells them and they are sound. -/
theorem ofText_eq_ok_iff {text : String} :
    ofText text = .ok s ↔ schema.codec.decode text = .ok s ∧ s.Sound := by
  have hruling := ruling_ofText text
  generalize schema.codec.decode text = spelled, ofText text = result at hruling
  cases hruling with
  | unread e => exact ⟨nofun, nofun⟩
  | broken s' flaw hbreaks =>
    refine ⟨nofun, ?_⟩
    rintro ⟨⟨⟩, hsound⟩
    exact absurd hbreaks (hsound.not_breaks flaw)
  | sound s' hsound =>
    constructor
    · rintro ⟨⟩
      exact ⟨rfl, hsound⟩
    · rintro ⟨⟨⟩, -⟩
      rfl

/-! ### The four ways -/

theorem load_of_fault {document : Document} {fault : Document.Fault}
    (h : document.text = .error fault) : load document = .error (.document fault) := by
  unfold load
  rw [h]

theorem load_of_text {document : Document} {text : String} (h : document.text = .ok text) :
    load document = ofText text := by
  unfold load
  rw [h]

/-- With the defaults to fall back on: what loading gives or, with one warning, the defaults. -/
theorem loadOrDefault_cases (document : Document) (path : String) :
    (∃ s, load document = .ok s ∧ loadOrDefault document path = (s, [])) ∨
      ∃ e, load document = .error e ∧
        loadOrDefault document path = ({}, [.defaultSettings path e]) := by
  unfold loadOrDefault
  rcases load document with e | s
  · exact Or.inr ⟨e, rfl, rfl⟩
  · exact Or.inl ⟨s, rfl, rfl⟩

theorem readSettings_cases {ν μ : Type} (m : Java.Machine ν) (document : Java.Object)
    (p : Android.Process ν μ) :
    let read := (Java.readText m document p.env).result
    (∃ e, read = .error e ∧ (Android.readSettings m (some document) p).result =
        .error (.settings (.unreadable e.message))) ∨
      ∃ text, read = .ok text ∧
        (Android.readSettings m (some document) p).result = ofText text := by
  intro read
  have hmachine : (Android.onMachine (Java.readText m document) fun e =>
      .settings (.unreadable e.message) : Android.Act ν μ String) p =
      ⟨read.mapError fun e => .settings (.unreadable e.message), _, _⟩ := rfl
  rcases hread : read with e | text <;> rw [hread] at hmachine
  · refine Or.inl ⟨e, rfl, ?_⟩
    exact congrArg Outcome.result (bind_error hmachine)
  · refine Or.inr ⟨text, rfl, ?_⟩
    exact congrArg Outcome.result (bind_ok hmachine)

/-- **Settings that came one of the four ways**: from a text, from a document, from a document with the
defaults to fall back on, from the string that an activity passed, if any. -/
inductive Admitted : Settings → Prop
  | ofText (text : String) (s : Settings) : ofText text = .ok s → Admitted s
  | load (document : Document) (s : Settings) : load document = .ok s → Admitted s
  | loadOrDefault (document : Document) (path : String) : Admitted (loadOrDefault document path).1
  | readSettings {ν μ : Type} (m : Java.Machine ν) (document : Option Java.Object)
    (p : Android.Process ν μ) (s : Settings) :
    (Android.readSettings m document p).result = .ok s → Admitted s

theorem sound_of_load {document : Document} (h : load document = .ok s) : s.Sound := by
  rcases htext : document.text with fault | text
  · rw [load_of_fault htext] at h
    cases h
  · rw [load_of_text htext] at h
    exact (ofText_eq_ok_iff.mp h).2

/-- **Whatever way settings came, they are sound.** -/
theorem Admitted.sound (h : s.Admitted) : s.Sound := by
  cases h with
  | ofText text _ h => exact (ofText_eq_ok_iff.mp h).2
  | load document _ h => exact sound_of_load h
  | loadOrDefault document path =>
    rcases loadOrDefault_cases document path with ⟨s, hload, h⟩ | ⟨e, -, h⟩ <;> rw [h]
    · exact sound_of_load hload
    · exact sound_default
  | readSettings m document p _ h =>
    cases document with
    | none =>
      cases h
      exact sound_default
    | some document =>
      rcases readSettings_cases m document p with ⟨e, -, hresult⟩ | ⟨text, -, hresult⟩
      · cases hresult.symm.trans h
      · exact (ofText_eq_ok_iff.mp (hresult.symm.trans h)).2

/-- A collection asked for the cache directory, and the snapshot has what was reported, or what stands
for it. -/
theorem cacheDir_of_collected {σ : Type} {host : Host σ} {state : σ} {snapshot : Snapshot}
    (h : (collect host s state).result = .ok snapshot) : ∃ reported : Option String,
      (∀ reply, .asked .cacheDir reply ∈ (collect host s state).trail ↔ reply = .ok reported) ∧
        snapshot.cacheDir = reported.getD s.cacheDirSentinel := by
  obtain ⟨p, rfl, hanswers⟩ := (collected_of_ok h).exists_answers
  exact ⟨p.cacheDir, hanswers .cacheDir (by decide), rfl⟩

/-- **Only sound settings pass.** Whatever way settings come they are sound; a text that spells sound
ones gives just these, and any other text fails, for what it does not spell or for the first rule that
is broken. A document is its text, if it has one. Without usable settings in it there are the defaults,
with one warning that tells the path and why. Every collection asks the host for its cache directory, so
no snapshot that is collected under such settings has an empty one where the host has none. -/
theorem only_sound_pass :
    (∀ s : Settings, s.Admitted → s.Sound) ∧
      (∀ text, Ruling (schema.codec.decode text) (ofText text)) ∧
      (∀ text s, schema.codec.decode text = .ok s → s.Sound → ofText text = .ok s) ∧
      (∀ document text, document.text = .ok text → load document = ofText text) ∧
      (∀ document fault, document.text = .error fault → load document = .error (.document fault)) ∧
      (∀ document path, (∃ s, load document = .ok s ∧ loadOrDefault document path = (s, [])) ∨
        ∃ e warning, load document = .error e ∧ loadOrDefault document path = ({}, [warning]) ∧
          warning.level = .warn ∧ warning.fields = [("error", .shown e.message)] ∧
          warning.allFields = [("path", .shown path), ("error", .shown e.message)]) ∧
      (∀ {ν μ : Type} (m : Java.Machine ν) (p : Android.Process ν μ),
        (Android.readSettings m none p).result = .ok {} ∧
        ∀ document text, (Java.readText m document p.env).result = .ok text →
          (Android.readSettings m (some document) p).result = ofText text) ∧
      ∀ {σ : Type} (host : Host σ) (s : Settings) (state : σ) (snapshot : Snapshot), s.Admitted →
        (collect host s state).result = .ok snapshot →
        (∃ reported, .asked .cacheDir (.ok reported) ∈ (collect host s state).trail ∧
          snapshot.cacheDir = reported.getD s.cacheDirSentinel) ∧
        (.asked .cacheDir (.ok none) ∈ (collect host s state).trail →
          snapshot.cacheDir = s.cacheDirSentinel ∧ snapshot.cacheDir ≠ "") := by
  refine ⟨fun s => Admitted.sound, ruling_ofText, fun text s hspelled hsound =>
    ofText_eq_ok_iff.mpr ⟨hspelled, hsound⟩, fun document text => load_of_text,
    fun document fault => load_of_fault, ?_, ?_, ?_⟩
  · intro document path
    rcases loadOrDefault_cases document path with hloaded | ⟨e, hload, hdefault⟩
    · exact Or.inl hloaded
    · exact Or.inr ⟨e, .defaultSettings path e, hload, hdefault, rfl, rfl, rfl⟩
  · intro ν μ m p
    refine ⟨rfl, fun document text htext => ?_⟩
    rcases readSettings_cases m document p with ⟨e, hread, -⟩ | ⟨text', hread, hresult⟩
    · cases hread.symm.trans htext
    · cases hread.symm.trans htext
      exact hresult
  · intro σ host s state snapshot hadmitted hcollected
    obtain ⟨reported, hasked, hcacheDir⟩ := cacheDir_of_collected hcollected
    refine ⟨⟨reported, (hasked _).mpr rfl, hcacheDir⟩, fun hnone => ?_⟩
    have hreported : none = reported := Except.ok.inj ((hasked _).mp hnone)
    rw [hcacheDir, ← hreported]
    exact ⟨rfl, hadmitted.sound.sentinel⟩

end Settings

end PlatformBridge
