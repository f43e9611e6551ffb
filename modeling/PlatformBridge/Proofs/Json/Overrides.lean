import PlatformBridge.Proofs.Json.Documents
import PlatformBridge.Proofs.Json.Overlay
import PlatformBridge.Proofs.Json.Scalars

/-!
# Records with fields left out

A document may leave out fields of settings and of profiles, which then hold their defaults. The names
of a device, a size and a snapshot must be given in full.

* `Settings.slots`, `Profile.slots`, `Snapshot.slots`, … — the keys of each record, what the values under
  them mean, and where they go;
* `Settings.covers`, `Profile.covers`, … — reading each field fills its slot and no other;
* `documents_overlay_defaults` — so documents of all of them are read as defaults with overrides.
-/

namespace PlatformBridge

open Json

/-! ### The fields of each record -/

def Settings.slots : List (Slot Settings) :=
  [⟨"engine_library", SpellsText, engineLibrary⟩,
   ⟨"cache_dir_sentinel", SpellsText, cacheDirSentinel⟩,
   ⟨"immersive", SpellsBoolean, immersive⟩,
   ⟨"log_filter", SpellsText, logFilter⟩]

def Snapshot.slots : List (Slot Snapshot) :=
  [⟨"app_id", SpellsText, appId⟩,
   ⟨"manufacturer", SpellsText, manufacturer⟩,
   ⟨"model", SpellsText, model⟩,
   ⟨"build_id", SpellsText, buildId⟩,
   ⟨"os_version", SpellsText, osVersion⟩,
   ⟨"locale", SpellsText, locale⟩,
   ⟨"cache_dir", SpellsText, cacheDir⟩,
   ⟨"executable_path", SpellsText, executablePath⟩,
   ⟨"native_lib_dir", SpellsText, nativeLibDir⟩,
   ⟨"screen_width", SpellsWord, screenWidth⟩,
   ⟨"screen_height", SpellsWord, screenHeight⟩]

def DeviceIdentity.slots : List (Slot DeviceIdentity) :=
  [⟨"manufacturer", SpellsText, manufacturer⟩,
   ⟨"model", SpellsText, model⟩,
   ⟨"build_id", SpellsText, buildId⟩]

def DisplaySize.slots : List (Slot DisplaySize) :=
  [⟨"width", SpellsWord, width⟩,
   ⟨"height", SpellsWord, height⟩]

def Profile.slots : List (Slot Profile) :=
  [⟨"package_name", SpellsText, packageName⟩,
   ⟨"manufacturer", SpellsText, manufacturer⟩,
   ⟨"model", SpellsText, model⟩,
   ⟨"build_id", SpellsText, buildId⟩,
   ⟨"os_release", SpellsText, osRelease⟩,
   ⟨"locale", SpellsText, locale⟩,
   ⟨"cache_dir", SpellsOptional, cacheDir⟩,
   ⟨"native_library_dir", SpellsText, nativeLibraryDir⟩,
   ⟨"display", SpellsRecord DisplaySize.slots, display⟩,
   ⟨"rotation", SpellsChoice Rotation.name, rotation⟩,
   ⟨"axis", SpellsChoice Axis.name, axis⟩,
   ⟨"fail_query", SpellsOptional, failQuery⟩]

/-! ### Each field fills its slot -/

theorem Settings.covers : Settings.schema.Covers Settings.slots where
  distinct := by decide
  fills :=
    .cons ⟨_, Field.fills_of follows_text (fun _ _ => rfl) (by simp [slots])⟩ <|
    .cons ⟨_, Field.fills_of follows_text (fun _ _ => rfl) (by simp [slots])⟩ <|
    .cons ⟨_, Field.fills_of follows_boolean (fun _ _ => rfl) (by simp [slots])⟩ <|
    .cons ⟨_, Field.fills_of follows_text (fun _ _ => rfl) (by simp [slots])⟩ .nil
  ext := by
    intro s s' h
    cases s
    cases s'
    simpa [slots] using h

theorem Snapshot.covers : Snapshot.schema.Covers Snapshot.slots where
  distinct := by decide
  fills :=
    .cons ⟨_, Field.fills_of follows_text (fun _ _ => rfl) (by simp [slots])⟩ <|
    .cons ⟨_, Field.fills_of follows_text (fun _ _ => rfl) (by simp [slots])⟩ <|
    .cons ⟨_, Field.fills_of follows_text (fun _ _ => rfl) (by simp [slots])⟩ <|
    .cons ⟨_, Field.fills_of follows_text (fun _ _ => rfl) (by simp [slots])⟩ <|
    .cons ⟨_, Field.fills_of follows_text (fun _ _ => rfl) (by simp [slots])⟩ <|
    .cons ⟨_, Field.fills_of follows_text (fun _ _ => rfl) (by simp [slots])⟩ <|
    .cons ⟨_, Field.fills_of follows_text (fun _ _ => rfl) (by simp [slots])⟩ <|
    .cons ⟨_, Field.fills_of follows_text (fun _ _ => rfl) (by simp [slots])⟩ <|
    .cons ⟨_, Field.fills_of follows_text (fun _ _ => rfl) (by simp [slots])⟩ <|
    .cons ⟨_, Field.fills_of follows_word (fun _ _ => rfl) (by simp [slots])⟩ <|
    .cons ⟨_, Field.fills_of follows_word (fun _ _ => rfl) (by simp [slots])⟩ .nil
  ext := by
    intro s s' h
    cases s
    cases s'
    simpa [slots] using h

theorem DeviceIdentity.covers : DeviceIdentity.schema.Covers DeviceIdentity.slots where
  distinct := by decide
  fills :=
    .cons ⟨_, Field.fills_of follows_text (fun _ _ => rfl) (by simp [slots])⟩ <|
    .cons ⟨_, Field.fills_of follows_text (fun _ _ => rfl) (by simp [slots])⟩ <|
    .cons ⟨_, Field.fills_of follows_text (fun _ _ => rfl) (by simp [slots])⟩ .nil
  ext := by
    intro d d' h
    cases d
    cases d'
    simpa [slots] using h

theorem DisplaySize.covers : DisplaySize.schema.Covers DisplaySize.slots where
  distinct := by decide
  fills :=
    .cons ⟨_, Field.fills_of follows_word (fun _ _ => rfl) (by simp [slots])⟩ <|
    .cons ⟨_, Field.fills_of follows_word (fun _ _ => rfl) (by simp [slots])⟩ .nil
  ext := by
    intro size size' h
    cases size
    cases size'
    simpa [slots] using h

theorem Profile.covers : Profile.schema.Covers Profile.slots where
  distinct := by decide
  fills :=
    .cons ⟨_, Field.fills_of follows_text (fun _ _ => rfl) (by simp [slots])⟩ <|
    .cons ⟨_, Field.fills_of follows_text (fun _ _ => rfl) (by simp [slots])⟩ <|
    .cons ⟨_, Field.fills_of follows_text (fun _ _ => rfl) (by simp [slots])⟩ <|
    .cons ⟨_, Field.fills_of follows_text (fun _ _ => rfl) (by simp [slots])⟩ <|
    .cons ⟨_, Field.fills_of follows_text (fun _ _ => rfl) (by simp [slots])⟩ <|
    .cons ⟨_, Field.fills_of follows_text (fun _ _ => rfl) (by simp [slots])⟩ <|
    .cons ⟨_, Field.fills_of follows_optional (fun _ _ => rfl) (by simp [slots])⟩ <|
    .cons ⟨_, Field.fills_of follows_text (fun _ _ => rfl) (by simp [slots])⟩ <|
    .cons ⟨_, Field.fills_of (DisplaySize.covers.follows rfl) (fun _ _ => rfl) (by simp [slots])⟩ <|
    .cons ⟨_, Field.fills_of (follows_choice Rotation.find?_name) (fun _ _ => rfl) (by simp [slots])⟩ <|
    .cons ⟨_, Field.fills_of (follows_choice Axis.find?_name) (fun _ _ => rfl) (by simp [slots])⟩ <|
    .cons ⟨_, Field.fills_of follows_optional (fun _ _ => rfl) (by simp [slots])⟩ .nil
  ext := by
    intro p p' h
    cases p
    cases p'
    simpa [slots] using h

/-- **Documents are read as defaults with overrides.** Settings and profiles hold the default in each
field that is left out, whatever the order of the members and whatever stands under other keys; the
fields of snapshots, of the names of devices and of sizes must all be given. A field that is given
twice is an error. -/
theorem documents_overlay_defaults :
    Settings.schema.codec.Overlays Settings.slots (some {}) ∧
    Profile.schema.codec.Overlays Profile.slots (some {}) ∧
    Snapshot.schema.codec.Overlays Snapshot.slots none ∧
    DeviceIdentity.schema.codec.Overlays DeviceIdentity.slots none ∧
    DisplaySize.schema.codec.Overlays DisplaySize.slots none :=
  ⟨Settings.covers.overlays, Profile.covers.overlays, Snapshot.covers.overlays,
    DeviceIdentity.covers.overlays, DisplaySize.covers.overlays⟩

example : (Settings.schema.codec.decode
    "\x7b\"x\": [\x7b\x7d, -1e5], \"immersive\": false\x7d").toOption =
    some { immersive := false } := by
  decide

end PlatformBridge
