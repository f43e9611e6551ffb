import PlatformBridge.Host.Desktop
import PlatformBridge.Lifecycle.Phase
import PlatformBridge.Proofs.Json.Faithful
import PlatformBridge.Settings.Load

/-!
# Records make the round trip through documents

Settings, profiles, snapshots and their parts are records of texts, truth values, words and choices.

* `Settings.faithful_schema`, `Profile.faithful_schema`, … — the fields of each restore the record, so
  its codec reads what it writes;
* `Settings.ofText_of_spells` — however settings are spelled, reading them gives the settings if they
  are sound, and else their first flaw;
* `records_round_trip` — all of them are read as they were written, in either layout.
-/

namespace PlatformBridge

open Json

/-! ### Choices -/

theorem Axis.find?_name (axis : Axis) : (all.find? fun a => a.name = axis.name) = some axis :=
  ofName?_name axis

theorem Rotation.find?_name (rotation : Rotation) :
    (all.find? fun r => r.name = rotation.name) = some rotation := by
  cases rotation <;> rfl

theorem Axis.faithful_codec : Axis.codec.Faithful := faithful_choice Axis.find?_name

theorem Rotation.faithful_codec : Rotation.codec.Faithful := faithful_choice Rotation.find?_name

theorem Phase.faithful_codec : Phase.codec.Faithful := by
  refine faithful_choice fun phase => ?_
  cases phase <;> rfl

/-! ### Records -/

theorem DisplaySize.faithful_schema : DisplaySize.schema.codec.Faithful := by
  have hword := faithful_word
  have hreads : List.Forall₂ Field.Reads DisplaySize.schema.fields _ :=
    .cons (Field.reads_of hword) (.cons (Field.reads_of hword) .nil)
  exact Schema.Restores.faithful ⟨by decide, hreads, fun _ => rfl⟩

theorem DeviceIdentity.faithful_schema : DeviceIdentity.schema.codec.Faithful := by
  have htext := faithful_text
  have hreads : List.Forall₂ Field.Reads DeviceIdentity.schema.fields _ :=
    .cons (Field.reads_of htext) (.cons (Field.reads_of htext) (.cons (Field.reads_of htext) .nil))
  exact Schema.Restores.faithful ⟨by decide, hreads, fun _ => rfl⟩

theorem Snapshot.faithful_schema : Snapshot.schema.codec.Faithful := by
  have htext := faithful_text
  have hword := faithful_word
  have hreads : List.Forall₂ Field.Reads Snapshot.schema.fields _ :=
    .cons (Field.reads_of htext) <| .cons (Field.reads_of htext) <| .cons (Field.reads_of htext) <|
    .cons (Field.reads_of htext) <| .cons (Field.reads_of htext) <| .cons (Field.reads_of htext) <|
    .cons (Field.reads_of htext) <| .cons (Field.reads_of htext) <| .cons (Field.reads_of htext) <|
    .cons (Field.reads_of hword) <| .cons (Field.reads_of hword) .nil
  exact Schema.Restores.faithful ⟨by decide, hreads, fun _ => rfl⟩

theorem Settings.faithful_schema : Settings.schema.codec.Faithful := by
  have htext := faithful_text
  have hreads : List.Forall₂ Field.Reads Settings.schema.fields _ :=
    .cons (Field.reads_of htext) <| .cons (Field.reads_of htext) <|
    .cons (Field.reads_of faithful_boolean) <| .cons (Field.reads_of htext) .nil
  exact Schema.Restores.faithful ⟨by decide, hreads, fun _ => rfl⟩

theorem Profile.faithful_schema : Profile.schema.codec.Faithful := by
  have htext := faithful_text
  have hoptional := faithful_optional
  have hreads : List.Forall₂ Field.Reads Profile.schema.fields _ :=
    .cons (Field.reads_of htext) <| .cons (Field.reads_of htext) <| .cons (Field.reads_of htext) <|
    .cons (Field.reads_of htext) <| .cons (Field.reads_of htext) <| .cons (Field.reads_of htext) <|
    .cons (Field.reads_of hoptional) <| .cons (Field.reads_of htext) <|
    .cons (Field.reads_of DisplaySize.faithful_schema) <|
    .cons (Field.reads_of Rotation.faithful_codec) <|
    .cons (Field.reads_of Axis.faithful_codec) <| .cons (Field.reads_of hoptional) .nil
  exact Schema.Restores.faithful ⟨by decide, hreads, fun _ => rfl⟩

/-! ### Settings in a text -/

theorem Settings.ofText_of_spells {s : Settings} {text : List Char}
    (h : Spells (Settings.schema.codec.write s) text) :
    Settings.ofText (String.ofList text) = s.validate := by
  have hdecode : Settings.schema.codec.decode (String.ofList text) = .ok s :=
    Settings.faithful_schema.decode h
  unfold Settings.ofText
  rw [hdecode]

/-- **All records make the round trip.** Settings, profiles, snapshots, the names of devices and the
sizes of displays, whatever they hold, are read from either layout as they were written. Settings that
were written are taken if they are sound, and else refused for their first flaw. -/
theorem records_round_trip :
    Settings.schema.codec.RoundTrips ∧ Profile.schema.codec.RoundTrips ∧
    Snapshot.schema.codec.RoundTrips ∧ DeviceIdentity.schema.codec.RoundTrips ∧
    DisplaySize.schema.codec.RoundTrips ∧
    ∀ s : Settings, Settings.ofText (Settings.schema.codec.compact s) = s.validate ∧
      Settings.ofText (Settings.schema.codec.pretty s) = s.validate := by
  refine ⟨Settings.faithful_schema.roundTrips, Profile.faithful_schema.roundTrips,
    Snapshot.faithful_schema.roundTrips, DeviceIdentity.faithful_schema.roundTrips,
    DisplaySize.faithful_schema.roundTrips, fun s => ⟨?_, ?_⟩⟩
  · exact Settings.ofText_of_spells (spells_compact _)
  · exact Settings.ofText_of_spells (spells_pretty _)

end PlatformBridge
