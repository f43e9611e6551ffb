import Mathlib.Data.List.TakeWhile
import PlatformBridge.Proofs.Host.Collected
import PlatformBridge.Proofs.Lifecycle.Attribution

/-!
# From a desktop host to native code

The answers of a desktop host and the settings decide whether native code is called at all. Nine
queries have to be answered, the display has to have dimensions that cross, and no text may have a
zero in it. One answer, the directory of the libraries, goes into two fields: the path of the
executable, which is looked at first, and the directory itself.

* `mem_executablePath` — joining a path neither hides a zero nor makes one;
* `Profile.Presentable p settings` — the profile and the settings get as far as native code;
* `Profile.first_obstacle`, `Profile.field_of_first` — what is refused first, if they do not;
* `Bridge.start_over_native` — the three ways in which a start ends;
* `Bridge.failsOnly_deliver` — what no delivery reports;
* `Desktop.hands_over_if_presentable` — the whole way.
-/

namespace PlatformBridge

open PlatformBridge.Action
open Engine (Library Table Refusal Yields obstacles obstacleOfDimension obstacleOfText)

/-! ### Paths -/

theorem mem_trimSlashes {c : Char} {path : List Char} (hc : c ≠ '/') :
    c ∈ trimSlashes path ↔ c ∈ path := by
  rw [trimSlashes, List.mem_reverse]
  constructor
  · intro h
    exact List.mem_reverse.mp (List.dropWhile_subset _ h)
  · intro h
    have hsplit := List.takeWhile_append_dropWhile (p := (· == '/')) (l := path.reverse)
    rw [← List.mem_reverse, ← hsplit] at h
    refine (List.mem_append.mp h).resolve_left fun hslash => hc ?_
    simpa using List.mem_takeWhile_imp hslash

theorem mem_executablePath {c : Char} {directory library : String} (hc : c ≠ '/') :
    c ∈ (executablePath directory library).toList ↔ c ∈ directory.toList ∨ c ∈ library.toList := by
  simp [executablePath, mem_trimSlashes hc, hc]

/-! ### What can be handed over -/

/-- The texts of which the snapshot is made up. -/
def Profile.sources (p : Profile) (settings : Settings) : List String :=
  [p.packageName, p.manufacturer, p.model, p.buildId, p.osRelease, p.locale, p.nativeLibraryDir,
    settings.engineLibrary, p.cacheDir.getD settings.cacheDirSentinel]

/-- **A start gets as far as native code**: the profile refuses nothing that it asks before, the
display has dimensions that cross, and no text has a zero in it. -/
structure Profile.Presentable (p : Profile) (settings : Settings) : Prop where
  told : ∀ q ∈ Bridge.surveyed, p.failQuery ≠ some q.name
  width : p.display.width.toNat ≤ 2147483647
  height : p.display.height.toNat ≤ 2147483647
  texts : ∀ text ∈ p.sources settings, '\u0000' ∉ text.toList

theorem Profile.portable_snapshot {p : Profile} {settings : Settings} :
    (p.snapshot settings).Portable ↔ p.display.width.toNat ≤ 2147483647 ∧
      p.display.height.toNat ≤ 2147483647 ∧ ∀ text ∈ p.sources settings, '\u0000' ∉ text.toList := by
  -- The path of the executable has a zero in it if one of its two parts has.
  have hpath : '\u0000' ∈ (executablePath p.nativeLibraryDir settings.engineLibrary).toList ↔
      '\u0000' ∈ p.nativeLibraryDir.toList ∨ '\u0000' ∈ settings.engineLibrary.toList :=
    mem_executablePath (by decide)
  have htexts : (∀ t ∈ (p.snapshot settings).texts, '\u0000' ∉ t.2.toList) ↔
      ∀ text ∈ p.sources settings, '\u0000' ∉ text.toList := by
    simp only [Snapshot.texts, Profile.snapshot, Profile.sources, List.forall_mem_cons, hpath, not_or]
    constructor
    · rintro ⟨hname, hmaker, hmodel, hbuild, hos, hlocale, hcache, ⟨hdir, hlibrary⟩, -, hnil⟩
      exact ⟨hname, hmaker, hmodel, hbuild, hos, hlocale, hdir, hlibrary, hcache, by simp⟩
    · rintro ⟨hname, hmaker, hmodel, hbuild, hos, hlocale, hdir, hlibrary, hcache, -⟩
      exact ⟨hname, hmaker, hmodel, hbuild, hos, hlocale, hcache, ⟨hdir, hlibrary⟩, hdir, by simp⟩
  constructor
  · intro h
    exact ⟨h.width, h.height, htexts.mp h.texts⟩
  · rintro ⟨hwidth, hheight, h⟩
    exact ⟨hwidth, hheight, htexts.mpr h⟩

theorem Profile.presentable_iff {p : Profile} {settings : Settings} : p.Presentable settings ↔
    Bridge.surveyed.flatMap p.refusals = [] ∧ obstacles (p.snapshot settings) = [] := by
  rw [Profile.refusals_eq_nil_iff, Engine.obstacles_eq_nil_iff, Profile.portable_snapshot]
  constructor
  · rintro ⟨htold, hwidth, hheight, htexts⟩
    exact ⟨htold, hwidth, hheight, htexts⟩
  · rintro ⟨htold, hwidth, hheight, htexts⟩
    exact ⟨htold, hwidth, hheight, htexts⟩

/-! ### What is refused first -/

/-- The texts that are looked at before the path of the executable. -/
def Snapshot.earlierTexts (s : Snapshot) : List (String × String) :=
  s.texts.takeWhile fun t => t.1 ≠ "executable_path"

theorem Snapshot.texts_eq (s : Snapshot) : s.texts = s.earlierTexts ++
    [("executable_path", s.executablePath), ("native_lib_dir", s.nativeLibDir)] := by
  simp [earlierTexts, texts]

def Snapshot.earlierObstacles (s : Snapshot) : List Refusal :=
  s.dimensions.flatMap obstacleOfDimension ++ s.earlierTexts.flatMap obstacleOfText

theorem Snapshot.obstacles_eq (s : Snapshot) : obstacles s = s.earlierObstacles ++
    (obstacleOfText ("executable_path", s.executablePath) ++
      obstacleOfText ("native_lib_dir", s.nativeLibDir)) := by
  rw [obstacles, texts_eq, List.flatMap_append, earlierObstacles, List.append_assoc]
  simp

theorem Snapshot.field_of_earlier {s : Snapshot} {refusal : Refusal}
    (h : refusal ∈ s.earlierObstacles) : refusal.field ∈
      s.dimensions.map Prod.fst ++ s.earlierTexts.map Prod.fst := by
  rcases List.mem_append.mp h with h | h <;> obtain ⟨f, hf, hmem⟩ := List.mem_flatMap.mp h
  · refine List.mem_append_left _ (List.mem_map.mpr ⟨f, hf, ?_⟩)
    unfold obstacleOfDimension at hmem
    split at hmem
    · cases hmem
    · rw [List.mem_singleton.mp hmem]
      rfl
  · refine List.mem_append_right _ (List.mem_map.mpr ⟨f, hf, ?_⟩)
    unfold obstacleOfText at hmem
    split at hmem
    · rw [List.mem_singleton.mp hmem]
      rfl
    · cases hmem

section

variable {p : Profile} {settings : Settings} {refusal : Refusal} {rest : List Refusal}

/-- A zero in the directory or in the library is found in the path, unless something is refused before. -/
theorem Profile.first_obstacle
    (h : '\u0000' ∈ p.nativeLibraryDir.toList ∨ '\u0000' ∈ settings.engineLibrary.toList) :
    ∃ rest, obstacles (p.snapshot settings) =
      (p.snapshot settings).earlierObstacles.headD (.interiorZero "executable_path") :: rest := by
  have hpath : obstacleOfText ("executable_path", (p.snapshot settings).executablePath) =
      [.interiorZero "executable_path"] := if_pos ((mem_executablePath (by decide)).mpr h)
  rw [Snapshot.obstacles_eq, hpath]
  cases (p.snapshot settings).earlierObstacles with
  | nil => exact ⟨_, rfl⟩
  | cons refusal rest => exact ⟨_, rfl⟩

/-- **The directory of the libraries is never what is refused first.** -/
theorem Profile.field_of_first (h : obstacles (p.snapshot settings) = refusal :: rest) :
    refusal.field ∈ (p.snapshot settings).dimensions.map Prod.fst ++
      (p.snapshot settings).earlierTexts.map Prod.fst ++ ["executable_path"] := by
  rw [Snapshot.obstacles_eq] at h
  rcases hearlier : (p.snapshot settings).earlierObstacles with - | ⟨first, later⟩ <;>
    rw [hearlier] at h
  · -- A zero in the directory is one in the path as well.
    by_cases hpath : '\u0000' ∈ (p.snapshot settings).executablePath.toList
    · rw [show obstacleOfText ("executable_path", _) = _ from if_pos hpath] at h
      obtain ⟨rfl, -⟩ := List.cons.inj h
      exact List.mem_append_right _ (List.mem_singleton.mpr rfl)
    · have hdir : '\u0000' ∉ (p.snapshot settings).nativeLibDir.toList := fun hzero =>
        hpath ((mem_executablePath (by decide)).mpr (Or.inl hzero))
      rw [show obstacleOfText ("executable_path", _) = _ from if_neg hpath,
        show obstacleOfText ("native_lib_dir", _) = _ from if_neg hdir] at h
      cases h
  · obtain ⟨rfl, -⟩ := List.cons.inj h
    refine List.mem_append_left _ (Snapshot.field_of_earlier ?_)
    rw [hearlier]
    exact List.mem_cons_self

end

/-! ### What a refusal says -/

theorem Engine.Refusal.head?_message {refusal : Refusal} {c : Char}
    (h : refusal.field.toList.head? = some c) : refusal.message.toList.head? = some c := by
  obtain ⟨reason, hmessage⟩ := refusal.exists_message
  rw [hmessage, String.append_assoc, String.toList_append, List.head?_append, h]
  rfl

/-- A start that reaches native code is never refused for the directory of the libraries. -/
theorem Profile.message_of_first {p : Profile} {settings : Settings} {refusal : Refusal}
    {rest : List Refusal} (h : obstacles (p.snapshot settings) = refusal :: rest) :
    refusal.message ≠ (Refusal.interiorZero "native_lib_dir").message := by
  have hnames : ∀ name ∈ (p.snapshot settings).dimensions.map Prod.fst ++
      (p.snapshot settings).earlierTexts.map Prod.fst ++ ["executable_path"],
      ∃ c, c ≠ 'n' ∧ name.toList.head? = some c := by
    simp [Snapshot.dimensions, Snapshot.texts, Snapshot.earlierTexts]
  obtain ⟨c, hc, hfirst⟩ := hnames _ (field_of_first h)
  have hlast : (Refusal.interiorZero "native_lib_dir").message.toList.head? = some 'n' := by decide
  intro hmessage
  rw [← hmessage, Engine.Refusal.head?_message hfirst] at hlast
  exact hc (Option.some.inj hlast)

/-! ### Turning to native code -/

theorem Engine.marshalled_of_obstacle {snapshot : Snapshot} {refusal : Refusal} {rest : List Refusal}
    (h : obstacles snapshot = refusal :: rest) :
    (Engine.Call.snapshot snapshot).marshalled = .error refusal := by
  have hyields := yields_marshal snapshot
  rw [h] at hyields
  rw [Call.marshalled, show marshal snapshot = _ from hyields]
  rfl

theorem Engine.marshalled_of_portable {snapshot : Snapshot} (h : obstacles snapshot = []) :
    ∃ raw : RawSnapshot, raw.Carries snapshot ∧
      (Engine.Call.snapshot snapshot).marshalled = .ok (.snapshot raw) := by
  have hyields := yields_marshal snapshot
  rw [h] at hyields
  obtain ⟨raw, hraw, hcarries⟩ := hyields
  refine ⟨raw, hcarries, ?_⟩
  rw [Call.marshalled, hraw]
  rfl

theorem Crossed.exists_called {table table' : Table} {t : Trail} (h : Crossed table t)
    {raw : Engine.RawSnapshot} {status : Int32}
    (hc : (table', .snapshot raw, status) ∈ t.crossings) : ∃ snapshot reply,
      .called (.snapshot snapshot) reply ∈ t ∧ raw.Carries snapshot := by
  have hmem := List.mem_map_of_mem (f := fun c => (c.1, c.2.1)) hc
  rw [h.calls] at hmem
  obtain ⟨⟨call, reply⟩, hcall, hraw⟩ := List.mem_filterMap.mp hmem
  obtain ⟨raw', hcrossing, heq⟩ := Option.map_eq_some_iff.mp hraw
  cases heq
  cases call with
  | orientation orientation => cases hcrossing
  | snapshot snapshot =>
    refine ⟨snapshot, reply, Trail.mem_calls.mp hcall, ?_⟩
    unfold Engine.Call.crossing? at hcrossing
    rcases hobstacles : obstacles snapshot with - | ⟨refusal, rest⟩
    · obtain ⟨raw', hcarries, hmarshalled⟩ := Engine.marshalled_of_portable hobstacles
      rw [hmarshalled] at hcrossing
      cases hcrossing
      exact hcarries
    · rw [Engine.marshalled_of_obstacle hobstacles] at hcrossing
      cases hcrossing

/-- How handing a snapshot to native code fails: it is refused for its first obstacle, or native code
answers with a status. -/
theorem Engine.snapshot_failed {ν : Type} {library : Library ν} {table : Table} {snapshot : Snapshot}
    {memory : ν} {e : Failure}
    (h : ((native library table).perform (.snapshot snapshot) memory).result = .error e) :
    ∃ detail, e = .boundary "initialize_platform_info" detail ∧
      ((∃ refusal rest, obstacles snapshot = refusal :: rest ∧ detail = refusal.message) ∨
        ∃ status : Int32, detail = s!"engine returned status {status.toInt}") := by
  rcases hobstacles : obstacles snapshot with - | ⟨refusal, rest⟩
  · obtain ⟨raw, -, hmarshalled⟩ := marshalled_of_portable hobstacles
    rw [perform_of_marshalled hmarshalled] at h
    simp only [checkStatus] at h
    split at h
    · cases h
    · cases h
      exact ⟨_, rfl, Or.inr ⟨_, rfl⟩⟩
  · rw [perform_of_refused (marshalled_of_obstacle hobstacles)] at h
    cases h
    exact ⟨_, rfl, Or.inl ⟨refusal, rest, rfl, rfl⟩⟩

theorem Engine.head?_status (status : Int) :
    (s!"engine returned status {status}").toList.head? = some 'e' := by
  simp [toString]

namespace Bridge

variable {σ ν : Type} (host : Host σ) (library : Library ν) (table : Table)

theorem introduce_eq (engine : Engine ν) (snapshot : Snapshot) (orientation : Orientation)
    (s : Scene σ ν) : ∃ event, introduce host engine snapshot orientation s =
      (log event >>= fun _ => onEngine (engine.invoke (.snapshot snapshot)) >>= fun _ =>
        transition .initialized >>= fun _ => forward engine orientation >>= fun _ =>
          transition .active) s :=
  ⟨_, rfl⟩

theorem introduce_refused {snapshot : Snapshot} {refusal : Refusal} {rest : List Refusal}
    (h : obstacles snapshot = refusal :: rest) (orientation : Orientation) (s : Scene σ ν) :
    let o := introduce host (Engine.native library table) snapshot orientation s
    o.result = .error (.boundary "initialize_platform_info" refusal.message) ∧
      Trail.crossings o.trail = [] := by
  let failure : Failure := .boundary "initialize_platform_info" refusal.message
  have hlog : ∀ event, (log event : Act σ ν Unit) s = ⟨.ok (), s, [.logged event]⟩ := fun _ => rfl
  have hrefused : onEngine ((Engine.native library table).invoke (.snapshot snapshot)) s =
      ⟨.error failure, s, [.called (.snapshot snapshot) (.error failure)]⟩ := by
    simp only [onEngine, Engine.invoke, zoom_apply,
      Engine.perform_of_refused (Engine.marshalled_of_obstacle h)]
    rfl
  obtain ⟨event, heq⟩ := introduce_eq host (Engine.native library table) snapshot orientation s
  intro o
  have ho : o = _ := heq
  rw [bind_ok (hlog event), bind_error hrefused] at ho
  rw [ho]
  exact ⟨rfl, rfl⟩

/-- A snapshot that crosses is the first thing that native code is called with. -/
theorem introduce_carried {snapshot : Snapshot} (h : obstacles snapshot = [])
    (orientation : Orientation) (s : Scene σ ν) : ∃ raw status, raw.Carries snapshot ∧
      [(table, .snapshot raw, status)] <+:
        Trail.crossings (introduce host (Engine.native library table) snapshot orientation s).trail := by
  obtain ⟨raw, hcarries, hmarshalled⟩ := Engine.marshalled_of_portable h
  let status := (library.respond table (.snapshot raw) s.engine).1
  let told : Act σ ν Unit := onEngine ((Engine.native library table).invoke (.snapshot snapshot))
  have hcrossed : Trail.crossings (told s).trail = [(table, .snapshot raw, status)] := by
    simp [told, status, onEngine, Engine.invoke, Engine.perform_of_marshalled hmarshalled]
  have hlog : ∀ event, (log event : Act σ ν Unit) s = ⟨.ok (), s, [.logged event]⟩ := fun _ => rfl
  obtain ⟨event, heq⟩ := introduce_eq host (Engine.native library table) snapshot orientation s
  refine ⟨raw, status, hcarries, ?_⟩
  rw [heq, bind_ok (hlog event), Trail.crossings_append, ← hcrossed]
  exact (prefix_bind told _ s).filterMap _

/-! ### What is never reported -/

def libraryDirRefused : Failure :=
  .boundary "initialize_platform_info" (Refusal.interiorZero "native_lib_dir").message

theorem failsOnly_snapshot (p : Profile) (settings : Settings) : FailsOnly (· ≠ libraryDirRefused)
    ((Engine.native library table).perform (.snapshot (p.snapshot settings))) := by
  rintro memory e he rfl
  obtain ⟨detail, hrefused, hdetail⟩ := Engine.snapshot_failed he
  have hsame : (Refusal.interiorZero "native_lib_dir").message = detail :=
    (Failure.boundary.inj hrefused).2
  rcases hdetail with ⟨refusal, rest, hobstacles, rfl⟩ | ⟨status, rfl⟩
  · exact Profile.message_of_first hobstacles hsame.symm
  · -- A status is reported in other words.
    have hhead : (Refusal.interiorZero "native_lib_dir").message.toList.head? = some 'n' := by decide
    rw [hsame, Engine.head?_status] at hhead
    cases hhead

/-- **No delivery from a desktop host is refused for the directory of the libraries.** -/
theorem failsOnly_deliver (d : Delivery) :
    FailsOnly (· ≠ libraryDirRefused) (deliver Desktop.host (Engine.native library table) d) := by
  refine failsOnly_of_snapshots .desktop (.native library table) d (fun e he => he _) ?_
  intro s snapshot reply hcalled
  obtain ⟨t, -, p, rfl, -⟩ := collected_of_called hcalled
  exact failsOnly_snapshot library table p _

/-! ### The start -/

/-- **How a start from a desktop host ends over native code**: a query is refused, a field of the
snapshot does not cross, or native code is called with the snapshot before all else. -/
theorem start_over_native {p : Profile} {settings : Settings} {s : Scene Desktop ν}
    (hp : s.host.profile = p) (hs : s.bridge.settings = settings) :
    let o := guarded (start Desktop.host (Engine.native library table)) s
    (surveyed.flatMap p.refusals ≠ [] ∧ (∃ e, o.result = .error e) ∧ Trail.crossings o.trail = []) ∨
      surveyed.flatMap p.refusals = [] ∧
        ((∃ refusal rest, obstacles (p.snapshot settings) = refusal :: rest ∧
          o.result = .error (.boundary "initialize_platform_info" refusal.message) ∧
          Trail.crossings o.trail = []) ∨
        obstacles (p.snapshot settings) = [] ∧ ∃ raw status, raw.Carries (p.snapshot settings) ∧
          [(table, .snapshot raw, status)] <+: Trail.crossings o.trail) := by
  intro o
  let x := start Desktop.host (Engine.native library table) s
  -- Guarding adds an event to the trail and keeps the result.
  have hguard : o.result = x.result ∧ Trail.crossings o.trail = Trail.crossings x.trail := by
    rcases guarded_cases (start Desktop.host (Engine.native library table)) s with ⟨-, hg⟩ | ⟨e, he, hg⟩
    · rw [show o = x from hg]
      exact ⟨rfl, rfl⟩
    · rw [show o = _ from hg]
      exact ⟨he.symm, by simp [x]⟩
  rw [hguard.1, hguard.2]
  rcases start_over_desktop (Engine.native library table) hp hs with
    ⟨e, rest, hfaults, he, -, hside⟩ | ⟨hnone, s', t, -, -, -, hside, hlater⟩
  · refine Or.inl ⟨?_, ⟨e, he⟩, ?_⟩
    · rw [hfaults]
      exact List.cons_ne_nil _ _
    · rw [← Trail.crossings_engineSide, hside]
      rfl
  · have hquiet : Trail.crossings t = [] := by
      rw [← Trail.crossings_engineSide, hside]
      rfl
    refine Or.inr ⟨hnone, ?_⟩
    rw [show x = _ from hlater, Trail.crossings_append, hquiet, List.nil_append]
    rcases hobstacles : obstacles (p.snapshot settings) with - | ⟨refusal, rest⟩
    · obtain ⟨raw, status, hcarries, hcrossed⟩ :=
        introduce_carried Desktop.host library table hobstacles p.orientation s'
      exact Or.inr ⟨rfl, raw, status, hcarries, hcrossed.trans ((prefix_bind _ _ s').filterMap _)⟩
    · obtain ⟨hresult, hcrossings⟩ :=
        introduce_refused Desktop.host library table hobstacles p.orientation s'
      rw [bind_after_error _ hresult]
      exact Or.inl ⟨refusal, rest, rfl, rfl, hcrossings⟩

end Bridge

/-! ### The whole way -/

/-- **From the answers of a desktop host to native code.** The first start of a bridge calls native
code with a snapshot if the profile and the settings are presentable, and native code reads back what
the host told. Else native code is not called, then or later. A zero in the directory or in the name
of the library is reported for the path of the executable, or something is refused before that; the
directory as such is never what is reported. -/
theorem Desktop.hands_over_if_presentable {ν : Type} (d : Desktop) (settings : Settings)
    (library : Library ν) (table : Table) (memory : ν) :
    let p := d.profile
    let fresh : Run ν := ⟨settings, Engine.native library table, memory, []⟩
    let start : Visit := ⟨Desktop.host, d, .start⟩
    let o := fresh.next start
    ((∃ t raw status, (t, .snapshot raw, status) ∈ Trail.crossings o.trail) ↔
      p.Presentable settings) ∧
    (p.Presentable settings → ∃ raw status updates, raw.Carries (p.snapshot settings) ∧
      Trail.crossings o.trail = (table, .snapshot raw, status) :: updates ∧
        ∀ c ∈ updates, c.1 = table ∧ c.2.1.isOrientation) ∧
    (¬ p.Presentable settings → ∀ later, (fresh.extend (start :: later)).trail.crossings = []) ∧
    ((∀ q ∈ Bridge.surveyed, p.failQuery ≠ some q.name) →
      '\u0000' ∈ p.nativeLibraryDir.toList ∨ '\u0000' ∈ settings.engineLibrary.toList →
        o.result = .error (.boundary "initialize_platform_info"
          ((p.snapshot settings).earlierObstacles.headD (.interiorZero "executable_path")).message)) ∧
    ∀ visits (d' : Desktop) delivery,
      ((fresh.extend visits).next ⟨Desktop.host, d', delivery⟩).result ≠
        .error (.boundary "initialize_platform_info"
          (Refusal.interiorZero "native_lib_dir").message) := by
  intro p fresh start o
  have hends := Bridge.start_over_native library table (s := ⟨{ settings }, d, memory⟩)
    (show _ = p from rfl) (show _ = settings from rfl)
  have hpresentable : p.Presentable settings ↔ Bridge.surveyed.flatMap p.refusals = [] ∧
      obstacles (p.snapshot settings) = [] := Profile.presentable_iff
  have hvisit : (fresh.extend [start]).trail = o.trail := Run.trail_visit fresh start
  -- What crosses is a snapshot and orientations after it, or nothing.
  have hordered : Trail.crossings o.trail = [] ∨ ∃ raw status rest,
      Trail.crossings o.trail = (table, .snapshot raw, status) :: rest ∧
        ∀ c ∈ rest, c.1 = table ∧ c.2.1.isOrientation := by
    have htold := (fresh.extend [start]).consistent.told
    rw [hvisit] at htold
    exact (crossed_deliver Desktop.host library table .start ⟨{ settings }, d, memory⟩ .nil).ordered htold
  have hcases : (¬ p.Presentable settings ∧ (∃ e, o.result = .error e) ∧ Trail.crossings o.trail = []) ∨
      p.Presentable settings ∧ ∃ raw status updates, raw.Carries (p.snapshot settings) ∧
        Trail.crossings o.trail = (table, .snapshot raw, status) :: updates ∧
          ∀ c ∈ updates, c.1 = table ∧ c.2.1.isOrientation := by
    rcases hends with ⟨hrefused, he, hnone⟩ | ⟨hsurveyed, ⟨refusal, rest, hstuck, he, hnone⟩ |
      ⟨hclear, raw, status, hcarries, hfirst⟩⟩
    · exact Or.inl ⟨fun h => hrefused (hpresentable.mp h).1, he, hnone⟩
    · refine Or.inl ⟨fun h => ?_, ⟨_, he⟩, hnone⟩
      rw [(hpresentable.mp h).2] at hstuck
      cases hstuck
    · refine Or.inr ⟨hpresentable.mpr ⟨hsurveyed, hclear⟩, ?_⟩
      obtain ⟨updates, hcrossings⟩ := hfirst
      have hcrossings : Trail.crossings o.trail = (table, .snapshot raw, status) :: updates :=
        hcrossings.symm
      rcases hordered with hnone | ⟨raw', status', rest, hrest, hupdates⟩
      · cases hnone.symm.trans hcrossings
      · cases hrest.symm.trans hcrossings
        exact ⟨raw, status, updates, hcarries, hcrossings, hupdates⟩
  refine ⟨?_, ?_, ?_, ?_, ?_⟩
  · rcases hcases with ⟨hnot, -, hnone⟩ | ⟨hyes, raw, status, updates, -, hcrossings, -⟩
    · rw [hnone]
      exact iff_of_false (fun ⟨_, _, _, h⟩ => nomatch h) hnot
    · rw [hcrossings]
      exact iff_of_true ⟨table, raw, status, List.mem_cons_self⟩ hyes
  · intro hyes
    exact (hcases.resolve_left fun h => h.1 hyes).2
  · intro hnot later
    obtain ⟨-, ⟨e, hfailed⟩, hnone⟩ := hcases.resolve_right fun h => hnot h.1
    have hpoisoned : (fresh.extend [start]).bridge.phase = .poisoned := by
      rw [Run.bridge_visit]
      exact Bridge.phase_of_failed hfailed
    have hlater : (fresh.extend (start :: later)).trail = o.trail := by
      rw [← hvisit, ← Run.trail_of_poisoned hpoisoned later, Run.extend_extend]
      rfl
    rw [hlater]
    exact hnone
  · intro htold hzero
    obtain ⟨rest, hfirst⟩ := Profile.first_obstacle (p := p) hzero
    have hsurveyed := Profile.refusals_eq_nil_iff.mpr htold
    rcases hends with ⟨hrefused, -⟩ | ⟨-, ⟨refusal, rest', hstuck, he, -⟩ | ⟨hclear, -⟩⟩
    · exact absurd hsurveyed hrefused
    · cases hstuck.symm.trans hfirst
      exact he
    · cases hclear.symm.trans hfirst
  · intro visits d' delivery hreported
    exact Bridge.failsOnly_deliver library table delivery _ _ hreported rfl

end PlatformBridge
