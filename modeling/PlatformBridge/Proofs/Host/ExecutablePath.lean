import Mathlib.Data.List.DropRight
import PlatformBridge.Proofs.Settings.Gate

/-!
# The path of the executable

The path of the executable in a snapshot is put together from the directory of the libraries and from
the library that the settings name. Settings that pass the gate name a library without a slash, so the
path can be taken apart again: at its last slash.

* `IsStem directory stem` — the directory is the stem and slashes, and the stem does not end in one;
* `SplitsAtLastSlash path front name` — where a path comes apart, in one way only
  (`SplitsAtLastSlash.unique`);
* `SameFolder` — two directories that differ in the slashes at their ends alone, as `trimSlashes` finds
  (`trimSlashes_eq_iff`);
* `Collects settings directory snapshot` — the snapshot is collected under the settings from a host with
  the directory;
* `executable_path_comes_apart` — what the path of the executable tells of the two.
-/

namespace PlatformBridge

/-! ### Directories -/

/-- **The stem of a directory**: the longest part at its front that does not end in a slash; after it
there are slashes only. -/
structure IsStem (directory stem : List Char) : Prop where
  rest : ∃ n, directory = stem ++ List.replicate n '/'
  bare : stem.getLast? ≠ some '/'
  longest : ∀ front, front <+: directory → front.getLast? ≠ some '/' → front.length ≤ stem.length

/-- **Two directories that differ at most in the slashes at their ends.** -/
def SameFolder (directory directory' : List Char) : Prop :=
  ∃ stem m n, directory = stem ++ List.replicate m '/' ∧ directory' = stem ++ List.replicate n '/'

theorem trimSlashes_eq_rdropWhile (path : List Char) :
    trimSlashes path = path.rdropWhile (· == '/') := rfl

theorem exists_slashes (path : List Char) :
    ∃ n, path = trimSlashes path ++ List.replicate n '/' := by
  have hslashes : path.rtakeWhile (· == '/') =
      List.replicate (path.rtakeWhile (· == '/')).length '/' := by
    refine List.eq_replicate_iff.mpr ⟨rfl, fun c hc => ?_⟩
    have htaken := List.mem_rtakeWhile_imp hc
    exact eq_of_beq htaken
  refine ⟨(path.rtakeWhile (· == '/')).length, ?_⟩
  rw [← hslashes, trimSlashes_eq_rdropWhile, List.rdropWhile_append_rtakeWhile]

theorem getLast?_trimSlashes (path : List Char) : (trimSlashes path).getLast? ≠ some '/' := by
  rw [trimSlashes_eq_rdropWhile]
  intro hlast
  have hne : path.rdropWhile (· == '/') ≠ [] := by
    intro hnil
    rw [hnil] at hlast
    cases hlast
  have hnot := List.rdropWhile_last_not (· == '/') path hne
  rw [List.getLast?_eq_some_getLast hne] at hlast
  rw [Option.some.inj hlast] at hnot
  exact hnot rfl

theorem trimSlashes_append (path : List Char) (n : Nat) :
    trimSlashes (path ++ List.replicate n '/') = trimSlashes path := by
  induction n with
  | zero => rw [List.replicate_zero, List.append_nil]
  | succ n ih =>
    rw [List.replicate_succ', ← List.append_assoc, trimSlashes_eq_rdropWhile,
      List.rdropWhile_concat_pos _ _ _ rfl]
    exact ih

/-- **Trimming a directory leaves its stem.** -/
theorem isStem_trimSlashes (directory : List Char) : IsStem directory (trimSlashes directory) := by
  obtain ⟨n, hrest⟩ := exists_slashes directory
  refine ⟨⟨n, hrest⟩, getLast?_trimSlashes directory, ?_⟩
  intro front hfront hbare
  have hstem : trimSlashes directory <+: directory := ⟨_, hrest.symm⟩
  rcases List.prefix_or_prefix_of_prefix hfront hstem with hshort | ⟨more, hlong⟩
  · exact hshort.length_le
  · -- A longer front goes on with slashes, so it would end in one.
    have hmore : more <+: List.replicate n '/' := by
      rw [← List.prefix_append_right_inj (trimSlashes directory), hlong, ← hrest]
      exact hfront
    rcases List.eq_nil_or_concat' more with rfl | ⟨init, c, rfl⟩
    · rw [← hlong, List.append_nil]
    · have hc : c = '/' := by
        refine List.eq_of_mem_replicate (n := n) (hmore.subset ?_)
        exact List.mem_append_right _ List.mem_cons_self
      refine absurd ?_ hbare
      rw [← hlong, hc, ← List.append_assoc]
      exact List.getLast?_concat

theorem trimSlashes_eq_iff {directory directory' : List Char} :
    trimSlashes directory = trimSlashes directory' ↔ SameFolder directory directory' := by
  constructor
  · intro h
    obtain ⟨m, hm⟩ := exists_slashes directory
    obtain ⟨n, hn⟩ := exists_slashes directory'
    rw [← h] at hn
    exact ⟨_, m, n, hm, hn⟩
  · rintro ⟨stem, m, n, rfl, rfl⟩
    rw [trimSlashes_append, trimSlashes_append]

/-! ### Paths -/

/-- **A path in two**: what stands before its last slash, and what stands after it. -/
structure SplitsAtLastSlash (path front name : List Char) : Prop where
  whole : path = front ++ '/' :: name
  last : '/' ∉ name

/-- Between the last slash and the name after it nothing else can stand. -/
theorem eq_nil_of_last {name name' more : List Char} (hlast : '/' ∉ name)
    (h : '/' :: name = more ++ '/' :: name') : more = [] ∧ name = name' := by
  cases more with
  | nil => exact ⟨rfl, (List.cons.inj h).2⟩
  | cons c more =>
    obtain ⟨-, hinside⟩ := List.cons.inj h
    refine absurd ?_ hlast
    rw [hinside]
    exact List.mem_append_right _ List.mem_cons_self

/-- A path comes apart in one way only. -/
theorem SplitsAtLastSlash.unique {path front name front' name' : List Char}
    (h : SplitsAtLastSlash path front name) (h' : SplitsAtLastSlash path front' name') :
    front = front' ∧ name = name' := by
  have hboth : front ++ '/' :: name = front' ++ '/' :: name' := h.whole.symm.trans h'.whole
  -- If one front were longer, its last slash would stand in the other name.
  rcases List.append_eq_append_iff.mp hboth with ⟨more, hfront, hname⟩ | ⟨more, hfront, hname⟩
  · obtain ⟨rfl, hsame⟩ := eq_nil_of_last h.last hname
    exact ⟨by rw [hfront, List.append_nil], hsame⟩
  · obtain ⟨rfl, hsame⟩ := eq_nil_of_last h'.last hname
    exact ⟨by rw [hfront, List.append_nil], hsame.symm⟩

theorem toList_executablePath (directory library : String) :
    (executablePath directory library).toList =
      trimSlashes directory.toList ++ '/' :: library.toList := by
  unfold executablePath
  exact String.toList_ofList

/-- A library without a slash in its name is what stands after the last one. -/
theorem splits_executablePath {directory library : String} (h : '/' ∉ library.toList) :
    SplitsAtLastSlash (executablePath directory library).toList (trimSlashes directory.toList)
      library.toList :=
  ⟨toList_executablePath directory library, h⟩

/-- **Two paths are the same** exactly if they are made of the same library and the same folder. -/
theorem executablePath_eq_iff {directory directory' library library' : String}
    (h : '/' ∉ library.toList) (h' : '/' ∉ library'.toList) :
    executablePath directory library = executablePath directory' library' ↔
      library = library' ∧ SameFolder directory.toList directory'.toList := by
  rw [← trimSlashes_eq_iff]
  constructor
  · intro hpath
    have hsplit' : SplitsAtLastSlash (executablePath directory' library').toList
        (trimSlashes directory'.toList) library'.toList := splits_executablePath h'
    rw [← hpath] at hsplit'
    obtain ⟨hfront, hname⟩ := (splits_executablePath h).unique hsplit'
    exact ⟨String.toList_inj.mp hname, hfront⟩
  · rintro ⟨rfl, hfront⟩
    unfold executablePath
    rw [hfront]

/-! ### Snapshots -/

/-- **The snapshot is collected under the settings from a host with the directory** of libraries. -/
def Collects (settings : Settings) (directory : String) (snapshot : Snapshot) : Prop :=
  ∃ (σ : Type) (host : Host σ) (s : σ), (collect host settings s).result = .ok snapshot ∧
    .asked .nativeLibraryDir (.ok directory) ∈ (collect host settings s).trail

theorem exists_collects (settings : Settings) (directory : String) :
    ∃ snapshot, Collects settings directory snapshot := by
  let p : Profile := { nativeLibraryDir := directory }
  have hok : (collect Desktop.host settings { profile := p }).result = .ok (p.snapshot settings) := rfl
  obtain ⟨p', hsame, hanswers⟩ := (collected_of_ok hok).exists_answers
  have hdirectory : directory = p'.nativeLibraryDir := congrArg Snapshot.nativeLibDir hsame
  refine ⟨p.snapshot settings, Desktop, Desktop.host, { profile := p }, hok, ?_⟩
  exact (hanswers .nativeLibraryDir (by decide) _).mpr (congrArg Except.ok hdirectory)

/-- The snapshot has the directory as it is, and the path that is made of it. -/
theorem Collects.fields {settings : Settings} {directory : String} {snapshot : Snapshot}
    (h : Collects settings directory snapshot) : snapshot.nativeLibDir = directory ∧
      snapshot.executablePath = executablePath directory settings.engineLibrary := by
  obtain ⟨σ, host, s, hok, htold⟩ := h
  obtain ⟨p, rfl, hanswers⟩ := (collected_of_ok hok).exists_answers
  have hasked := (hanswers .nativeLibraryDir (by decide) _).mp htold
  have hdirectory : directory = p.nativeLibraryDir := Except.ok.inj hasked
  rw [hdirectory]
  exact ⟨rfl, rfl⟩

/-- **The path of the executable comes apart again.** Whatever the directory of the libraries is, and
whatever settings passed the gate, the path has the library behind its last slash and the stem of the
directory before it, and the directory itself is told unchanged. Slashes at the end of the directory
make no difference, and otherwise different directories and libraries have different paths. -/
theorem executable_path_comes_apart {settings settings' : Settings}
    (accepted : settings.validate = .ok settings) (accepted' : settings'.validate = .ok settings')
    (directory directory' : String) :
    (∃ snapshot, Collects settings directory snapshot) ∧
      ∀ snapshot snapshot', Collects settings directory snapshot →
        Collects settings' directory' snapshot' →
        snapshot.nativeLibDir = directory ∧
        (∃ stem, IsStem directory.toList stem ∧ SplitsAtLastSlash snapshot.executablePath.toList stem
          settings.engineLibrary.toList) ∧
        (∀ n, directory'.toList = directory.toList ++ List.replicate n '/' → settings' = settings →
          snapshot'.executablePath = snapshot.executablePath) ∧
        (snapshot.executablePath = snapshot'.executablePath ↔
          settings.engineLibrary = settings'.engineLibrary ∧
            SameFolder directory.toList directory'.toList) := by
  refine ⟨exists_collects settings directory, fun snapshot snapshot' h h' => ?_⟩
  have hbare : '/' ∉ settings.engineLibrary.toList := (Settings.sound_of_validate accepted).2.bare.1
  have hbare' : '/' ∉ settings'.engineLibrary.toList :=
    (Settings.sound_of_validate accepted').2.bare.1
  obtain ⟨hdirectory, hpath⟩ := h.fields
  obtain ⟨-, hpath'⟩ := h'.fields
  rw [hpath, hpath']
  refine ⟨hdirectory, ?_, ?_, executablePath_eq_iff hbare hbare'⟩
  · exact ⟨_, isStem_trimSlashes directory.toList, splits_executablePath hbare⟩
  · rintro n hslashes rfl
    unfold executablePath
    rw [hslashes, trimSlashes_append]

theorem executable_path_comes_apart_lib :
    let settings : Settings := {}
    settings.validate = .ok settings ∧ (∃ snapshot, Collects settings "/opt/lib//" snapshot) ∧
      ∀ snapshot snapshot', Collects settings "/opt/lib//" snapshot →
        Collects settings "/opt/lib" snapshot' →
        snapshot.executablePath = snapshot'.executablePath := by
  intro settings
  have accepted : settings.validate = .ok settings := by decide
  obtain ⟨hcollects, hboth⟩ :=
    executable_path_comes_apart accepted accepted "/opt/lib//" "/opt/lib"
  refine ⟨accepted, hcollects, fun snapshot snapshot' h h' => ?_⟩
  obtain ⟨-, -, -, hsame⟩ := hboth snapshot snapshot' h h'
  exact hsame.mpr ⟨rfl, "/opt/lib".toList, 2, 0, by decide, by decide⟩

end PlatformBridge
