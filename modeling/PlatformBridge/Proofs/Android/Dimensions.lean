import PlatformBridge.Proofs.Android.Abort
import PlatformBridge.Proofs.Android.Conversation
import PlatformBridge.Proofs.Android.Withheld
import PlatformBridge.Proofs.Host.Collected
import PlatformBridge.Proofs.Host.Handover
import PlatformBridge.Proofs.Lifecycle.Attribution
import PlatformBridge.Proofs.Settings.Gate
import PlatformBridge.Rehearsal.Activity

/-!
# The size of the display on its way to native code

The virtual machine gives the sides of the display as signed numbers. The host makes unsigned ones of
them, and the boundary to native code signed ones again.

* `marshalDimension_toUInt32`, `min_offends` — the conversions, and what is told of numbers that have
  none;
* `result_of_reported` — what comes of the query, by the two numbers that the machine told;
* `sides_of_called`, `sides_of_crossing` — the engine is called with these numbers, and native code
  gets them;
* `Failure.Oversized` — the refusal of a side that is too large; `spare_deliver` and `spare_play`: no
  delivery from the Android host and no request to a process is ever refused so;
* `dimensions_survive` — all of it together.
-/

namespace PlatformBridge

open PlatformBridge.Action
open Java (Machine Object Env)
open Engine (Refusal marshalDimension)

/-! ### Numbers -/

theorem toNat_toUInt32 {n : Int32} (h : 0 ≤ n) : (n.toUInt32.toNat : Int) = n.toInt := by
  have hn : 0 ≤ n.toBitVec.toInt := by simpa using Int32.le_iff_toInt_le.mp h
  have hnat := BitVec.toInt_eq_toNat_cond n.toBitVec
  have hto : n.toUInt32.toNat = n.toBitVec.toNat := rfl
  have hint : n.toInt = n.toBitVec.toInt := rfl
  rw [hto, hint]
  split at hnat <;> omega

theorem toUInt32_le {n : Int32} (h : 0 ≤ n) : n.toUInt32.toNat ≤ 2147483647 := by
  have hnat := toNat_toUInt32 h
  have hlt := Int32.toInt_lt n
  omega

theorem marshalDimension_toUInt32 (field : String) {n : Int32} (h : 0 ≤ n) :
    marshalDimension field n.toUInt32 = .ok n := by
  have hle := toUInt32_le h
  unfold marshalDimension
  rw [if_pos (by omega)]
  rfl

theorem min_offends {w h : Int32} (hbad : ¬ (0 ≤ w ∧ 0 ≤ h)) :
    min w.toInt h.toInt < 0 ∧ (min w.toInt h.toInt = w.toInt ∨ min w.toInt h.toInt = h.toInt) := by
  rw [Int32.le_iff_toInt_le, Int32.le_iff_toInt_le, Int32.toInt_zero] at hbad
  omega

namespace Android

/-! ### The query -/

section

variable {ν : Type} {m : Machine ν} {activity : Object} {env : Env ν} {w h : Int32}

theorem judge_of_nonneg (hsides : 0 ≤ w ∧ 0 ≤ h) : judge w h = .ok ⟨w.toUInt32, h.toUInt32⟩ := by
  have hsize : DisplaySize.ofSigned? w h = some ⟨w.toUInt32, h.toUInt32⟩ := if_pos hsides
  unfold judge
  rw [hsize]

theorem judge_of_negative (hsides : ¬ (0 ≤ w ∧ 0 ≤ h)) :
    judge w h = .error (.invalidHostValue "real_display_size" (min w.toInt h.toInt)) := by
  have hsize : DisplaySize.ofSigned? w h = none := if_neg hsides
  unfold judge
  rw [hsize]
  rfl

/-- All that is heard in the query is heard while the sides are had. -/
theorem heard_realDisplaySize : heard m activity .realDisplaySize env =
    (Hearing.along Host.Effect.operation? m ⟨env.machine, []⟩ (sides m activity env).trail).exchanges := by
  unfold heard
  show (Hearing.along _ m _ (realDisplaySize m activity env).trail).exchanges = _
  rw [realDisplaySize_eq]
  rcases bind_cases (sides m activity) (fun sides => lift (judge sides.1 sides.2)) env with
    ⟨e, -, hb⟩ | ⟨a, -, hb⟩ <;> rw [hb]
  rw [lift_apply, List.append_nil]

theorem reported_of_sides (hsides : (sides m activity env).result = .ok (w, h)) :
    Reported (heard m activity .realDisplaySize env) w h := by
  have hhears : QueryHears m .realDisplaySize [] (sides m activity) fun xs a =>
      Reported xs a.1 a.2 := hears_sides m activity fun _ _ _ hreported _ => hreported
  obtain ⟨-, hreported⟩ := hhears env
  rw [hsides] at hreported
  rw [heard_realDisplaySize]
  exact hreported

/-- **The query is judged by the two numbers** that the machine told. -/
theorem result_of_reported (hreported : Reported (heard m activity .realDisplaySize env) w h) :
    (ask m activity .realDisplaySize env).result = judge w h := by
  show (realDisplaySize m activity env).result = judge w h
  rw [realDisplaySize_eq]
  rcases bind_cases (sides m activity) (fun sides => lift (judge sides.1 sides.2)) env with
    ⟨e, he, -⟩ | ⟨⟨w', h'⟩, hok, hb⟩
  · -- The height is told last, so if it was told the sides were had.
    have hnone := withholds_sides m activity env [] e rfl he
    rw [heard_realDisplaySize] at hreported
    cases hnone.symm.trans hreported.height
  · have hsides := reported_of_sides hok
    have hw : w' = w := Option.some.inj (hsides.width.symm.trans hreported.width)
    have hh : h' = h := Option.some.inj (hsides.height.symm.trans hreported.height)
    rw [hb, hw, hh]
    rfl

end

/-! ### What the engine is called with -/

/-- A size that is spelled has the sides that were told, and they are not negative. -/
theorem reported_of_spelled {xs : List Exchange} {size : DisplaySize}
    (hspelled : Query.spelled? .realDisplaySize xs = some size) : ∃ w h : Int32, Reported xs w h ∧
      0 ≤ w ∧ 0 ≤ h ∧ size = ⟨w.toUInt32, h.toUInt32⟩ := by
  obtain ⟨w, hw, hrest⟩ := Option.bind_eq_some_iff.mp hspelled
  obtain ⟨h, hh, hsize⟩ := Option.bind_eq_some_iff.mp hrest
  unfold DisplaySize.ofSigned? at hsize
  split at hsize
  · cases hsize
    exact ⟨w, h, ⟨hw, hh⟩, ‹0 ≤ w ∧ 0 ≤ h›.1, ‹0 ≤ w ∧ 0 ≤ h›.2, rfl⟩
  · cases hsize

section

variable {ν μ ε : Type} (m : Machine ν) (activity : Object)

/-- **The engine is called with the sides that were told**, in the one conversation about them. -/
theorem sides_of_called (engine : Engine ε) (d : Delivery) (s : Scene (Env ν) ε) {snapshot : Snapshot}
    {reply : Except Failure Unit}
    (h : .called (.snapshot snapshot) reply ∈ (Bridge.deliver (host m activity) engine d s).trail) :
    ∃ c ∈ conversations m s.host.machine (Bridge.deliver (host m activity) engine d s).trail,
      c.query = .realDisplaySize ∧ ∃ w h : Int32, Reported c.exchanges w h ∧ 0 ≤ w ∧ 0 ≤ h ∧
        snapshot.screenWidth = w.toUInt32 ∧ snapshot.screenHeight = h.toUInt32 := by
  obtain ⟨t, hearlier, hcollected⟩ := Bridge.collected_of_called h
  obtain ⟨p, rfl, hanswers⟩ := hcollected.exists_answers
  have hasked := (hanswers .realDisplaySize (by decide) (.ok p.display)).mpr rfl
  obtain ⟨⟨query, exchanges, reply⟩, hc, heq⟩ := mem_conversations.mpr (hearlier.subset hasked)
  cases heq
  -- The answer is the one that the conversation spells.
  have hfaithful := faithful_deliver m activity engine d s _ hc
  obtain ⟨w, h, hreported, hw, hh, hsize⟩ := reported_of_spelled hfaithful.2
  refine ⟨_, hc, rfl, w, h, hreported, hw, hh, ?_, ?_⟩
  · exact congrArg DisplaySize.width hsize
  · exact congrArg DisplaySize.height hsize

/-- **Native code gets the sides that were told**, in the one conversation about them. -/
theorem sides_of_crossing (library : Engine.Library μ) (table : Engine.Table) (d : Delivery)
    (s : Scene (Env ν) μ) {table' : Engine.Table} {raw : Engine.RawSnapshot} {status : Int32}
    (hc : (table', .snapshot raw, status) ∈ Trail.crossings
      (Bridge.deliver (host m activity) (Engine.native library table) d s).trail) :
    ∃ c ∈ conversations m s.host.machine
        (Bridge.deliver (host m activity) (Engine.native library table) d s).trail,
      c.query = .realDisplaySize ∧ Reported c.exchanges raw.screenWidth raw.screenHeight := by
  have hcrossed := crossed_deliver (host m activity) library table d s .nil
  obtain ⟨snapshot, reply, hcalled, hcarries⟩ := hcrossed.exists_called hc
  obtain ⟨c, hconversation, hquery, w, h, hreported, hw, hh, hwidth, hheight⟩ :=
    sides_of_called m activity _ d s hcalled
  have hsame : raw.screenWidth = w := by
    rw [← Int32.toInt_inj, hcarries.width, hwidth, toNat_toUInt32 hw]
  have hsame' : raw.screenHeight = h := by
    rw [← Int32.toInt_inj, hcarries.height, hheight, toNat_toUInt32 hh]
  rw [hsame, hsame']
  exact ⟨c, hconversation, hquery, hreported⟩

end

end Android

/-! ### The refusal that is never made -/

/-- The names of the texts do not begin as those of the dimensions do. -/
theorem Snapshot.head?_of_texts {snapshot : Snapshot} {text : String × String}
    (h : text ∈ snapshot.texts) : ∃ c, c ≠ 's' ∧ text.1.toList.head? = some c := by
  have hnames : ∀ text ∈ snapshot.texts, ∃ c, c ≠ 's' ∧ text.1.toList.head? = some c := by
    simp [texts]
  exact hnames text h

/-- **The failure refuses a side of the display** for being larger than native code takes. -/
def Failure.Oversized (e : Failure) : Prop :=
  ∃ field ∈ ["screen_width", "screen_height"], ∃ value : UInt32,
    e = .boundary "initialize_platform_info" (Refusal.tooLarge field value).message

/-- Of a display with sides that cross, native code is not told that they do not. -/
theorem Engine.spare_snapshot {μ : Type} (library : Library μ) (table : Table) {snapshot : Snapshot}
    (hwidth : snapshot.screenWidth.toNat ≤ 2147483647)
    (hheight : snapshot.screenHeight.toNat ≤ 2147483647) :
    FailsOnly (¬ ·.Oversized) ((native library table).perform (.snapshot snapshot)) := by
  rintro memory e he ⟨field, hfield, value, rfl⟩
  obtain ⟨detail, hrefused, hdetail⟩ := snapshot_failed he
  have hsame : (Refusal.tooLarge field value).message = detail := (Failure.boundary.inj hrefused).2
  have hfirst : field.toList.head? = some 's' := by
    simp only [List.mem_cons, List.not_mem_nil, or_false] at hfield
    rcases hfield with rfl | rfl <;> rfl
  have htold : (Refusal.tooLarge field value).message.toList.head? = some 's' :=
    Refusal.head?_message hfirst
  rw [hsame] at htold
  rcases hdetail with ⟨refusal, rest, hobstacles, rfl⟩ | ⟨status, rfl⟩
  · have hmem : refusal ∈ obstacles snapshot := by
      rw [hobstacles]
      exact List.mem_cons_self
    -- Both dimensions cross, so what is refused is a text.
    rcases List.mem_append.mp hmem with hmem | hmem
    · simp [Snapshot.dimensions, obstacleOfDimension, hwidth, hheight] at hmem
    · obtain ⟨text, htext, hmem⟩ := List.mem_flatMap.mp hmem
      obtain ⟨c, hc, hhead⟩ := Snapshot.head?_of_texts htext
      unfold obstacleOfText at hmem
      split at hmem
      · cases List.mem_singleton.mp hmem
        have hfound : (Refusal.interiorZero text.1).message.toList.head? = some c :=
          Refusal.head?_message hhead
        exact hc (Option.some.inj (hfound.symm.trans htold))
      · cases hmem
  · rw [head?_status] at htold
    cases htold

namespace Android

section

variable {ν μ : Type} (m : Machine ν) (activity : Object) (library : Engine.Library μ)

/-- **No delivery from the Android host is refused for a side that is too large.** -/
theorem spare_deliver (table : Engine.Table) (d : Delivery) :
    FailsOnly (¬ ·.Oversized) (Bridge.deliver (host m activity) (Engine.native library table) d) := by
  refine Bridge.failsOnly_of_snapshots (.android m activity) (.native library table) d ?_ ?_
  · rintro e hother ⟨field, -, value, heq⟩
    exact hother _ heq
  · intro s snapshot reply hcalled
    obtain ⟨c, -, -, w, h, -, hw, hh, hwidth, hheight⟩ := sides_of_called m activity _ d s hcalled
    refine Engine.spare_snapshot library table ?_ ?_
    · rw [hwidth]
      exact toUInt32_le hw
    · rw [hheight]
      exact toUInt32_le hh

theorem Premature.spare {m : Machine ν} {p : Process ν μ} {request : Request ν μ} {e : Failure}
    (h : Premature m p request e) : ¬ e.Oversized := by
  rintro ⟨field, -, value, rfl⟩
  cases h with
  | unusable activity document text e read refused =>
    have hruling := Settings.ruling_ofText text
    rw [refused] at hruling
    generalize Settings.schema.codec.decode text = spelled at hruling
    cases hruling

theorem spare_onAdapter {absent : Failure} (habsent : ¬ absent.Oversized) (d : Delivery) :
    FailsOnly (¬ ·.Oversized) (onAdapter library absent
      (fun engine => Bridge.deliver (host m activity) engine d) : Act ν μ Unit) := by
  intro p e he
  rcases hp : p.adapter with - | ⟨table, bridge⟩
  · have hresult : e = absent := by
      simp only [onAdapter, hp] at he
      cases he
      rfl
    rw [hresult]
    exact habsent
  · obtain ⟨hresult, -, -⟩ := onAdapter_of_filled library hp absent fun engine =>
      Bridge.deliver (host m activity) engine d
    exact spare_deliver m activity library table d _ e (hresult.symm.trans he)

theorem spare_start (document : Option Object) :
    FailsOnly (¬ ·.Oversized) (start m library activity document : Act ν μ Unit) := by
  rw [start_eq]
  have habsent : ¬ Failure.poisoned.Oversized := by
    rintro ⟨field, -, value, heq⟩
    cases heq
  refine FailsOnly.bind (fun p e he => ?_) fun settings => FailsOnly.bind (fun p e he => ?_) fun _ => ?_
  · have hpremature : Premature m p (.start activity document) e := preliminaries_failed he
    exact hpremature.spare
  · have hpremature : Premature m p (.start activity document) e := prepare_failed rfl rfl he
    exact hpremature.spare
  · exact spare_onAdapter m activity library habsent .start

/-- **No request is refused for a side that is too large**, whatever the process has come to. -/
theorem spare_play (request : Request ν μ) : FailsOnly (¬ ·.Oversized) (request.play m library) := by
  intro p e he
  cases request with
  | register table =>
    rintro ⟨field, -, value, rfl⟩
    change (Engine.Registry.register table p.registry).result = _ at he
    unfold Engine.Registry.register at he
    split at he <;> cases he
  | registerNative table =>
    have hcode : ∀ r : Engine.Registry, ∃ code,
        (Engine.Registry.registerNative table r).result = .ok code := by
      rintro ⟨slot⟩
      cases table <;> cases slot <;> exact ⟨_, rfl⟩
    have hspare : FailsOnly (¬ ·.Oversized)
        ((Request.registerNative table : Request ν μ).play m library) :=
      .bind (.of_ok fun p => hcode p.registry) fun _ => failsOnly_pure ()
    exact hspare p e he
  | start activity document =>
    exact spare_start m activity library document p e ((orDie_apply _ p).1.symm.trans he)
  | change activity code =>
    have habsent : ¬ Failure.notStarted.Oversized := by
      rintro ⟨field, -, value, heq⟩
      cases heq
    exact spare_onAdapter m activity library habsent (.configurationChanged _) p e
      ((orDie_apply _ p).1.symm.trans he)
  | elsewhere env native => cases he

end

/-! ### All of it together -/

section

variable {ν μ : Type} {m : Machine ν} {activity : Object} {env : Env ν} {w h : Int32}

/-- The query succeeds exactly if neither number is negative, and then both come out again at the
boundary; else the smaller one is told. -/
theorem judged_realDisplaySize (hreported : Reported (heard m activity .realDisplaySize env) w h) :
    let result := (ask m activity .realDisplaySize env).result
    ((∃ size, result = .ok size) ↔ 0 ≤ w ∧ 0 ≤ h) ∧
    (∀ size, result = .ok size → ∀ field,
      marshalDimension field size.width = .ok w ∧ marshalDimension field size.height = .ok h) ∧
    ∀ e, result = .error e → ∃ value, e = .invalidHostValue "real_display_size" value ∧
      value = min w.toInt h.toInt ∧ value < 0 ∧ (value = w.toInt ∨ value = h.toInt) := by
  intro result
  have hresult : result = judge w h := result_of_reported hreported
  by_cases hsides : 0 ≤ w ∧ 0 ≤ h
  · rw [hresult, judge_of_nonneg hsides]
    refine ⟨iff_of_true ⟨_, rfl⟩ hsides, ?_, nofun⟩
    rintro _ ⟨⟩ field
    exact ⟨marshalDimension_toUInt32 field hsides.1, marshalDimension_toUInt32 field hsides.2⟩
  · rw [hresult, judge_of_negative hsides]
    refine ⟨iff_of_false (by rintro ⟨size, ⟨⟩⟩) hsides, nofun, ?_⟩
    rintro _ ⟨⟩
    exact ⟨_, rfl, rfl, min_offends hsides⟩

end

/-- **The sides of the display on their way from the virtual machine to native code.** Let the machine
tell any two numbers. The query for the size succeeds exactly if neither is negative, and then the
boundary to native code makes the same two numbers of the size again; else the query fails with the
smaller of the two, which is negative.

Whenever a delivery hands a snapshot to native code, the sides in it are the numbers that the machine
told in the one conversation of the delivery about the size. So no request to a process ever fails for a
side that is too large for native code. -/
theorem dimensions_survive {ν μ : Type} (m : Machine ν) (activity : Object)
    (library : Engine.Library μ) :
    (∀ env w h, Reported (heard m activity .realDisplaySize env) w h →
      let result := (ask m activity .realDisplaySize env).result
      ((∃ size, result = .ok size) ↔ 0 ≤ w ∧ 0 ≤ h) ∧
      (∀ size, result = .ok size → ∀ field,
        marshalDimension field size.width = .ok w ∧ marshalDimension field size.height = .ok h) ∧
      ∀ e, result = .error e → ∃ value, e = .invalidHostValue "real_display_size" value ∧
        value = min w.toInt h.toInt ∧ value < 0 ∧ (value = w.toInt ∨ value = h.toInt)) ∧
    (∀ table d s,
      let t := (Bridge.deliver (host m activity) (Engine.native library table) d s).trail
      ∀ table' raw status, (table', .snapshot raw, status) ∈ Trail.crossings t →
        ∃ c ∈ conversations m s.host.machine t, c.query = .realDisplaySize ∧
          c.Held m activity ∧ Reported c.exchanges raw.screenWidth raw.screenHeight ∧
          ∀ c' ∈ conversations m s.host.machine t, c'.query = .realDisplaySize → c' = c) ∧
    ∀ (request : Request ν μ) p e, (request.play m library p).result = .error e → ¬ e.Oversized := by
  refine ⟨fun env w h => judged_realDisplaySize, ?_, fun request p e => spare_play m library request p e⟩
  intro table d s t table' raw status hcrossing
  obtain ⟨c, hc, hquery, hreported⟩ := sides_of_crossing m activity library table d s hcrossing
  have hnodup : ((conversations m s.host.machine t).map Conversation.query).Nodup := by
    rw [queries_conversations]
    exact Bridge.nodup_queries_deliver _ _ d s
  refine ⟨c, hc, hquery, held_deliver m activity _ d s c hc, hreported, fun c' hc' hquery' => ?_⟩
  exact List.inj_on_of_nodup_map hnodup hc' hc (hquery'.trans hquery.symm)

/-- A machine that gives numbers for fields, one after the other, and an object for all else. -/
def meter : Machine (List Int32) where
  finds _ numbers := (true, numbers)
  uses
    | .field .., n :: numbers => (some (.int n), numbers)
    | _, numbers => (some (.object (some ⟨"java/lang/Object", 0⟩)), numbers)
  characters _ numbers := (.thrown, numbers)
  vmStatus numbers := (0, numbers)

/-- Any two numbers can be told. -/
theorem reported_meter (activity : Object) (w h : Int32) :
    Reported (heard meter activity .realDisplaySize ⟨[w, h], false⟩) w h := by
  have hsides : (sides meter activity ⟨[w, h], false⟩).result = .ok (w, h) := rfl
  exact reported_of_sides hsides

/-- A device with a display that is as wide as can be, and has no height. -/
def wideDisplay : Rehearsal.Script where
  lines := [("widthPixels", [.integer 2147483647]), ("heightPixels", [.integer 0])]

theorem dimensions_survive_wideDisplay :
    let activity := Rehearsal.Activity.activity
    let table := Rehearsal.Activity.table
    let library : Engine.Library Unit := ⟨fun _ _ native => (0, native)⟩
    let told w h := (ask meter activity .realDisplaySize ⟨[w, h], false⟩).result
    (∃ size, told 2147483647 0 = .ok size ∧ marshalDimension "screen_width" size.width = .ok 2147483647 ∧
      marshalDimension "screen_height" size.height = .ok 0) ∧
    told (-1) (-2147483648) = .error (.invalidHostValue "real_display_size" (-2147483648)) ∧
    let t := (Bridge.deliver (host Rehearsal.Script.machine activity) (Engine.native library table)
      .start ⟨{ settings := {} }, ⟨wideDisplay, false⟩, ()⟩).trail
    (∃ raw status, (table, .snapshot raw, status) ∈ Trail.crossings t ∧
      ∃ c ∈ conversations Rehearsal.Script.machine wideDisplay t, c.query = .realDisplaySize ∧
        Reported c.exchanges raw.screenWidth raw.screenHeight) ∧
    ∃ e, ((Request.start activity none).play bareMachine library registeredProcess).result = .error e ∧
      ¬ e.Oversized := by
  intro activity table library told
  obtain ⟨hjudged, -, -⟩ := dimensions_survive meter activity library
  refine ⟨?_, ?_, ?_, ?_⟩
  · obtain ⟨hiff, hback, -⟩ := hjudged _ _ _ (reported_meter activity 2147483647 0)
    obtain ⟨size, hsize⟩ := hiff.mpr (by decide)
    obtain ⟨hwidth, -⟩ := hback size hsize "screen_width"
    obtain ⟨-, hheight⟩ := hback size hsize "screen_height"
    exact ⟨size, hsize, hwidth, hheight⟩
  · obtain ⟨hiff, -, hfails⟩ := hjudged _ _ _ (reported_meter activity (-1) (-2147483648))
    rcases htold : told (-1) (-2147483648) with e | size
    · obtain ⟨value, rfl, rfl, -⟩ := hfails e htold
      rfl
    · exact absurd (hiff.mp ⟨size, htold⟩) (by decide)
  · obtain ⟨-, hcrossings, -⟩ := dimensions_survive Rehearsal.Script.machine activity library
    have hcrossed : ∃ c ∈ Trail.crossings (Bridge.deliver (host Rehearsal.Script.machine activity)
        (Engine.native library table) .start ⟨{ settings := {} }, ⟨wideDisplay, false⟩, ()⟩).trail,
        c.1 = table ∧ ¬ c.2.1.isOrientation := by
      decide +kernel
    obtain ⟨⟨_, call, status⟩, hcrossing, rfl, hcall⟩ := hcrossed
    cases call with
    | orientation code => exact absurd rfl hcall
    | snapshot raw =>
      obtain ⟨c, hc, hquery, -, hreported, -⟩ := hcrossings table .start _ table raw status hcrossing
      exact ⟨raw, status, hcrossing, c, hc, hquery, hreported⟩
  · obtain ⟨-, -, hspare⟩ := dimensions_survive bareMachine activity library
    have hfailed : ((Request.start activity none).play bareMachine library registeredProcess).result =
        .error (.hostQuery "package_name" "Java exception was thrown") := rfl
    exact ⟨_, hfailed, hspare _ _ _ hfailed⟩

end Android
end PlatformBridge
