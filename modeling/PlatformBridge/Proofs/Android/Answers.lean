import PlatformBridge.Proofs.Android.Exchange

/-!
# The answers that a virtual machine spells

A query to the Android host is a chain of operations on the virtual machine. What the machine
answered to them spells the answer to the query.

* `Query.spelled?` — the answer that exchanges spell;
* `settled_ask` — if all that a query hears is sound then the host gives the answer that is spelled,
  and else it fails and names the query.
-/

namespace PlatformBridge

open PlatformBridge.Action
open Java (Machine Object Env Operation Lookup Use Value Characters Work)

def Failure.Names (q : Query) : Failure → Prop
  | .hostQuery query _ | .invalidHostValue query _ => query = q.name
  | _ => False

def Host.Effect.operation? : Host.Effect → Option Operation
  | .java effect => some effect.operation
  | .logged _ => none

namespace Android

/-! ### Reading exchanges -/

/-- What the first use of a member gave. -/
@[simp] def given? (name : String) : List Exchange → Option Value
  | [] => none
  | .use u value :: xs => if member u = name then value else given? name xs
  | _ :: xs => given? name xs

/-- The number that the first use of a member gave. -/
@[simp] def numberOf? (name : String) (xs : List Exchange) : Option Int32 :=
  match given? name xs with
  | some (.int n) => some n
  | _ => none

/-- The first text whose characters were had. -/
@[simp] def content? : List Exchange → Option String
  | [] => none
  | .characters _ (.bytes content) :: _ => some (Text.ofMachineBytes content)
  | _ :: xs => content? xs

/-- The text that the first use of a member gave, by the characters that were had of it next. -/
@[simp] def textOf? (name : String) : List Exchange → Option String
  | [] => none
  | .use u _ :: xs => if member u = name then content? xs else textOf? name xs
  | _ :: xs => textOf? name xs

end Android

/-- **The answer to a query that exchanges spell.** A null cache directory is none; the rotation and
the axis go by their codes. -/
def Query.spelled? : (q : Query) → List Android.Exchange → Option q.Answer
  | .packageName, xs => Android.textOf? "getPackageName" xs
  | .deviceIdentity, xs => do
    let manufacturer ← Android.textOf? "MANUFACTURER" xs
    let model ← Android.textOf? "MODEL" xs
    let buildId ← Android.textOf? "ID" xs
    return ⟨manufacturer, model, buildId⟩
  | .osRelease, xs => Android.textOf? "RELEASE" xs
  | .locale, xs => Android.textOf? "toString" xs
  | .realDisplaySize, xs => do
    DisplaySize.ofSigned? (← Android.numberOf? "widthPixels" xs)
      (← Android.numberOf? "heightPixels" xs)
  | .cacheDir, xs =>
    match Android.given? "getCacheDir" xs with
    | some (.object none) => some none
    | _ => (Android.textOf? "getAbsolutePath" xs).map some
  | .nativeLibraryDir, xs => Android.textOf? "nativeLibraryDir" xs
  | .displayRotation, xs => do Rotation.ofSurfaceCode? (← Android.numberOf? "getRotation" xs)
  | .axisOrientation, xs => (Android.numberOf? "orientation" xs).map Axis.ofConfigurationCode
  | .requestImmersive, _ => some ()

namespace Android

variable {ν α : Type} {m : Machine ν} {before : List Exchange} {q : Query}

/-! ### Queries at work -/

abbrev QueryHears (m : Machine ν) (q : Query) (before : List Exchange) (x : Answering ν α)
    (post : List Exchange → α → Prop) : Prop :=
  Hears Host.Effect.operation? (Failure.Names q) m before x post

theorem along_settleException (h : Hearing ν) (env : Env ν) :
    h.along Java.Effect.operation? m (Java.settleException env).trail = h ∧
      (Java.settleException env).state.machine = env.machine := by
  rcases env with ⟨machine, _ | _⟩ <;>
    simp [Java.settleException, Java.note, bind_apply, Hearing.along, Java.Effect.operation?,
      Hearing.hear]

theorem along_map_java (h : Hearing ν) (t : List Java.Effect) :
    h.along Host.Effect.operation? m (t.map .java) =
      h.along Java.Effect.operation? m t := by
  rw [Hearing.along, List.filterMap_map]
  rfl

theorem along_attempt (q : Query) (work : Work ν α) (env : Env ν) (h : Hearing ν) :
    h.along Host.Effect.operation? m (attempt q work env).trail =
        h.along Java.Effect.operation? m (work env).trail ∧
      (attempt q work env).state.machine = (work env).state.machine := by
  rcases hw : work env with ⟨e | a, env', t⟩
  · obtain ⟨hheard, hmachine⟩ := along_settleException (m := m)
      (h.along Java.Effect.operation? m t) env'
    simp only [attempt, hw, Hearing.along_append, along_map_java]
    exact ⟨hheard, hmachine⟩
  · simp only [attempt, hw, along_map_java]
    exact ⟨trivial, trivial⟩

theorem hears_attempt {work : Work ν α} {post : List Exchange → α → Prop}
    (h : WorkHears m before work post) : QueryHears m q before (attempt q work) post := by
  intro env
  obtain ⟨hheard, hstate⟩ := along_attempt (m := m) q work env ⟨env.machine, before⟩
  obtain ⟨hmachine, hresult⟩ := h env
  rw [hheard, hstate]
  refine ⟨hmachine, ?_⟩
  rcases hw : work env with ⟨e | a, env', t⟩ <;> rw [hw] at hresult <;> simp only [attempt, hw]
  · exact ⟨hresult.1, rfl⟩
  · exact hresult

/-- An object by a method: the receiver is not null unless something unsound was heard. -/
theorem hears_callObject {receiver : Option Object} {name signature : String}
    {post : List Exchange → Option Object → Prop} (hnull : receiver = none → Spoiled before)
    (hwants : (expectation name).wantsObject = true)
    (h : ∀ o r, receiver = some o → post (before ++ [.look (.member o.className name signature)
      true, .use (.call o name signature none) (some (.object r))]) r) :
    QueryHears m q before (callObject m q receiver name signature) post := by
  refine hears_attempt (.bind (hears_call hnull fun o value ho => ?_))
  refine hears_asObject (u := .call o name signature none) (by simp) hwants ?_
  rintro r rfl
  exact h o r ho

theorem hears_intField {receiver : Option Object} {name : String}
    {post : List Exchange → Int32 → Prop} (hnull : receiver = none → Spoiled before)
    (hwants : (expectation name).wantsNumber = true)
    (h : ∀ o n, receiver = some o → post (before ++ [.look (.member o.className name "I") true,
      .use (.field o name "I") (some (.int n))]) n) :
    QueryHears m q before (intField m q receiver name) post := by
  refine hears_attempt (.bind (hears_field hnull fun o value ho => ?_))
  refine hears_asInt (u := .field o name "I") (by simp) hwants ?_
  rintro n rfl
  exact h o n ho

theorem hears_text {r : Option Object} {u : Use} {post : List Exchange → String → Prop}
    (hu : .use u (some (.object r)) ∈ before) (hwants : expectation (member u) = .text)
    (h : ∀ o content, r = some o → o.className = Java.stringClass →
      post (before ++ [.look (.classNamed Java.stringClass) true,
        .characters o (.bytes content)]) (Text.ofMachineBytes content)) :
    QueryHears m q before (text m q r) post := by
  cases r with
  | none => exact hears_fail ⟨_, hu, unsound_of_text hwants nofun⟩ rfl
  | some o =>
    refine hears_attempt (hears_readText (fun hclass => ⟨_, hu, ?_⟩) fun content hclass => ?_)
    · refine unsound_of_text hwants ?_
      rintro _ ⟨⟩
      exact hclass
    · exact h o content rfl hclass

theorem hears_staticText {owner name : String} {post : List Exchange → String → Prop}
    (hwants : expectation name = .text)
    (h : ∀ o content, o.className = Java.stringClass →
      post (before ++ [.look (.classNamed owner) true,
        .look (.member owner name "Ljava/lang/String;") true,
        .use (.staticField owner name "Ljava/lang/String;") (some (.object (some o))),
        .look (.classNamed Java.stringClass) true, .characters o (.bytes content)])
          (Text.ofMachineBytes content)) :
    QueryHears m q before (staticText m q owner name) post := by
  refine .bind (hears_attempt (.bind (hears_ofClass fun value => ?_)))
  refine hears_asObject (u := .staticField owner name "Ljava/lang/String;") (by simp) ?_ ?_
  · simp [member, hwants, Expectation.wantsObject]
  · rintro r rfl
    refine hears_text (u := .staticField owner name "Ljava/lang/String;") (by simp) hwants ?_
    rintro o content rfl hclass
    simpa using h o content hclass

/-! ### The queries -/

/-- All that was heard is sound and spells the answer. -/
def Settled (q : Query) (xs : List Exchange) (a : q.Answer) : Prop :=
  ¬ Spoiled xs ∧ q.spelled? xs = some a

variable (m : Machine ν) (activity : Object)

theorem settled_packageName :
    QueryHears m .packageName [] (packageName m activity) (Settled .packageName) := by
  refine .bind (hears_callObject nofun rfl fun o r _ => ?_)
  refine hears_text (u := .call o "getPackageName" "()Ljava/lang/String;" none) (by simp) rfl ?_
  rintro p content rfl hclass
  exact ⟨by simp [expectation, textMembers, hclass], by simp [Query.spelled?]⟩

theorem settled_deviceIdentity :
    QueryHears m .deviceIdentity [] (deviceIdentity m) (Settled .deviceIdentity) := by
  refine .bind (hears_staticText rfl fun o₁ content₁ hclass₁ => ?_)
  refine .bind (hears_staticText rfl fun o₂ content₂ hclass₂ => ?_)
  refine .bind (hears_staticText rfl fun o₃ content₃ hclass₃ => ?_)
  refine hears_pure ⟨?_, ?_⟩
  · simp [expectation, textMembers, hclass₁, hclass₂, hclass₃]
  · simp [Query.spelled?]

theorem settled_osRelease :
    QueryHears m .osRelease [] (osRelease m) (Settled .osRelease) := by
  refine hears_staticText rfl fun o content hclass => ?_
  exact ⟨by simp [expectation, textMembers, hclass], by simp [Query.spelled?]⟩

theorem settled_locale : QueryHears m .locale [] (locale m) (Settled .locale) := by
  refine .bind (hears_attempt (.bind (hears_ofClass fun value => ?_)))
  refine hears_asObject (u := .callStatic "java/util/Locale" "getDefault" "()Ljava/util/Locale;")
    (by simp) rfl ?_
  rintro locale rfl
  refine .bind (hears_callObject ?_ rfl ?_)
  · rintro rfl
    simp [expectation, textMembers]
  · rintro o r rfl
    refine hears_text (u := .call o "toString" "()Ljava/lang/String;" none) (by simp) rfl ?_
    rintro p content rfl hclass
    exact ⟨by simp [expectation, textMembers, hclass], by simp [Query.spelled?]⟩

theorem settled_cacheDir :
    QueryHears m .cacheDir [] (cacheDir m activity) (Settled .cacheDir) := by
  refine .bind (hears_callObject nofun rfl fun o dir _ => ?_)
  cases dir with
  | none => exact hears_pure ⟨by simp [expectation], by simp [Query.spelled?]⟩
  | some dir =>
    refine .bind (hears_callObject nofun rfl ?_)
    rintro _ path ⟨⟩
    refine .bind (hears_text (u := .call dir "getAbsolutePath" "()Ljava/lang/String;" none)
      (by simp) rfl ?_)
    rintro p content rfl hclass
    exact hears_pure ⟨by simp [expectation, textMembers, hclass], by simp [Query.spelled?]⟩

theorem settled_nativeLibraryDir :
    QueryHears m .nativeLibraryDir [] (nativeLibraryDir m activity) (Settled .nativeLibraryDir) := by
  refine .bind (hears_callObject nofun rfl fun o info _ => ?_)
  refine .bind (hears_attempt (.bind (hears_field ?_ ?_)))
  · rintro rfl
    simp [expectation, textMembers]
  rintro info value rfl
  refine hears_asObject (u := .field info "nativeLibraryDir" "Ljava/lang/String;") (by simp) rfl ?_
  rintro dir rfl
  refine hears_text (u := .field info "nativeLibraryDir" "Ljava/lang/String;") (by simp) rfl ?_
  rintro p content rfl hclass
  exact ⟨by simp [expectation, textMembers, hclass], by simp [Query.spelled?]⟩

theorem hears_defaultDisplay {post : List Exchange → Option Object → Prop}
    (h : ∀ manager r, post
      [.look (.member activity.className "getWindowManager" "()Landroid/view/WindowManager;") true,
        .use (.call activity "getWindowManager" "()Landroid/view/WindowManager;" none)
          (some (.object (some manager))),
        .look (.member manager.className "getDefaultDisplay" "()Landroid/view/Display;") true,
        .use (.call manager "getDefaultDisplay" "()Landroid/view/Display;" none)
          (some (.object r))] r) :
    QueryHears m q [] (defaultDisplay m activity q) post := by
  refine .bind (hears_callObject nofun rfl ?_)
  rintro _ manager ⟨⟩
  refine hears_callObject ?_ rfl ?_
  · rintro rfl
    simp [expectation, textMembers]
  · rintro manager r rfl
    exact h manager r

/-- The machine gave the two numbers for the sides of the display. -/
structure Reported (xs : List Exchange) (w h : Int32) : Prop where
  width : numberOf? "widthPixels" xs = some w
  height : numberOf? "heightPixels" xs = some h

def sides : Answering ν (Int32 × Int32) := do
  let display ← defaultDisplay m activity .realDisplaySize
  let metrics ← attempt .realDisplaySize (Java.construct m "android/util/DisplayMetrics" "()V")
  let _ ← attempt .realDisplaySize
    (Java.call m display "getRealMetrics" "(Landroid/util/DisplayMetrics;)V"
      (some (.object (some metrics))))
  let width ← intField m .realDisplaySize metrics "widthPixels"
  let height ← intField m .realDisplaySize metrics "heightPixels"
  return (width, height)

/-- The size with the sides, if they are the sides of anything. -/
def judge (w h : Int32) : Except Failure DisplaySize :=
  match DisplaySize.ofSigned? w h with
  | some size => .ok size
  | none => .error (.invalidHostValue Query.realDisplaySize.name (min w.toInt h.toInt))

theorem realDisplaySize_eq : realDisplaySize m activity =
    sides m activity >>= fun sides => lift (judge sides.1 sides.2) := by
  simp only [sides, bind_assoc, pure_bind]
  have hjudge : ∀ w h : Int32, (lift (judge w h) : Answering ν DisplaySize) =
      match DisplaySize.ofSigned? w h with
      | some size => pure size
      | none =>
        .fail (.invalidHostValue Query.realDisplaySize.name (min w.toInt h.toInt)) := by
    intro w h
    unfold judge
    cases DisplaySize.ofSigned? w h <;> rfl
  simp only [hjudge]
  rfl

/-- What the sides are heard to be is all that can be unsound of them. -/
theorem hears_sides {post : List Exchange → Int32 × Int32 → Prop}
    (h : ∀ xs w h, Reported xs w h → (Spoiled xs ↔ ¬ (0 ≤ w ∧ 0 ≤ h)) → post xs (w, h)) :
    QueryHears m .realDisplaySize [] (sides m activity) post := by
  refine .bind (hears_defaultDisplay m activity fun manager display => ?_)
  refine .bind (hears_attempt (hears_construct fun metrics => ?_))
  refine .bind (hears_attempt (hears_call ?_ ?_))
  · rintro rfl
    simp [expectation, textMembers]
  rintro display value rfl
  refine .bind (hears_intField (absurd · (Option.some_ne_none _)) rfl ?_)
  rintro _ width ⟨⟩
  refine .bind (hears_intField (absurd · (Option.some_ne_none _)) rfl ?_)
  rintro _ height ⟨⟩
  refine hears_pure (h _ width height ⟨?_, ?_⟩ ?_)
  · simp [Java.constructorName]
  · simp [Java.constructorName]
  · simp [expectation, textMembers, Java.constructorName]
    rw [← Int32.not_le, Decidable.or_iff_not_imp_left, Decidable.not_not]

theorem settled_realDisplaySize :
    QueryHears m .realDisplaySize [] (realDisplaySize m activity) (Settled .realDisplaySize) := by
  rw [realDisplaySize_eq]
  refine .bind (hears_sides m activity fun xs w h hreported hspoiled => ?_)
  have hspelled : Query.spelled? .realDisplaySize xs = DisplaySize.ofSigned? w h := by
    simp only [Query.spelled?, hreported.width, hreported.height]
    rfl
  unfold judge
  by_cases hsize : 0 ≤ w ∧ 0 ≤ h
  · have hsides : DisplaySize.ofSigned? w h = some ⟨w.toUInt32, h.toUInt32⟩ := if_pos hsize
    rw [hsides] at hspelled ⊢
    exact hears_pure ⟨mt hspoiled.mp (not_not_intro hsize), hspelled⟩
  · have hsides : DisplaySize.ofSigned? w h = none := if_neg hsize
    rw [hsides]
    exact hears_fail (hspoiled.mpr hsize) rfl

theorem settled_displayRotation :
    QueryHears m .displayRotation [] (displayRotation m activity) (Settled .displayRotation) := by
  refine .bind (hears_defaultDisplay m activity fun manager display => ?_)
  refine .bind (hears_attempt (.bind (hears_call ?_ ?_)))
  · rintro rfl
    simp [expectation, textMembers]
  rintro display value rfl
  refine hears_asInt (u := .call display "getRotation" "()I" none) (by simp) rfl ?_
  rintro code rfl
  have hrange : (Rotation.ofSurfaceCode? code).isSome ↔ 0 ≤ code ∧ code ≤ 3 :=
    Rotation.isSome_ofSurfaceCode?_iff
  cases hcode : Rotation.ofSurfaceCode? code with
  | none =>
    rw [hcode] at hrange
    have hout : ¬ (0 ≤ code ∧ code ≤ 3) := fun h => nomatch hrange.mpr h
    exact hears_fail (by simpa [expectation, textMembers] using hout) rfl
  | some rotation =>
    rw [hcode] at hrange
    have hin : 0 ≤ code ∧ code ≤ 3 := hrange.mp rfl
    exact hears_pure ⟨by simp [expectation, textMembers, hin], by simp [Query.spelled?, hcode]⟩

theorem settled_axisOrientation :
    QueryHears m .axisOrientation [] (axisOrientation m activity) (Settled .axisOrientation) := by
  refine .bind (hears_callObject nofun rfl fun _ resources _ => ?_)
  refine .bind (hears_callObject ?_ rfl ?_)
  · rintro rfl
    simp [expectation, textMembers]
  rintro resources configuration rfl
  refine .bind (hears_intField ?_ rfl ?_)
  · rintro rfl
    simp [expectation, textMembers]
  rintro configuration code rfl
  exact hears_pure ⟨by simp [expectation, textMembers], by simp [Query.spelled?]⟩

theorem settled_requestImmersive :
    QueryHears m .requestImmersive [] (requestImmersive m activity)
      (Settled .requestImmersive) := by
  refine .bind (hears_callObject nofun rfl fun _ window _ => ?_)
  refine .bind (hears_callObject ?_ rfl ?_)
  · rintro rfl
    simp [expectation, textMembers]
  rintro window decor rfl
  refine .bind (hears_attempt (hears_call ?_ ?_))
  · rintro rfl
    simp [expectation, textMembers]
  rintro decor value rfl
  exact hears_tell rfl ⟨by simp [expectation, textMembers], rfl⟩

/-- **The answer that the machine spells is the host's answer**, and anything unsound makes the
query fail. -/
theorem settled_ask : QueryHears m q [] (ask m activity q) (Settled q) := by
  cases q with
  | packageName => exact settled_packageName m activity
  | deviceIdentity => exact settled_deviceIdentity m
  | osRelease => exact settled_osRelease m
  | locale => exact settled_locale m
  | realDisplaySize => exact settled_realDisplaySize m activity
  | cacheDir => exact settled_cacheDir m activity
  | nativeLibraryDir => exact settled_nativeLibraryDir m activity
  | displayRotation => exact settled_displayRotation m activity
  | axisOrientation => exact settled_axisOrientation m activity
  | requestImmersive => exact settled_requestImmersive m activity

end Android

end PlatformBridge
