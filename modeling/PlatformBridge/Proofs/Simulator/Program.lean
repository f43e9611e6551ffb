import PlatformBridge.Proofs.Json.Documents
import PlatformBridge.Simulator.Program

/-!
# What the simulator reports

A plan is carried out in three steps that can fail: the settings, the profile, the session. The report
tells of the first failure or, if there is none, of the summary, and the log filter has no say in that.

* `Plan.Uses`, `Plan.FailsFirst` — what the plan is carried out with, and what it fails for;
* `Plan.outcome` — the three steps in their order, with `outcome_of_uses`, `outcome_of_failsFirst` and
  `outcome_cases`;
* `Summary.ToldBy` — a text tells a summary, with `toldBy_prettyText`, the text that is printed;
* `Report.summaries` — the summaries among what was printed; log lines are none;
* `tells_outcome` — the report tells the outcome;
* `reports_first_failure` — so exit, summary and complaint follow from the plan.
-/

namespace PlatformBridge.Simulator

open Json

/-! ### Summaries in a text -/

/-- The value is read as `a`, however it is spelled. -/
def IsReadAs {α : Type} (codec : Codec α) (value : Value) (a : α) : Prop :=
  ∀ text, Spells value text → codec.decode (String.ofList text) = .ok a

/-- **The text tells the summary.** It spells an object with four members: the name of the host, what
is read as the snapshot, the codes of the orientations, and what is read as the phase. -/
def Summary.ToldBy (s : Summary) (text : String) : Prop :=
  ∃ info phase : Value,
    Spells (.object [
      ("host", .string s.host),
      ("platform_info", info),
      ("orientations", .list (s.orientations.map fun o => .integer o.code.toInt)),
      ("final_state", phase)]) text.toList ∧
    (match s.snapshot with
      | none => info = .null
      | some snapshot => IsReadAs Snapshot.schema.codec info snapshot) ∧
    IsReadAs Phase.codec phase s.finalPhase

theorem Summary.toldBy_prettyText (s : Summary) : s.ToldBy s.document.prettyText := by
  refine ⟨(s.snapshot.map Snapshot.schema.write).getD .null, Phase.codec.write s.finalPhase, ?_, ?_, ?_⟩
  · have htext : s.document.prettyText.toList = s.document.prettyAt 0 := String.toList_ofList
    rw [htext]
    exact spells_pretty s.document
  · cases s.snapshot with
    | none => rfl
    | some snapshot => exact fun text htext => Snapshot.faithful_schema.decode htext
  · exact fun text htext => Phase.faithful_codec.decode htext

def opensObject (text : String) : Bool := text.toList.head? == some '\x7b'

theorem Summary.ToldBy.opensObject {s : Summary} {text : String} (h : s.ToldBy text) :
    opensObject text = true := by
  obtain ⟨info, phase, hspells, -, -⟩ := h
  unfold Simulator.opensObject
  generalize text.toList = chars at hspells
  cases hspells
  rfl

/-- **The summaries among what was printed**: the texts that open an object, whatever they tell. -/
def Report.summaries (report : Report) : List String := report.output.filter opensObject

/-! ### Log lines -/

theorem opensObject_line (event : Log.Event) : opensObject event.line = false := by
  have hlabel : ∃ c chars, event.level.label.toList = c :: chars ∧ c ≠ '\x7b' := by
    cases event.level <;> exact ⟨_, _, rfl, by decide⟩
  obtain ⟨c, chars, hchars, hne⟩ := hlabel
  unfold opensObject Log.Event.line
  simp only [String.toList_append, hchars, List.cons_append, List.head?_cons]
  simpa using hne

theorem filter_logLines (filter : Log.Filter) (events : List Log.Event) :
    (Plan.logLines filter events).filter opensObject = [] := by
  rw [List.filter_eq_nil_iff]
  intro line hline
  obtain ⟨event, -, rfl⟩ := List.mem_map.mp hline
  rw [opensObject_line]
  exact Bool.false_ne_true

/-! ### Plans -/

namespace Plan

/-- **What a plan is carried out with**: the settings and the profile in its documents, and the defaults
where it has no document. -/
structure Uses (p : Plan) (settings : Settings) (profile : Profile) : Prop where
  settings : p.settings.elim (.ok {}) Settings.load = .ok settings
  profile : p.profile.elim (.ok {}) Profile.load = .ok profile

/-- **What a plan fails for first.** -/
inductive FailsFirst (p : Plan) : Failure → Prop
  | settings {document : Document} {e : Failure} (hgiven : p.settings = some document)
    (hload : Settings.load document = .error e) : FailsFirst p e
  | profile {settings : Settings} {document : Document} {e : Failure}
    (hsettings : p.settings.elim (.ok {}) Settings.load = .ok settings)
    (hgiven : p.profile = some document) (hload : Profile.load document = .error e) : FailsFirst p e
  | session {settings : Settings} {profile : Profile} {e : Failure} (huses : p.Uses settings profile)
    (hrun : (Session.run profile settings p.changes).result = .error e) : FailsFirst p e

def outcome (p : Plan) : Except Failure Summary := do
  let settings ← p.settings.elim (.ok {}) Settings.load
  let profile ← p.profile.elim (.ok {}) Profile.load
  (Session.run profile settings p.changes).result

variable {p : Plan}

theorem outcome_of_uses {settings : Settings} {profile : Profile} (h : p.Uses settings profile) :
    p.outcome = (Session.run profile settings p.changes).result := by
  unfold outcome
  rw [h.settings, h.profile]
  rfl

theorem outcome_of_failsFirst {e : Failure} (h : p.FailsFirst e) : p.outcome = .error e := by
  cases h with
  | settings hgiven hload =>
    unfold outcome
    rw [hgiven, Option.elim_some, hload]
    rfl
  | profile hsettings hgiven hload =>
    unfold outcome
    rw [hsettings, hgiven, Option.elim_some, hload]
    rfl
  | session huses hrun => rw [outcome_of_uses huses, hrun]

theorem given_of_error {α : Type} {load : Document → Except Failure α} {default : α}
    {given : Option Document} {e : Failure} (h : given.elim (.ok default) load = .error e) :
    ∃ document, given = some document ∧ load document = .error e := by
  cases given with
  | none => cases h
  | some document => exact ⟨document, rfl, h⟩

/-- A plan fails first for one of its steps, or all of them succeed. -/
theorem outcome_cases (p : Plan) :
    (∃ e, p.FailsFirst e) ∨ ∃ settings profile summary, p.Uses settings profile ∧
      (Session.run profile settings p.changes).result = .ok summary := by
  rcases hsettings : p.settings.elim (.ok {}) Settings.load with e | settings
  · obtain ⟨document, hgiven, hload⟩ := given_of_error hsettings
    exact Or.inl ⟨e, .settings hgiven hload⟩
  rcases hprofile : p.profile.elim (.ok {}) Profile.load with e | profile
  · obtain ⟨document, hgiven, hload⟩ := given_of_error hprofile
    exact Or.inl ⟨e, .profile hsettings hgiven hload⟩
  have huses : p.Uses settings profile := ⟨hsettings, hprofile⟩
  rcases hrun : (Session.run profile settings p.changes).result with e | summary
  · exact Or.inl ⟨e, .session huses hrun⟩
  · exact Or.inr ⟨settings, profile, summary, huses, hrun⟩

theorem loadSettings_eq (p : Plan) : p.loadSettings = p.settings.elim (.ok {}) Settings.load := by
  unfold loadSettings
  cases p.settings <;> rfl

theorem loadProfile_eq (p : Plan) : p.loadProfile = p.profile.elim (.ok {}) Profile.load := by
  unfold loadProfile
  cases p.profile <;> rfl

end Plan

/-! ### Reports -/

/-- The report tells the outcome. What was left out of a log filter may be said before a failure. -/
def Report.Tells (report : Report) : Except Failure Summary → Prop
  | .ok summary => report.exit = .success ∧ report.summaries = [summary.document.prettyText]
  | .error e => report.exit = .failure ∧ report.summaries = [] ∧
      ∃ omissions : List Log.Omission, report.complaint =
        Plan.ended (omissions.map Log.Omission.message ++ ["hostlink-sim: " ++ e.message])

/-- Reports that tell the same outcome exit the same and have the same summaries. -/
theorem Report.Tells.agree {a b : Report} {outcome : Except Failure Summary} (ha : a.Tells outcome)
    (hb : b.Tells outcome) : a.exit = b.exit ∧ a.summaries = b.summaries := by
  cases outcome with
  | ok summary => exact ⟨ha.1.trans hb.1.symm, ha.2.trans hb.2.symm⟩
  | error e => exact ⟨ha.1.trans hb.1.symm, ha.2.1.trans hb.2.1.symm⟩

namespace Plan

theorem failed_tells (filter : Log.Filter) (events : List Log.Event) (omissions : List Log.Omission)
    (e : Failure) :
    (failed (logLines filter events) (omissions.map Log.Omission.message) e).Tells (.error e) :=
  ⟨rfl, filter_logLines filter events, omissions, rfl⟩

/-- **The report tells the outcome**, whatever the log filters. -/
theorem tells_outcome (p : Plan) (environment : Option String) :
    (p.run environment).Tells p.outcome := by
  unfold run outcome
  rw [loadSettings_eq, loadProfile_eq]
  cases p.settings.elim (.ok {}) Settings.load with
  | error e => exact failed_tells ⟨[]⟩ [] [] e
  | ok settings =>
    cases p.profile.elim (.ok {}) Profile.load with
    | error e => exact failed_tells _ _ _ e
    | ok profile =>
      cases hrun : (Session.run profile settings p.changes).result with
      | error e =>
        simp only [hrun, bind, Except.bind]
        exact failed_tells _ _ _ e
      | ok summary =>
        simp only [hrun, bind, Except.bind]
        refine ⟨rfl, ?_⟩
        have hopens := summary.toldBy_prettyText.opensObject
        unfold Report.summaries
        rw [List.filter_append, filter_logLines, List.nil_append, List.filter_cons_of_pos hopens,
          List.filter_nil]

/-- **The report tells the first failure, or else the summary.** The program succeeds if each document
that it was given loads and the session succeeds; then it prints one summary, which tells what came of
the session. Else it exits with failure, prints no summary, and says what failed first: the settings,
the profile or the session. Log filters change neither the exit nor the summary. -/
theorem reports_first_failure (p : Plan) (environment : Option String) :
    let report := p.run environment
    (report.exit = .success ↔ ∃ settings profile summary, p.Uses settings profile ∧
      (Session.run profile settings p.changes).result = .ok summary) ∧
    (∀ settings profile summary, p.Uses settings profile →
      (Session.run profile settings p.changes).result = .ok summary →
      ∃ text, report.summaries = [text] ∧ summary.ToldBy text) ∧
    (report.exit = .success ∨ ∃ e, p.FailsFirst e) ∧
    (∀ e, p.FailsFirst e → report.exit = .failure ∧ report.summaries = [] ∧
      ∃ omissions : List Log.Omission, report.complaint =
        ended (omissions.map Log.Omission.message ++ ["hostlink-sim: " ++ e.message]) ∧
        report.complaint =
          ended (omissions.map Log.Omission.message) ++ ("hostlink-sim: " ++ e.message) ++ "\n") ∧
    ∀ log other : Option String, (run { p with log } other).exit = report.exit ∧
      (run { p with log } other).summaries = report.summaries := by
  intro report
  have htells : report.Tells p.outcome := tells_outcome p environment
  have hsuccess : ∀ settings profile summary, p.Uses settings profile →
      (Session.run profile settings p.changes).result = .ok summary → report.Tells (.ok summary) := by
    intro settings profile summary huses hrun
    rwa [outcome_of_uses huses, hrun] at htells
  have hfailure : ∀ e, p.FailsFirst e → report.Tells (.error e) := by
    intro e hfails
    rwa [outcome_of_failsFirst hfails] at htells
  refine ⟨⟨?_, ?_⟩, ?_, ?_, ?_, ?_⟩
  · intro hexit
    rcases outcome_cases p with ⟨e, hfails⟩ | hplayed
    · cases hexit.symm.trans (hfailure e hfails).1
    · exact hplayed
  · rintro ⟨settings, profile, summary, huses, hrun⟩
    exact (hsuccess settings profile summary huses hrun).1
  · intro settings profile summary huses hrun
    exact ⟨_, (hsuccess settings profile summary huses hrun).2, summary.toldBy_prettyText⟩
  · rcases outcome_cases p with hfails | ⟨settings, profile, summary, huses, hrun⟩
    · exact Or.inr hfails
    · exact Or.inl (hsuccess settings profile summary huses hrun).1
  · intro e hfails
    obtain ⟨hexit, hsummaries, omissions, hcomplaint⟩ := hfailure e hfails
    exact ⟨hexit, hsummaries, omissions, hcomplaint, hcomplaint.trans (ended_concat _ _)⟩
  · intro log other
    -- The outcome is the same: it does not read the log filter.
    have hother : (run { p with log } other).Tells p.outcome := tells_outcome { p with log } other
    exact hother.agree htells

example : run { settings := some .missing, profile := some .folder, log := some "debug" } none =
    ⟨.failure, [], "hostlink-sim: file I/O error: No such file or directory (os error 2)\n"⟩ := by
  decide

example : (run { changes := [⟨.portrait, .deg90⟩] } none).exit = .success := rfl

end Plan

end PlatformBridge.Simulator
