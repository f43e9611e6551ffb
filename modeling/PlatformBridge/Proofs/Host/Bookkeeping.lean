import Mathlib.Data.List.Induction
import PlatformBridge.Host.Desktop
import PlatformBridge.Proofs.Action.History
import PlatformBridge.Proofs.Lifecycle.Trail

/-!
# What a desktop host keeps on record

A desktop host is asked and adjusted in any order. What it has on record then, and what it replies, is
known from the moves alone: the profile is in force with the last rotation, axis and refusal that were
set, and no query leaves anything behind but its entry.

* `Desktop.Move` — a query or an adjustment, with `Move.play`, the move at work;
* `asks past moves` — the queries among the moves, each with all that came before it;
* `reply p past q` — the reply to a query after the moves `past`;
* `Recorded p past d` — the host after the moves `past`; kept by one move (`Recorded.ask`,
  `Recorded.adjust`), and so by all of them (`recorded`);
* `replies_trail` — every query of a history gets its reply;
* `keeps_record` — the record against the replies.
-/

namespace PlatformBridge.Desktop

open PlatformBridge.Action

/-! ### Moves -/

/-- What is done with a desktop host. -/
inductive Move where
  | ask (q : Query)
  | adjust (adjustment : Adjustment)
  deriving DecidableEq, Repr

namespace Move

def play : Move → Action Effect Failure Desktop Unit
  | ask q => host.query q >>= fun _ => pure ()
  | adjust adjustment => .change (Desktop.adjust adjustment)

def rotation? : Move → Option Rotation
  | adjust (.rotation rotation) => some rotation
  | _ => none

def axis? : Move → Option Axis
  | adjust (.axis axis) => some axis
  | _ => none

/-- The name of the query that is refused from the move on. -/
def refusal? : Move → Option String
  | adjust (.refusing query) => some query
  | _ => none

/-- The move asks for nothing. -/
def isAdjustment : Move → Bool
  | ask _ => false
  | adjust _ => true

end Move

theorem Move.play_ask (q : Query) (d : Desktop) :
    (play (.ask q) d).state = (host.query q d).state ∧
      (play (.ask q) d).trail = (host.query q d).trail := by
  have hplay : play (.ask q) d = (host.query q >>= fun _ => pure ()) d := rfl
  rw [hplay]
  rcases bind_cases (host.query q) (fun _ => pure ()) d with ⟨e, -, hb⟩ | ⟨a, -, hb⟩ <;> rw [hb]
  · exact ⟨rfl, rfl⟩
  · exact ⟨rfl, List.append_nil _⟩

def played (p : Profile) (moves : List Move) : Desktop :=
  after (moves.map Move.play) { profile := p }

def trail (p : Profile) (moves : List Move) : Trail :=
  history (moves.map Move.play) { profile := p }

/-- **The queries among the moves**, each with all that came before it. -/
def asks : List Move → List Move → List (List Move × Query)
  | _, [] => []
  | past, .ask q :: later => (past, q) :: asks (past ++ [.ask q]) later
  | past, .adjust adjustment :: later => asks (past ++ [.adjust adjustment]) later

theorem asks_append (past moves later : List Move) :
    asks past (moves ++ later) = asks past moves ++ asks (past ++ moves) later := by
  induction moves generalizing past with
  | nil => simp [asks]
  | cons move moves ih =>
    have hpast : past ++ move :: moves = past ++ [move] ++ moves := List.append_cons ..
    rw [hpast]
    cases move with
    | ask q => simp [asks, ih]
    | adjust adjustment => simp [asks, ih]

/-! ### What is in force -/

section

variable (p : Profile) (past : List Move)

/-- The name of the query that is refused after the moves. -/
def refused : Option String := (past.filterMap Move.refusal?).getLast?.or p.failQuery

/-- What is answered after the moves: the rotation and the axis that were set last, and for the rest
what the profile said at first. -/
def told : (q : Query) → q.Answer
  | .displayRotation => (past.filterMap Move.rotation?).getLastD p.rotation
  | .axisOrientation => (past.filterMap Move.axis?).getLastD p.axis
  | q => p.answer q

/-- **The reply to a query after the moves.** -/
def reply (q : Query) : Except Failure q.Answer :=
  if refused p past = some q.name then .error (.hostQuery q.name "injected failure")
  else .ok (told p past q)

/-- The profile in force after the moves. -/
def inForce : Profile :=
  { p with
    rotation := told p past .displayRotation
    axis := told p past .axisOrientation
    failQuery := refused p past }

/-- The queries that are answered in the moves, in order. -/
def heeded : List Query :=
  ((asks [] past).filter fun a => refused p a.1 ≠ some a.2.name).map Prod.snd

end

section

variable {p : Profile} {past : List Move}

theorem answer_inForce (q : Query) : (inForce p past).answer q = told p past q := by
  cases q <;> rfl

theorem inForce_ask (q : Query) : inForce p (past ++ [.ask q]) = inForce p past := by
  simp [inForce, told, refused, Move.rotation?, Move.axis?, Move.refusal?]

theorem inForce_adjust (adjustment : Adjustment) {d : Desktop} (h : d.profile = inForce p past) :
    (adjust adjustment d).profile = inForce p (past ++ [.adjust adjustment]) := by
  cases adjustment <;>
    simp [adjust, setRotation, setAxis, failFromNowOn, h, inForce, told, refused, Move.rotation?,
      Move.axis?, Move.refusal?]

theorem heeded_ask (q : Query) : heeded p (past ++ [.ask q]) =
    heeded p past ++ if refused p past = some q.name then [] else [q] := by
  unfold heeded
  rw [asks_append, List.filter_append, List.map_append]
  by_cases h : refused p past = some q.name <;> simp [asks, h]

theorem heeded_adjust (adjustment : Adjustment) :
    heeded p (past ++ [.adjust adjustment]) = heeded p past := by
  unfold heeded
  rw [asks_append]
  simp [asks]

/-! ### The record -/

theorem queryCount_record (d : Desktop) (q : Query) (name : String) :
    (d.record q).queryCount name = d.queryCount name + if q.name = name then 1 else 0 := by
  unfold queryCount record
  by_cases h : q.name = name <;> simp [h]

/-- **The host after the moves**: its profile is the one in force, it has on record what was answered,
and among it the requests to hide its controls, counted in 32 bits. -/
structure Recorded (p : Profile) (past : List Move) (d : Desktop) : Prop where
  profile : d.profile = inForce p past
  answered : d.answered = heeded p past
  immersive : d.immersiveRequests = UInt32.ofNat (d.queryCount Query.requestImmersive.name)

namespace Recorded

variable {d : Desktop}

/-- A query gets the reply that the moves before it make. -/
theorem reply_eq (h : Recorded p past d) (q : Query) :
    (host.query q d).result = reply p past q := by
  have hfail : d.profile.failQuery = refused p past := congrArg Profile.failQuery h.profile
  have hanswer : d.profile.answer q = told p past q := by rw [h.profile, answer_inForce]
  show (Desktop.ask q d).result = reply p past q
  unfold Desktop.ask reply
  rw [hfail, hanswer]
  split <;> rfl

theorem trail_query (q : Query) :
    Trail.replies (host.query q d).trail = [⟨q, (host.query q d).result⟩] := by
  simp [Host.query]

/-- **Asking keeps the record**: a query that is answered is put on record, one that is refused is
not. -/
theorem ask (h : Recorded p past d) (q : Query) :
    Recorded p (past ++ [.ask q]) (host.query q d).state := by
  have hfail : d.profile.failQuery = refused p past := congrArg Profile.failQuery h.profile
  have hstate : (host.query q d).state =
      if refused p past = some q.name then d else d.record q := by
    show (Desktop.ask q d).state = _
    unfold Desktop.ask
    rw [hfail]
    split <;> rfl
  rw [hstate]
  by_cases hrefused : refused p past = some q.name
  · rw [if_pos hrefused]
    refine ⟨?_, ?_, h.immersive⟩
    · rw [h.profile, inForce_ask]
    · rw [h.answered, heeded_ask, if_pos hrefused, List.append_nil]
  · rw [if_neg hrefused]
    refine ⟨?_, ?_, ?_⟩
    · have hprofile : (d.record q).profile = d.profile := rfl
      rw [hprofile, h.profile, inForce_ask]
    · have hanswered : (d.record q).answered = d.answered ++ [q] := rfl
      rw [hanswered, h.answered, heeded_ask, if_neg hrefused]
    · -- The request to hide the controls goes by no other name.
      have hcount := queryCount_record d q Query.requestImmersive.name
      have hname : q.name = Query.requestImmersive.name ↔ q = .requestImmersive :=
        ⟨Query.name_injective, congrArg Query.name⟩
      rw [hcount]
      by_cases hq : q = .requestImmersive
      · rw [if_pos (hname.mpr hq), UInt32.ofNat_add, ← h.immersive]
        simp [record, hq]
      · rw [if_neg (mt hname.mp hq), Nat.add_zero, ← h.immersive]
        simp [record, hq]

/-- **Adjusting keeps the record**, and puts nothing on it. -/
theorem adjust (h : Recorded p past d) (adjustment : Adjustment) :
    Recorded p (past ++ [.adjust adjustment]) (Desktop.adjust adjustment d) := by
  have hanswered : (Desktop.adjust adjustment d).answered = d.answered := by
    cases adjustment <;> rfl
  have himmersive : (Desktop.adjust adjustment d).immersiveRequests = d.immersiveRequests := by
    cases adjustment <;> rfl
  refine ⟨inForce_adjust adjustment h.profile, ?_, ?_⟩
  · rw [hanswered, h.answered, heeded_adjust]
  · unfold queryCount
    rw [himmersive, hanswered]
    exact h.immersive

end Recorded

end

/-! ### All moves -/

section

variable (p : Profile) (moves : List Move)

theorem played_append (later : List Move) :
    played p (moves ++ later) = after (later.map Move.play) (played p moves) := by
  simp [played]

theorem trail_append (later : List Move) :
    trail p (moves ++ later) = trail p moves ++ history (later.map Move.play) (played p moves) := by
  simp [trail, played]

/-- **The record is kept by all moves.** -/
theorem recorded : Recorded p moves (played p moves) := by
  induction moves using List.reverseRecOn with
  | nil => exact ⟨rfl, rfl, rfl⟩
  | append_singleton moves move ih =>
    rw [played_append]
    cases move with
    | ask q =>
      show Recorded p (moves ++ [.ask q]) (Move.play (.ask q) (played p moves)).state
      rw [(Move.play_ask q _).1]
      exact ih.ask q
    | adjust adjustment => exact ih.adjust adjustment

/-- A query that is refused is not on record, and the one after it is. -/
example : (played {} [.ask .locale, .adjust (.refusing "locale"), .ask .locale,
    .ask .osRelease]).answered = [.locale, .osRelease] := by
  decide

/-- **Every query gets the reply that the moves before it make.** -/
theorem replies_trail : Trail.replies (trail p moves) =
    (asks [] moves).map fun a => ⟨a.2, reply p a.1 a.2⟩ := by
  induction moves using List.reverseRecOn with
  | nil => rfl
  | append_singleton moves move ih =>
    rw [trail_append, Trail.replies_append, ih, asks_append, List.map_append, List.nil_append]
    refine congrArg (_ ++ ·) ?_
    cases move with
    | ask q =>
      have htrail : history ([Move.ask q].map Move.play) (played p moves) =
          (host.query q (played p moves)).trail := by
        simp [(Move.play_ask q _).2]
      rw [htrail, Recorded.trail_query, (recorded p moves).reply_eq q]
      rfl
    | adjust adjustment => rfl

theorem isOk_reply (past : List Move) (q : Query) :
    (reply p past q).isOk = decide (refused p past ≠ some q.name) := by
  unfold reply
  by_cases h : refused p past = some q.name <;> simp [h, Except.isOk, Except.toBool]

/-- The count of a name is that of the successful replies to the query with the name. -/
theorem queryCount_played (name : String) : (played p moves).queryCount name =
    (Trail.replies (trail p moves)).countP fun r => r.1.name = name ∧ r.2.isOk := by
  unfold queryCount
  rw [← List.countP_eq_length_filter, (recorded p moves).answered, replies_trail, heeded,
    List.countP_map, List.countP_map, List.countP_filter]
  refine List.countP_congr fun a _ => ?_
  simp [isOk_reply]

theorem inForce_adjustments : inForce p (moves.filter Move.isAdjustment) = inForce p moves := by
  have hview : ∀ {α : Type} (view : Move → Option α), (∀ q, view (.ask q) = none) →
      (moves.filter Move.isAdjustment).filterMap view = moves.filterMap view := by
    intro α view hask
    refine Trail.filterMap_filter (fun move hmove => ?_) moves
    cases move with
    | ask q => exact hask q
    | adjust adjustment => cases hmove
  have hrotation := hview Move.rotation? fun _ => rfl
  have haxis := hview Move.axis? fun _ => rfl
  have hrefusal := hview Move.refusal? fun _ => rfl
  simp only [inForce, told, refused, hrotation, haxis, hrefusal]

end

/-- **The record of a desktop host is true**, whatever it was asked and however it was adjusted: every
query gets the reply that the moves before it make, those that were answered are on record in their
order, the counts are those of successful replies, and a later query is answered as if none had been
asked before. -/
theorem keeps_record (p : Profile) (moves : List Move) :
    let d := played p moves
    let replies := Trail.replies (trail p moves)
    replies = (asks [] moves).map (fun a => ⟨a.2, reply p a.1 a.2⟩) ∧
      d.answered = ((asks [] moves).filter fun a => refused p a.1 ≠ some a.2.name).map Prod.snd ∧
      (∀ name, d.queryCount name = replies.countP fun r => r.1.name = name ∧ r.2.isOk) ∧
      (d.queryCount "request_immersive" < 4294967296 →
        d.immersiveRequests.toNat = d.queryCount "request_immersive") ∧
      ∀ q, (host.query q d).result =
        (host.query q (played p (moves.filter Move.isAdjustment))).result := by
  intro d replies
  have hrecord : Recorded p moves d := recorded p moves
  refine ⟨replies_trail p moves, hrecord.answered, queryCount_played p moves, ?_, ?_⟩
  · intro hfew
    have himmersive : d.immersiveRequests = UInt32.ofNat (d.queryCount "request_immersive") :=
      hrecord.immersive
    rw [himmersive]
    exact UInt32.toNat_ofNat_of_lt' hfew
  · intro q
    rw [hrecord.reply_eq q, (recorded p (moves.filter Move.isAdjustment)).reply_eq q]
    have hforce := inForce_adjustments p moves
    have hrefused : refused p (moves.filter Move.isAdjustment) = refused p moves :=
      congrArg Profile.failQuery hforce
    unfold reply
    rw [hrefused, ← answer_inForce, ← answer_inForce, hforce]

end PlatformBridge.Desktop
