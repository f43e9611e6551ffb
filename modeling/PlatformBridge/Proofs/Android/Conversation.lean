import Mathlib.Data.List.Pairwise
import PlatformBridge.Host.Desktop
import PlatformBridge.Proofs.Android.Answers
import PlatformBridge.Proofs.Lifecycle.Delivery
import PlatformBridge.Proofs.Lifecycle.Trail

/-!
# Conversations with a virtual machine

The queries of a trail cut what the virtual machine was asked into conversations, one for each
query.

* `conversations m v t` — the conversations of a trail, over a machine that was in the state `v` at
  first;
* `Conversation.Held` — the conversation is what is heard when the Android host is asked;
* `Conversation.Faithful` — the host's reply is the answer that the conversation spells, or a failure
  that names the query if something unsound was heard;
* `held_deliver`, `faithful_deliver` — all conversations of a delivery from the Android host are such;
* `Profile.spelled` — the profile that conversations spell, query by query.
-/

namespace PlatformBridge

open PlatformBridge.Action
open Java (Machine Object Env)

namespace Android

/-! ### Conversations -/

/-- A query, what was heard of the machine in it, and the host's reply. -/
structure Conversation where
  query : Query
  exchanges : List Exchange
  reply : Except Failure query.Answer

/-- What was heard since the last query was replied to, and the conversations until then. -/
structure Listening (ν : Type) where
  hearing : Hearing ν
  conversations : List Conversation

variable {ν σ ε α : Type} {m : Machine ν}

namespace Listening

/-- What was heard after one more effect. -/
def listen (m : Machine ν) (l : Listening ν) : PlatformBridge.Effect → Listening ν
  | .host (.java effect) => { l with hearing := l.hearing.hear m effect.operation }
  | .asked query reply =>
    ⟨⟨l.hearing.machine, []⟩, l.conversations ++ [⟨query, l.hearing.exchanges, reply⟩]⟩
  | _ => l

def along (m : Machine ν) (l : Listening ν) (t : Trail) : Listening ν := t.foldl (listen m) l

theorem along_append (l : Listening ν) (t u : Trail) :
    l.along m (t ++ u) = (l.along m t).along m u :=
  List.foldl_append

@[simp] theorem along_map_engine (l : Listening ν) (t : List Engine.Effect) :
    l.along m (t.map .engine) = l := by
  induction t with
  | nil => rfl
  | cons _ t ih => exact ih

theorem along_map_host (l : Listening ν) (t : List Host.Effect) :
    l.along m (t.map .host) =
      { l with hearing := l.hearing.along Host.Effect.operation? m t } := by
  induction t generalizing l with
  | nil => rfl
  | cons effect t ih =>
    cases effect with
    | logged event => exact ih l
    | java effect => exact ih _

end Listening

/-- **The conversations of a trail**, over a machine that was in the given state at first. -/
def conversations (m : Machine ν) (machine : ν) (t : Trail) : List Conversation :=
  (Listening.along m ⟨⟨machine, []⟩, []⟩ t).conversations

/-! ### Queries and replies -/

def Conversation.asked (c : Conversation) : Σ q : Query, Except Failure q.Answer := ⟨c.query, c.reply⟩

theorem Listening.asked_along (l : Listening ν) (t : Trail) :
    (l.along m t).conversations.map Conversation.asked =
      l.conversations.map Conversation.asked ++ t.replies := by
  induction t generalizing l with
  | nil => simp [along]
  | cons effect t ih =>
    have hstep := ih (l.listen m effect)
    rw [show l.along m (effect :: t) = (l.listen m effect).along m t from rfl, hstep]
    cases effect with
    | asked query reply => simp [listen, Conversation.asked]
    | host effect => cases effect <;> rfl
    | called call reply => rfl
    | logged event => rfl
    | engine effect => rfl

/-- There is a conversation for each query of the trail. -/
theorem asked_conversations (machine : ν) (t : Trail) :
    (conversations m machine t).map Conversation.asked = t.replies :=
  Listening.asked_along _ t

theorem mem_conversations {machine : ν} {t : Trail} {q : Query} {reply : Except Failure q.Answer} :
    (∃ c ∈ conversations m machine t, c.asked = ⟨q, reply⟩) ↔ .asked q reply ∈ t := by
  rw [← List.mem_map, asked_conversations]
  exact Trail.mem_replies

theorem queries_conversations (machine : ν) (t : Trail) :
    (conversations m machine t).map Conversation.query = t.queries := by
  have hasked := congrArg (List.map Sigma.fst) (asked_conversations (m := m) machine t)
  rw [List.map_map, Trail.replies, List.map_filterMap] at hasked
  refine hasked.trans (congrArg (List.filterMap · t) (funext fun effect => ?_))
  cases effect <;> rfl

/-! ### The Android host is faithful -/

/-- **The reply is the answer that the conversation spells**, or a failure that names the query if
something unsound was heard. -/
def Conversation.Faithful (c : Conversation) : Prop :=
  match c.reply with
  | .ok a => Settled c.query c.exchanges a
  | .error e => Spoiled c.exchanges ∧ e.Names c.query

/-- What is heard when the host is asked. -/
def heard (m : Machine ν) (activity : Object) (q : Query) (env : Env ν) : List Exchange :=
  (Hearing.along Host.Effect.operation? m ⟨env.machine, []⟩ (ask m activity q env).trail).exchanges

/-- **The conversation was held**: it is what is heard when the host is asked, with the reply. -/
def Conversation.Held (m : Machine ν) (activity : Object) (c : Conversation) : Prop :=
  ∃ env, c = ⟨c.query, heard m activity c.query env, (ask m activity c.query env).result⟩

theorem Conversation.Held.faithful {activity : Object} {c : Conversation} (h : c.Held m activity) :
    c.Faithful := by
  obtain ⟨env, hc⟩ := h
  obtain ⟨-, hreply⟩ := settled_ask (q := c.query) m activity env
  rw [hc]
  unfold Faithful heard
  generalize (ask m activity c.query env).result = reply at hreply ⊢
  cases reply <;> exact hreply

/-- What was heard on the trail: every conversation was held, and the machine is where it was heard to
be. -/
def Attended (m : Machine ν) (activity : Object) (machine : ν) (s : Scene (Env ν) ε) (t : Trail) : Prop :=
  (Listening.along m ⟨⟨machine, []⟩, []⟩ t).hearing = ⟨s.host.machine, []⟩ ∧
    ∀ c ∈ conversations m machine t, c.Held m activity

theorem Attended.of_still {activity : Object} {machine : ν} {s s' : Scene (Env ν) ε} {t u : Trail}
    (h : Attended m activity machine s t) (hs : s'.host = s.host)
    (hu : ∀ l : Listening ν, l.along m u = l) : Attended m activity machine s' (t ++ u) := by
  unfold Attended conversations
  rw [Listening.along_append, hu, hs]
  exact h

theorem keptByMoves_attended (m : Machine ν) (activity : Object) (engine : Engine ε) (machine : ν) :
    Bridge.KeptByMoves (host m activity) engine (Attended m activity machine) where
  asks q s t h := by
    obtain ⟨hmachine, -⟩ := settled_ask (q := q) m activity s.host
    have htrail : (Bridge.onHost ((host m activity).query q) s).trail =
        (ask m activity q s.host).trail.map .host ++ [.asked q (ask m activity q s.host).result] := rfl
    -- Nothing was heard since the last reply, so all that is heard now is this query's.
    unfold Attended conversations at h ⊢
    rw [htrail, ← List.append_assoc, Listening.along_append, Listening.along_append,
      Listening.along_map_host, h.1]
    refine ⟨?_, ?_⟩
    · exact congrArg (Hearing.mk · []) hmachine
    · intro c hc
      rcases List.mem_append.mp hc with hc | hc
      · exact h.2 c hc
      · cases List.mem_singleton.mp hc
        exact ⟨s.host, rfl⟩
  logs event _ _ h := h.of_still rfl fun _ => rfl
  moves phase _ _ h := h.of_still rfl fun _ => rfl
  hands snapshot s t h := by
    refine h.of_still rfl fun l => ?_
    simp only [Bridge.onEngine, zoom_apply, Engine.invoke, Listening.along_append,
      Listening.along_map_engine]
    rfl
  forwards orientation s t h := by
    rcases Bridge.forward_cases engine orientation s with ⟨-, hf⟩ | ⟨e, -, hf⟩ <;> rw [hf] <;>
      refine h.of_still rfl fun l => ?_
    · rw [Listening.along_append, Listening.along_map_engine]
      rfl
    · rw [Listening.along_append, Listening.along_map_engine]
      rfl

/-- **All conversations of a delivery were held.** -/
theorem held_deliver (m : Machine ν) (activity : Object) (engine : Engine ε) (d : Delivery)
    (s : Scene (Env ν) ε) : ∀ c ∈ conversations m s.host.machine
      (Bridge.deliver (host m activity) engine d s).trail, c.Held m activity :=
  ((keptByMoves_attended m activity engine s.host.machine).deliver d s []
    ⟨rfl, List.forall_mem_nil _⟩).2

/-- **All conversations of a delivery are faithful.** -/
theorem faithful_deliver (m : Machine ν) (activity : Object) (engine : Engine ε) (d : Delivery)
    (s : Scene (Env ν) ε) : ∀ c ∈ conversations m s.host.machine
      (Bridge.deliver (host m activity) engine d s).trail, c.Faithful :=
  fun c hc => (held_deliver m activity engine d s c hc).faithful

/-! ### The profile that conversations spell -/

/-- The answer to a query that conversations spell, if some conversation is about it. -/
def told? (q : Query) (cs : List Conversation) : Option q.Answer :=
  cs.findSome? fun c => if c.query = q then q.spelled? c.exchanges else none

theorem told?_of_mem {cs : List Conversation} {c : Conversation} {a : c.query.Answer} (hc : c ∈ cs)
    (honly : (cs.map Conversation.query).count c.query ≤ 1)
    (ha : c.query.spelled? c.exchanges = some a) : told? c.query cs = some a := by
  obtain ⟨before, after, rfl⟩ := List.append_of_mem hc
  -- The first conversation about the query is this one, so no other can tell first.
  have hbefore : c.query ∉ before.map Conversation.query := by
    rw [List.map_append, List.map_cons, List.count_append, List.count_cons_self] at honly
    exact List.count_eq_zero.mp (by omega)
  have hnone : before.findSome? (fun d => if d.query = c.query then c.query.spelled? d.exchanges
      else none) = none := by
    refine List.findSome?_eq_none_iff.mpr fun d hd => if_neg fun hquery => hbefore ?_
    exact hquery ▸ List.mem_map_of_mem hd
  rw [told?, List.findSome?_append, hnone, List.findSome?_cons, if_pos rfl, ha]
  rfl

end Android

/-- **The profile that conversations spell**; what they do not tell keeps its default. -/
def Profile.spelled (cs : List Android.Conversation) : Profile :=
  let usual : Profile := {}
  let device := (Android.told? .deviceIdentity cs).getD (usual.answer .deviceIdentity)
  { packageName := (Android.told? .packageName cs).getD usual.packageName
    manufacturer := device.manufacturer
    model := device.model
    buildId := device.buildId
    osRelease := (Android.told? .osRelease cs).getD usual.osRelease
    locale := (Android.told? .locale cs).getD usual.locale
    cacheDir := (Android.told? .cacheDir cs).getD usual.cacheDir
    nativeLibraryDir := (Android.told? .nativeLibraryDir cs).getD usual.nativeLibraryDir
    display := (Android.told? .realDisplaySize cs).getD usual.display
    rotation := (Android.told? .displayRotation cs).getD usual.rotation
    axis := (Android.told? .axisOrientation cs).getD usual.axis
    failQuery := none }

theorem Profile.answer_spelled (cs : List Android.Conversation) (q : Query) :
    (spelled cs).answer q = (Android.told? q cs).getD (({} : Profile).answer q) := by
  cases q <;> rfl

end PlatformBridge
