import SiteEdit.Proofs.Engine.Harmless
import SiteEdit.Proofs.Engine.Trail
import SiteEdit.Proofs.Limit.Effects
import SiteEdit.Proofs.Session.Replay
import Mathlib.Algebra.BigOperators.Group.List.Basic
import Mathlib.Algebra.Ring.Nat
/-!
# The log tells the counters

The parts keep counters and report events, in different places.  No operation changes a counter by anything else than
what its events say (`Told`), on no path and in whichever operation it is hidden.  So a log that has lost nothing has
the counts of the engine in it (`counters_told`).
-/
namespace SiteEdit

open Audit (Audited Event)

/-! ## What the log says of a counter -/

/-- How many items an object lists under a key. -/
def Json.itemsUnder (key : String) (j : Json) : Nat :=
  match j.get? key with
  | some (.arr items) => items.length
  | _ => 0

/-- What is counted, and can be read from the log: a number of the sessions, of the limiter or of accepted requests. -/
inductive Counter where
  | created
  | expired
  | destroyed
  | discarded
  | snapshotsCreated
  | snapshotsEvicted
  | rateLimited
  | bannedRejections
  | bansCreated
  | accepted
  deriving DecidableEq

/-- An entry has the name of its event. -/
@[simp]
theorem Audit.Entry.event_recorded (id : Nat) (call : Millis × Event) : (recorded id call).event = call.2.name := rfl

/-- An entry has the data of its event, redacted. -/
@[simp]
theorem Audit.Entry.data_recorded (id : Nat) (call : Millis × Event) :
    (recorded id call).data = Policy.Redactor.builtin.redactJson call.2.data := rfl

namespace Counter

/-- One for an entry of a name. -/
@[simp]
def once (name : String) (e : Audit.Entry) : Nat := if e.event = name then 1 else 0

/-- The items that an entry of a name lists under a key. -/
@[simp]
def each (name key : String) (e : Audit.Entry) : Nat := if e.event = name then e.data.itemsUnder key else 0

/-- What an entry of the log adds to a counter. -/
@[simp]
def read : Counter → Audit.Entry → Nat
  | created => once "session_created"
  | expired => once "session_expired"
  | destroyed => once "session_destroyed"
  | discarded => once "session_discarded"
  | snapshotsCreated => once "snapshot_created"
  | snapshotsEvicted => fun e =>
    each "snapshot_created" "evicted" e + each "snapshot_undone" "purged" e + each "session_reset" "purged" e
  | rateLimited => once "rate_limited"
  | bannedRejections => once "banned_request_rejected"
  | bansCreated => once "ban_created"
  | accepted => once "transform_accepted"

/-- What an event adds to a counter once it is recorded: neither its number nor its time matters. -/
@[simp]
def told (c : Counter) (e : Event) : Nat := c.read (.recorded 0 (0, e))

theorem read_recorded (c : Counter) (id : Nat) (call : Millis × Event) :
    c.read (.recorded id call) = c.told call.2 := by
  cases c <;> rfl

/-- What events add. -/
def toldBy (c : Counter) (events : List Event) : Nat := (events.map c.told).sum

variable {c : Counter}

@[simp]
theorem toldBy_singleton (c : Counter) (e : Event) : c.toldBy [e] = c.told e := rfl

theorem toldBy_append (c : Counter) (events events' : List Event) :
    c.toldBy (events ++ events') = c.toldBy events + c.toldBy events' := by
  rw [toldBy, List.map_append, List.sum_append]
  rfl

theorem toldBy_eq_zero {events : List Event} (h : ∀ e ∈ events, c.told e = 0) : c.toldBy events = 0 :=
  List.sum_eq_zero (List.forall_mem_map.2 h)

theorem sum_read_trail (c : Counter) (calls : Audit.Calls) :
    ((Audit.trail calls).map c.read).sum = c.toldBy (calls.map Prod.snd) := by
  induction calls using List.reverseRecOn with
  | nil => rfl
  | append_singleton calls call ih =>
    rw [Audit.trail_concat, List.map_append, List.sum_append, ih, List.map_append, toldBy_append, List.map_singleton,
      List.map_singleton, read_recorded]
    rfl

theorem sum_once (name : String) (log : Audit.Log) :
    (log.entries.map (once name)).sum = (log.byEvent name).length := by
  unfold Audit.Log.byEvent
  induction log.entries with
  | nil => rfl
  | cons e entries ih =>
    rw [List.map_cons, List.sum_cons, ih, once, List.filter_cons]
    by_cases h : e.event = name
    · simp [h, Nat.add_comm]
    · simp [h]

theorem sum_each (name key : String) (log : Audit.Log) :
    (log.entries.map (each name key)).sum = ((log.byEvent name).map fun e => e.data.itemsUnder key).sum := by
  unfold Audit.Log.byEvent
  induction log.entries with
  | nil => rfl
  | cons e entries ih =>
    rw [List.map_cons, List.sum_cons, ih, each, List.filter_cons]
    by_cases h : e.event = name
    · simp [h]
    · simp [h]

end Counter

/-! ## What operations add -/

/-- All that an operation adds to the counters of a part is told by its events. -/
def Told {σ α : Type} (counts : σ → Counter → Nat) (s : σ) (a : Audited σ α) : Prop :=
  ∀ c : Counter, counts a.state c = counts s c + c.toldBy a.events

namespace Told

variable {σ α β : Type} {counts : σ → Counter → Nat} {s : σ} {a : Audited σ α}

theorem silent (he : a.events = []) (hs : counts a.state = counts s) : Told counts s a := fun c => by
  rw [he, hs]
  rfl

/-- An operation that reports one event. -/
theorem one {event : Event} (he : a.events = [event]) (hs : ∀ c, counts a.state c = counts s c + c.told event) :
    Told counts s a := fun c => by
  rw [he, Counter.toldBy_singleton]
  exact hs c

theorem map (h : Told counts s a) (f : α → β) : Told counts s (a.map f) := h

theorem next {f : α → σ → Audited σ β} (h : Told counts s a) (hf : Told counts a.state (f a.result a.state)) :
    Told counts s (a.next f) := fun c => by
  have hevents : c.toldBy (a.next f).events = c.toldBy a.events + c.toldBy (f a.result a.state).events :=
    c.toldBy_append _ _
  rw [hevents, ← Nat.add_assoc, ← h c]
  exact hf c

end Told

/-! ## Sessions -/

namespace Session.Manager

variable {m : Manager} {now : Millis} {id : String} {e : Entry}

/-- The counters of the sessions. -/
def counts (m : Manager) : Counter → Nat
  | .created => m.created
  | .expired => m.expired
  | .destroyed => m.destroyed
  | .discarded => m.discarded
  | .snapshotsCreated => m.snapshotsCreated
  | .snapshotsEvicted => m.snapshotsEvicted
  | .rateLimited | .bannedRejections | .bansCreated | .accepted => 0

theorem itemsUnder_redacted {ms : List (String × Json)} (hms : ∀ m ∈ ms, m.1 ∈ memberNames) {key : String}
    {ids : List String} (h : ms.reverse.lookup key = some (Json.ofStrings ids)) :
    (Policy.Redactor.builtin.redactJson (Json.object ms)).itemsUnder key = ids.length := by
  rw [Json.itemsUnder, get?_redacted ms hms, h, Option.map_some, Json.ofStrings, Json.ofList,
    Policy.Redactor.redactJson_arr]
  simp only [List.length_map]

theorem evict_told (m : Manager) (id : String) : Told counts m (m.evict id) := .one rfl fun c => by
  cases c <;> simp [counts, evict, dropSession, note]

theorem create_told (m : Manager) (now : Millis) (fresh identity : String) :
    Told counts m (m.create now fresh identity) := .one rfl fun c => by
  cases c <;> simp [counts, create, note]

theorem destroy_told (m : Manager) (id : String) : Told counts m (m.destroy id) := by
  unfold destroy
  split
  · exact .silent rfl rfl
  · refine .one rfl fun c => ?_
    cases c <;> simp [counts, dropSession, note]

theorem discardUnused_told (m : Manager) (id : String) : Told counts m (m.discardUnused id) := by
  unfold discardUnused
  split_ifs
  · refine .one rfl fun c => ?_
    cases c <;> simp [counts, note]
  · exact .silent rfl rfl

theorem evictAll_told : ∀ (ids : List String) (m : Manager), Told counts m (m.evictAll ids)
  | [], _ => .silent rfl rfl
  | id :: ids, m => (m.evict_told id).next (evictAll_told ids _)

theorem createOrGet_told (m : Manager) (now : Millis) (fresh : String) (presented : Option String)
    (ip userAgent : String) : Told counts m (m.createOrGet now fresh presented ip userAgent) := by
  unfold createOrGet
  dsimp only
  split
  · exact m.create_told now fresh _
  · split_ifs
    · exact (m.evict_told _).next (create_told (m.evict _).state now fresh _)
    · exact .silent rfl rfl
    · refine Told.next (.one rfl fun c => ?_) (m.create_told now fresh _)
      cases c <;> simp [counts]

theorem withLive_told {α : Type} (m : Manager) (now : Millis) (id : String) (f : Entry → Entry × α) :
    Told counts m (m.withLive now id f) := by
  rcases m.stands now id with h | ⟨e, h⟩ | ⟨e, h⟩
  · rw [withLive_of_none h]
    exact .silent rfl rfl
  · rw [withLive_of_over h]
    exact (m.evict_told id).map _
  · rw [withLive_of_live h]
    exact .silent rfl rfl

theorem createSnapshot_told (m : Manager) (now : Millis) (fresh id : String) (document : Document)
    (text : Option String) : Told counts m (m.createSnapshot now fresh id document text) := by
  -- the snapshot is stored before the session is looked at, which no counter sees
  let stored : Manager := { m with snapshots := m.snapshots.insert fresh (.taken now fresh id document text) }
  have hstored : Told counts stored (m.createSnapshot now fresh id document text) := by
    refine Told.next (stored.withLive_told now id _) ?_
    split
    · exact .silent rfl rfl
    · rename_i m' evicted _
      have hitems : (Policy.Redactor.builtin.redactJson (Json.object [("snapshot_id", .str fresh),
          ("changes", Json.ofNat document.changes.length), ("evicted", Json.ofStrings evicted)])).itemsUnder "evicted" =
            evicted.length := itemsUnder_redacted (by simp [memberNames]) rfl
      refine .one rfl fun c => ?_
      cases c <;> simp [counts, evictSnapshots, dropSnapshots, note, hitems]
  exact fun c => by
    have h := hstored c
    cases c <;> exact h

/-- An operation that takes back snapshots, and reports just that, tells of those that are pushed out. -/
theorem takenBack_told (hl : m.Live now id e) (steps : Nat) {α : Type} {a : Audited Manager α}
    (hs : a.state = (m.takeBack now id steps).state) {name : String}
    (hname : name = "snapshot_undone" ∨ name = "session_reset") {ms : List (String × Json)}
    (he : a.events = [note name id ms]) (hms : ∀ m ∈ ms, m.1 ∈ memberNames)
    (hp : ms.reverse.lookup "purged" = some (Json.ofStrings
      ((e.pop steps).1.detach (e.pop steps).2 m.settings.maxDetached.toNat).2)) : Told counts m a := by
  have hitems := itemsUnder_redacted hms hp
  refine .one he fun c => ?_
  rw [hs, takeBack_of_live hl]
  rcases hname with rfl | rfl
  · cases c <;> simp [counts, note, hitems]
  · cases c <;> simp [counts, note, hitems]

theorem undo_told (m : Manager) (now : Millis) (id : String) (steps : Nat) : Told counts m (m.undo now id steps) := by
  rcases m.stands now id with hm | ⟨e, ho⟩ | ⟨e, hl⟩
  · rw [undo, takeBack_of_none hm]
    exact .silent rfl rfl
  · rw [undo, takeBack_of_over ho]
    exact ((m.evict_told id).map _).next (.silent rfl rfl)
  · let queued := (e.pop steps).1.detach (e.pop steps).2 m.settings.maxDetached.toNat
    have hevents : (m.undo now id steps).events =
        [note "snapshot_undone" id [("steps", Json.ofNat steps), ("removed", Json.ofStrings (e.pop steps).2),
          ("current", Json.ofOption .str queued.1.current?), ("purged", Json.ofStrings queued.2)]] := by
      simp only [undo, takeBack_of_live hl, Audited.next, List.nil_append, queued]
    exact takenBack_told hl steps (m.undo_state now id steps) (.inl rfl) hevents (by simp [memberNames]) rfl

theorem reset_told (m : Manager) (now : Millis) (id : String) : Told counts m (m.reset now id) := by
  rcases m.stands now id with hm | ⟨e, ho⟩ | ⟨e, hl⟩
  · rw [reset_eq, takeBack_of_none hm]
    exact .silent rfl rfl
  · rw [reset_eq, takeBack_of_over ho]
    exact ((m.evict_told id).map _).next (.silent rfl rfl)
  · let steps := m.historyLength id
    let queued := (e.pop steps).1.detach (e.pop steps).2 m.settings.maxDetached.toNat
    have hevents : (m.reset now id).events = [note "session_reset" id
        [("removed", Json.ofStrings (e.pop steps).2), ("purged", Json.ofStrings queued.2)]] := by
      simp only [reset_eq, takeBack_of_live hl, Audited.next, List.nil_append, queued, steps]
    exact takenBack_told hl steps (m.reset_state now id) (.inr rfl) hevents (by simp [memberNames]) rfl

theorem perform_told (m : Manager) (now : Millis) (act : Action) : Told counts m (m.perform now act) := by
  cases act with
  | createOrGet fresh presented ip userAgent => exact (m.createOrGet_told now fresh presented ip userAgent).map _
  | renew id => exact (m.withLive_told now id _).map _
  | createSnapshot fresh id document text => exact (m.createSnapshot_told now fresh id document text).map _
  | undo id steps => exact (m.undo_told now id steps).map _
  | reset id => exact (m.reset_told now id).map _
  | session id => exact (m.withLive_told now id _).map _
  | state id => exact (m.withLive_told now id _).map _
  | history id => exact m.withLive_told now id fun e => (e, e.history)
  | snapshot id => exact .silent rfl rfl
  | stats => exact .silent rfl rfl
  | destroy id => exact (m.destroy_told id).map _
  | discardUnused id => exact (m.discardUnused_told id).map _
  | sweep => exact m.evictAll_told (m.overdue now)

end Session.Manager

/-! ## The limiter -/

namespace Limit.Limiter

/-- The counters of the limiter that its events tell.  It does not report what it allows. -/
def counts (l : Limiter) : Counter → Nat
  | .rateLimited => l.rateLimited
  | .bannedRejections => l.bannedRejections
  | .bansCreated => l.bansCreated
  | .created | .expired | .destroyed | .discarded | .snapshotsCreated | .snapshotsEvicted | .accepted => 0

theorem refuseBanned_told (l : Limiter) (key : Key) (ban : Ban) : Told counts l (l.refuseBanned key ban) := .one rfl fun c => by
  cases c <;> simp [counts, refuseBanned]

theorem escalate_told (l : Limiter) (now : Millis) (key : Key) (violations : Nat) :
    Told counts l (l.escalate now key violations) := .one rfl fun c => by
  cases c <;> simp [counts, escalate]

theorem refuseExceeded_told (l : Limiter) (key : Key) (violations : Nat) (retryAfter : Millis) :
    Told counts l (l.refuseExceeded key violations retryAfter) := .one rfl fun c => by
  cases c <;> simp [counts, refuseExceeded]

theorem ban_told (l : Limiter) (now : Millis) (key : Key) (reason : String) (duration : Option Millis) :
    Told counts l (l.ban now key reason duration) := .one rfl fun c => by
  cases c <;> simp [counts, ban]

theorem count_told (l : Limiter) (now : Millis) (key : Key) : Told counts l (l.count now key) := by
  by_cases hc : (l.nextRecord now key).count ≤ (l.settings.ceiling key.dimension).maxRequests.toNat
  · rw [count_of_within hc]
    exact .silent rfl rfl
  · rw [count_of_exceeded (Nat.not_le.1 hc)]
    -- the record that is counted is no counter
    let counted : Limiter := { l with records := l.records.insert key.text (l.nextRecord now key).violate }
    dsimp only
    split_ifs
    · exact counted.escalate_told now key _
    · exact counted.refuseExceeded_told key _ _

theorem dropEnded_told (l : Limiter) (key : Key) : Told counts l (l.dropEnded key) := by
  unfold dropEnded
  split
  · exact .silent rfl rfl
  · refine .one rfl fun c => ?_
    cases c <;> simp [counts]

theorem check_told (l : Limiter) (now : Millis) (key : Key) : Told counts l (l.check now key) := by
  unfold check
  split
  · exact l.refuseBanned_told key _
  · exact (l.dropEnded_told key).next (count_told _ now key)

theorem unban_told (l : Limiter) (key : Key) : Told counts l (l.unban key) := by
  unfold unban
  split
  · exact .silent rfl rfl
  · refine .one rfl fun c => ?_
    cases c <;> simp [counts]

theorem sweep_told (l : Limiter) (now : Millis) : Told counts l (l.sweep now) := fun c => by
  have hnothing : c.toldBy (l.sweep now).events = 0 := by
    refine Counter.toldBy_eq_zero (List.forall_mem_map.2 fun entry _ => ?_)
    cases c <;> simp
  rw [hnothing]
  cases c <;> rfl

theorem perform_told (l : Limiter) (now : Millis) (act : Action) : Told counts l (l.perform now act) := by
  cases act with
  | check key => exact (l.check_told now key).map _
  | ban key reason duration => exact (l.ban_told now key reason duration).map _
  | unban key => exact (l.unban_told key).map _
  | ban? key => exact .silent rfl rfl
  | bans => exact .silent rfl rfl
  | record key => exact .silent rfl rfl
  | reset key => exact .silent rfl (funext fun c => by cases c <;> rfl)
  | stats => exact .silent rfl rfl
  | sweep => exact (l.sweep_told now).map _

end Limit.Limiter

/-! ## Requests -/

namespace Engine

/-- Whether a request was accepted. -/
def isAccepted : Except Refusal Accepted → Bool
  | .ok _ => true
  | .error _ => false

namespace State

variable {s : State} {screen : Policy.Screen} {now : Millis} {α : Type}

/-- The counters of both parts. -/
def counts (s : State) (c : Counter) : Nat := s.limiter.counts c + s.sessions.counts c

theorem onLimiter_told {f : Limit.Limiter → Audited Limit.Limiter α}
    (h : Told Limit.Limiter.counts s.limiter (f s.limiter)) : Told counts s (s.onLimiter f) := fun c => by
  have hlimiter := h c
  simp only [counts, onLimiter] at *
  omega

theorem onSessions_told {f : Session.Manager → Audited Session.Manager α}
    (h : Told Session.Manager.counts s.sessions (f s.sessions)) : Told counts s (s.onSessions f) := fun c => by
  have hsessions := h c
  simp only [counts, onSessions] at *
  omega

/-- What a request adds to the counters is told by its events, and so is that it was accepted. -/
def Answers (s : State) (a : Audited State (Except Refusal Accepted)) : Prop :=
  ∀ c : Counter, a.state.counts c + (if c = .accepted ∧ isAccepted a.result then 1 else 0) =
    s.counts c + c.toldBy a.events

variable {a : Audited State (Except Refusal Accepted)}

theorem Answers.of_error (h : Told counts s a) (hr : isAccepted a.result = false) : Answers s a := fun c => by
  rw [hr, if_neg fun hc => Bool.false_ne_true hc.2]
  exact h c

/-- What comes before a request is answered. -/
theorem Answers.after {b : Audited State α} {f : α → State → Audited State (Except Refusal Accepted)}
    (h : Told counts s b) (hf : Answers b.state (f b.result b.state)) : Answers s (b.next f) := fun c => by
  have hevents : c.toldBy (b.next f).events = c.toldBy b.events + c.toldBy (f b.result b.state).events :=
    c.toldBy_append _ _
  rw [hevents, ← Nat.add_assoc, ← h c]
  exact hf c

/-- What comes after a refusal.  An accepted request is left as it is. -/
theorem Answers.next {f : Except Refusal Accepted → State → Audited State (Except Refusal Accepted)} (h : Answers s a)
    (hok : ∀ x s, f (.ok x) s = { result := .ok x, state := s })
    (herror : ∀ r s, Told counts s (f (.error r) s) ∧ isAccepted (f (.error r) s).result = false) :
    Answers s (a.next f) := by
  obtain ⟨result, state, events⟩ := a
  cases result with
  | ok x =>
    have hnext : Audited.next ⟨.ok x, state, events⟩ f = ⟨.ok x, state, events⟩ := by
      rw [Audited.next, hok, List.append_nil]
    rwa [hnext]
  | error r =>
    have htold : Told counts s (⟨.error r, state, events⟩ : Audited State (Except Refusal Accepted)) := fun c => by
      rw [← h c, if_neg fun hc => Bool.false_ne_true hc.2]
      rfl
    obtain ⟨hrest, hresult⟩ := herror r state
    exact .of_error (htold.next hrest) hresult

theorem refuse_answers (s : State) (session text : String) (r : Refusal) : Answers s (s.refuse session text r) := by
  refine .of_error (fun c => ?_) rfl
  have hnothing : c.toldBy (r.event? session text).toList = 0 := by
    refine Counter.toldBy_eq_zero fun event hevent => ?_
    cases r with
    | quota denial => cases hevent
    | session error => cases hevent
    | text verdict =>
      obtain rfl := List.mem_singleton.1 hevent
      cases c <;> simp
    | unrecognized =>
      obtain rfl := List.mem_singleton.1 hevent
      cases c <;> simp
    | malformed report =>
      obtain rfl := List.mem_singleton.1 hevent
      cases c <;> simp
    | document verdict =>
      obtain rfl := List.mem_singleton.1 hevent
      cases c <;> simp
  exact (congrArg (s.counts c + ·) hnothing).symm

theorem record_answers (s : State) (screen : Policy.Screen) (now : Millis) (fresh session text : String) (d : Document)
    (n : Nat) : Answers s (s.record screen now fresh session text d n) := by
  have hcreated : Told counts s (s.onSessions fun m => m.createSnapshot now fresh session d
      (some (screen.redactor.redact text).text)) := onSessions_told (Session.Manager.createSnapshot_told _ now _ _ d _)
  unfold record
  refine Answers.after hcreated ?_
  split
  · exact .of_error (.silent rfl rfl) rfl
  · intro c
    cases c <;> simp [isAccepted]

theorem proceed_answers (s : State) (screen : Policy.Screen) (now : Millis) (fresh session text : String) (n : Nat) :
    Answers s (s.proceed screen now fresh session text n) := by
  unfold proceed
  refine Answers.after (onLimiter_told (s.limiter.check_told now (.session session))) ?_
  split
  · exact refuse_answers _ session text _
  · split
    · exact refuse_answers _ session text _
    · exact record_answers _ screen now fresh session text _ _

theorem transform_answers (s : State) (screen : Policy.Screen) (now : Millis) (fresh : FreshIds) (r : Request) :
    Answers s (s.transform screen now fresh r) := by
  unfold transform
  refine Answers.after (onLimiter_told (s.limiter.check_told now (.ip r.ip))) ?_
  split
  · exact .of_error (.silent rfl rfl) rfl
  · have hstarted := Session.Manager.createOrGet_told s.sessions now fresh.session r.session r.ip r.userAgent
    refine Answers.after (onSessions_told hstarted)
      ((proceed_answers _ screen now fresh.snapshot _ r.text _).next (fun _ _ => rfl) fun refusal s => ?_)
    dsimp only
    split_ifs
    · exact ⟨.silent rfl rfl, rfl⟩
    · exact ⟨(onSessions_told (s.sessions.discardUnused_told _)).map _, rfl⟩

theorem sweep_told (s : State) (now : Millis) : Told counts s (s.sweep now) :=
  (onSessions_told (s.sessions.evictAll_told (s.sessions.overdue now))).next
    ((onLimiter_told (Limit.Limiter.sweep_told _ now)).map _)

end State

/-! ## Runs -/

/-- Whether an answer is that a request was accepted. -/
def Answer.accepts : Answer → Bool
  | .transformed result => isAccepted result
  | _ => false

/-- What the engine returns for actions. -/
def answers (e : Engine) : Actions → List Answer
  | [] => []
  | (now, act) :: acts => (e.perform now act).2 :: (e.perform now act).1.answers acts

/-- An operation records what it adds to the counters. -/
theorem perform_recorded (e : Engine) (now : Millis) (act : Action) :
    ∃ events, (e.perform now act).1.log = e.log.recordAll now events ∧
      ∀ c : Counter, (e.perform now act).1.state.counts c +
        (if c = .accepted ∧ (e.perform now act).2.accepts then 1 else 0) = e.state.counts c + c.toldBy events := by
  have htold : ∀ {α : Type} {a : Audited State α}, Told State.counts e.state a → ∀ c : Counter,
      a.state.counts c + (if c = .accepted ∧ false = true then 1 else 0) = e.state.counts c + c.toldBy a.events :=
    fun h c => by rw [if_neg fun hc => Bool.false_ne_true hc.2]; exact h c
  cases act with
  | transform fresh r => exact ⟨_, rfl, e.state.transform_answers e.screen now fresh r⟩
  | undo id steps => exact ⟨_, rfl, htold (State.onSessions_told (e.state.sessions.undo_told now id steps))⟩
  | reset id => exact ⟨_, rfl, htold (State.onSessions_told (e.state.sessions.reset_told now id))⟩
  | state id => exact ⟨_, rfl, htold (State.onSessions_told (e.state.sessions.perform_told now (.state id)))⟩
  | history id => exact ⟨_, rfl, htold (State.onSessions_told (e.state.sessions.perform_told now (.history id)))⟩
  | ban key reason secs =>
    exact ⟨_, rfl, htold (State.onLimiter_told (e.state.limiter.ban_told now key reason (secs.map seconds)))⟩
  | unban key => exact ⟨_, rfl, htold (State.onLimiter_told (e.state.limiter.unban_told key))⟩
  | sweep => exact ⟨_, rfl, htold (e.state.sweep_told now)⟩
  | sessions act => exact ⟨_, rfl, htold (State.onSessions_told (e.state.sessions.perform_told now act))⟩
  | limits act => exact ⟨_, rfl, htold (State.onLimiter_told (e.state.limiter.perform_told now act))⟩

/-- So does a run. -/
theorem after_recorded : ∀ (acts : Actions) (e : Engine), ∃ calls, (e.after acts).log = e.log.after calls ∧
    ∀ c : Counter,
      (e.after acts).state.counts c + (if c = .accepted then (e.answers acts).countP Answer.accepts else 0) =
        e.state.counts c + c.toldBy (calls.map Prod.snd)
  | [], e => ⟨[], rfl, fun c => by rw [answers, List.countP_nil, ite_self]; rfl⟩
  | (now, act) :: acts, e => by
    obtain ⟨events, hlog, hfirst⟩ := e.perform_recorded now act
    obtain ⟨calls, hlog', hrest⟩ := after_recorded acts (e.perform now act).1
    refine ⟨events.map (fun event => (now, event)) ++ calls, ?_, fun c => ?_⟩
    · rw [Audit.Log.after_append, ← Audit.Log.recordAll_eq_after, ← hlog]
      exact hlog'
    · have hfirst := hfirst c
      have hrest := hrest c
      have hevents : (events.map fun event => (now, event)).map Prod.snd = events := by
        rw [List.map_map]
        exact List.map_id _
      rw [List.map_append, Counter.toldBy_append, hevents, answers, List.countP_cons]
      show ((e.perform now act).1.after acts).state.counts c + _ = _
      by_cases hc : c = .accepted
      · simp only [hc, true_and, if_true] at hfirst hrest ⊢
        omega
      · simp only [hc, false_and, if_false] at hfirst hrest ⊢
        omega

/-- What the entries of a log say of the counters: the number of entries of a name, or the number of snapshots that they
list. -/
structure CountersTold (stats : Stats) (accepted : Nat) (log : Audit.Log) : Prop where
  created : stats.sessions.sessionsCreated = (log.byEvent "session_created").length
  expired : stats.sessions.sessionsExpired = (log.byEvent "session_expired").length
  destroyed : stats.sessions.sessionsDestroyed = (log.byEvent "session_destroyed").length
  discarded : stats.sessions.sessionsDiscarded = (log.byEvent "session_discarded").length
  snapshotsCreated : stats.sessions.snapshotsCreated = (log.byEvent "snapshot_created").length
  snapshotsEvicted : stats.sessions.snapshotsEvicted =
    ((log.byEvent "snapshot_created").map fun e => e.data.itemsUnder "evicted").sum +
      ((log.byEvent "snapshot_undone").map fun e => e.data.itemsUnder "purged").sum +
      ((log.byEvent "session_reset").map fun e => e.data.itemsUnder "purged").sum
  rateLimited : stats.limits.rateLimited = (log.byEvent "rate_limited").length
  bannedRejections : stats.limits.bannedRejections = (log.byEvent "banned_request_rejected").length
  bansCreated : stats.limits.bansCreated = (log.byEvent "ban_created").length
  accepted : accepted = (log.byEvent "transform_accepted").length

/-- **The log tells the counters.**  After every run of an engine, its sessions and its limiter whose log has lost no
entry, each counter is the number of the entries that report what it counts, and so is the number of the requests that
were accepted. -/
theorem counters_told (s : Settings) (e : Engine) (hstart : start s = .ok e) (acts : Actions)
    (hd : (e.after acts).log.dropped = 0) (now : Millis) :
    CountersTold ((e.after acts).stats now) ((e.answers acts).countP Answer.accepts) (e.after acts).log := by
  obtain ⟨calls, hlog, hcounts⟩ := e.after_recorded acts
  rw [log_of_start hstart] at hlog
  have hentries : (e.after acts).log.entries = Audit.trail calls := by
    rw [hlog] at hd ⊢
    exact Session.Manager.entries_after hd
  have hread : ∀ c : Counter, (e.after acts).state.counts c +
      (if c = .accepted then (e.answers acts).countP Answer.accepts else 0) =
        ((e.after acts).log.entries.map c.read).sum := fun c => by
    -- at the start all counters are zero
    have hzero : e.state.counts c = 0 := by
      rw [state_of_start hstart]
      cases c <;> rfl
    rw [hentries, Counter.sum_read_trail, hcounts c, hzero, Nat.zero_add]
  have hcount : ∀ (c : Counter) {n : Nat} {name : String}, (e.after acts).state.counts c = n → c ≠ .accepted →
      c.read = Counter.once name → n = ((e.after acts).log.byEvent name).length := fun c n name hn hc hname => by
    have hsum := hread c
    rwa [if_neg hc, Nat.add_zero, hn, hname, Counter.sum_once] at hsum
  have hevicted : (e.after acts).state.counts .snapshotsEvicted = _ := hread .snapshotsEvicted
  have haccepted : (e.answers acts).countP Answer.accepts = _ := (Nat.zero_add _).symm.trans (hread .accepted)
  refine
    { created := hcount .created (Nat.zero_add _) nofun rfl
      expired := hcount .expired (Nat.zero_add _) nofun rfl
      destroyed := hcount .destroyed (Nat.zero_add _) nofun rfl
      discarded := hcount .discarded (Nat.zero_add _) nofun rfl
      snapshotsCreated := hcount .snapshotsCreated (Nat.zero_add _) nofun rfl
      snapshotsEvicted := ?_
      rateLimited := hcount .rateLimited rfl nofun rfl
      bannedRejections := hcount .bannedRejections rfl nofun rfl
      bansCreated := hcount .bansCreated rfl nofun rfl
      accepted := by rw [haccepted, Counter.read, Counter.sum_once] }
  have hsum : (e.after acts).state.counts .snapshotsEvicted = ((e.after acts).stats now).sessions.snapshotsEvicted :=
    Nat.zero_add _
  rw [← hsum, hevicted, Counter.read, List.sum_map_add, List.sum_map_add, Counter.sum_each, Counter.sum_each,
    Counter.sum_each]

/-- Queues for one snapshot, and one request of an address in a minute. -/
def countedSettings : Settings :=
  { sessions := { ttlSecs := 60, maxHistory := 1, maxDetached := 1 }
    limits := { ip := { maxRequests := 1, windowSecs := 60 } } }

/-- Requests that are accepted, not understood, one too many and banned; snapshots that are pushed out of both queues; a
session that is destroyed and one whose time is over. -/
def countedRun : Actions :=
  [(0, .transform ⟨"a", "s"⟩ ⟨"hide the banner", "192.0.2.1", "agent", none⟩),
    (1, .sessions (.createSnapshot "u" "a" (.ofChanges []) none)), (2, .undo "a" 1),
    (3, .sessions (.createSnapshot "v" "a" (.ofChanges []) none)), (4, .reset "a"),
    (5, .transform ⟨"b", "x"⟩ ⟨"nice", "192.0.2.2", "", none⟩),
    (6, .transform ⟨"c", "y"⟩ ⟨"hide the banner", "192.0.2.1", "agent", none⟩),
    (7, .ban (.ip "192.0.2.3") "spam" none), (8, .transform ⟨"d", "z"⟩ ⟨"hide the banner", "192.0.2.3", "", none⟩),
    (9, .sessions (.createOrGet "e" none "192.0.2.4" "agent")), (10, .sessions (.destroy "e")),
    (60005, .state "a"), (60006, .sweep)]

/-- What the sessions have counted then. -/
def countedSessions : Session.Stats :=
  { activeSessions := 0, storedSnapshots := 0, sessionsCreated := 3, sessionsExpired := 1, sessionsDestroyed := 1,
    sessionsDiscarded := 1, snapshotsCreated := 3, snapshotsEvicted := 2 }

/-- What the limiter has counted. -/
def countedLimits : Limit.Stats :=
  { allowed := 4, rateLimited := 1, bannedRejections := 1, bansCreated := 1, activeBans := 1, trackedKeys := 4 }

theorem counters_told_counted :
    ∃ e, start countedSettings = .ok e ∧ (e.after countedRun).log.dropped = 0 ∧
      ((e.after countedRun).stats 60007).sessions = countedSessions ∧
      ((e.after countedRun).stats 60007).limits = countedLimits ∧
      (e.answers countedRun).countP Answer.accepts = 1 ∧
      CountersTold ((e.after countedRun).stats 60007) ((e.answers countedRun).countP Answer.accepts)
        (e.after countedRun).log := by
  obtain ⟨e, he⟩ := exists_start (s := countedSettings) (by decide)
  have hlast : let last := (lenientEngine countedSettings).after countedRun
      last.log.dropped = 0 ∧ (last.log.byEvent "transform_accepted").length = 1 ∧
        last.state.sessions.stats = countedSessions ∧ last.state.limiter.stats 60007 = countedLimits := by
    decide +kernel
  obtain ⟨hstate, hlog⟩ := after_lenient he rfl countedRun (by decide)
  dsimp only at hlast
  rw [← hstate, ← hlog] at hlast
  obtain ⟨hd, haccepted, hsessions, hlimits⟩ := hlast
  have htold := counters_told countedSettings e he countedRun hd 60007
  exact ⟨e, he, hd, hsessions, hlimits, htold.accepted.trans haccepted, htold⟩

end Engine

end SiteEdit
