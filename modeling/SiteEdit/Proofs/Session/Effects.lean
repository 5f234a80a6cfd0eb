import SiteEdit.Proofs.Session.Run
import SiteEdit.Proofs.Store
/-!
# What the operations of the manager do

An operation finds its session missing, over or live.  For each of the three there is one equation for an operation;
`createOrGet_cases` says what becomes of a presented id.
-/
namespace SiteEdit.Session

/-! ## Histories -/

namespace Entry

theorem popBack_eq : ∀ (n : Nat) (e : Entry),
    e.popBack n = ({ e with history := (e.history.reverse.drop n).reverse }, e.history.reverse.take n)
  | 0, e => by
    rw [List.drop_zero, List.reverse_reverse, List.take_zero]
    rfl
  | n + 1, e => by
    rw [popBack, popBack_eq n]
    dsimp only
    rw [← List.head?_reverse, ← List.tail_reverse]
    cases e.history.reverse <;> simp

/-- What is popped is the end of the history. -/
theorem pop_eq (e : Entry) (n : Nat) :
    e.pop n = ({ e with history := e.history.take (e.history.length - n) },
      (e.history.drop (e.history.length - n)).reverse) := by
  have hkept : e.history.length - min n e.history.length = e.history.length - n := by omega
  rw [pop, popBack_eq, List.drop_reverse, List.reverse_reverse, List.take_reverse, hkept]

@[simp] theorem pop_session (e : Entry) (n : Nat) : (e.pop n).1.session = e.session := by rw [pop_eq]

@[simp] theorem pop_detached (e : Entry) (n : Nat) : (e.pop n).1.detached = e.detached := by rw [pop_eq]

theorem mem_pop {e : Entry} {n : Nat} {x : String} (h : x ∈ (e.pop n).2) : x ∈ e.history := by
  rw [pop_eq] at h
  exact List.mem_of_mem_drop (List.mem_reverse.1 h)

/-- Nothing is popped beyond the whole history. -/
theorem pop_of_le (e : Entry) {n : Nat} (h : e.history.length ≤ n) : e.pop n = e.drain := by
  rw [pop_eq, Nat.sub_eq_zero_of_le h]
  rfl

end Entry

namespace Manager

open Audit (Audited Event)

variable {m : Manager} {now : Millis} {id fresh : String} {e : Entry}

/-! ## How a session stands -/

/-- The session is stored and its time is over. -/
def Over (m : Manager) (now : Millis) (id : String) (e : Entry) : Prop :=
  m.sessions.get? id = some e ∧ e.session.isExpired now = true

/-- The session is stored and its time is not over. -/
def Live (m : Manager) (now : Millis) (id : String) (e : Entry) : Prop :=
  m.sessions.get? id = some e ∧ e.session.isExpired now = false

theorem stands (m : Manager) (now : Millis) (id : String) :
    m.sessions.get? id = none ∨ (∃ e, m.Over now id e) ∨ ∃ e, m.Live now id e := by
  cases h : m.sessions.get? id with
  | none => exact .inl rfl
  | some e =>
    cases hx : e.session.isExpired now with
    | true => exact .inr (.inl ⟨e, h, hx⟩)
    | false => exact .inr (.inr ⟨e, h, hx⟩)

theorem withLive_of_none {α : Type} (h : m.sessions.get? id = none) (f : Entry → Entry × α) :
    m.withLive now id f = { result := .error (.notFound id), state := m } := by
  simp only [withLive, h]

theorem withLive_of_over {α : Type} (h : m.Over now id e) (f : Entry → Entry × α) :
    m.withLive now id f = (m.evict id).map fun _ => .error (.expired id) := by
  simp only [withLive, h.1, h.2, if_true]

theorem withLive_of_live {α : Type} (h : m.Live now id e) (f : Entry → Entry × α) :
    m.withLive now id f =
      { result := .ok (f e).2, state := { m with sessions := m.sessions.adjust id fun _ => (f e).1 } } := by
  simp only [withLive, h.1, h.2, Bool.false_eq_true, if_false]

/-! ## Eviction -/

@[simp] theorem evict_sessions (m : Manager) (id : String) : (m.evict id).state.sessions = m.sessions.erase id := rfl

@[simp] theorem evict_snapshots (m : Manager) (id : String) :
    (m.evict id).state.snapshots = m.snapshots.filter fun _ s => s.sessionId != id := rfl

/-! ## Snapshots -/

theorem createSnapshot_of_none (h : m.sessions.get? id = none) (hf : m.snapshots.get? fresh = none) (d : Document)
    (text : Option String) :
    m.createSnapshot now fresh id d text = { result := .error (.notFound id), state := m } := by
  simp only [createSnapshot, withLive, h, Audited.next, dropSnapshots, List.foldl_cons, List.foldl_nil,
    Store.erase_insert _ hf, List.append_nil]

/-- The snapshot that is refused goes with those of the evicted session. -/
theorem createSnapshot_of_over (h : m.Over now id e) (hf : m.snapshots.get? fresh = none) (d : Document)
    (text : Option String) :
    (m.createSnapshot now fresh id d text).result = .error (.expired id) ∧
      (m.createSnapshot now fresh id d text).state = (m.evict id).state := by
  have hk : ((m.snapshots.insert fresh (.taken now fresh id d text)).filter fun _ s => s.sessionId != id)
      = m.snapshots.filter fun _ s => s.sessionId != id :=
    Store.filter_insert_of_neg hf (by simp [Snapshot.taken])
  have hg : (m.snapshots.filter fun _ s => s.sessionId != id).get? fresh = none := by
    rw [Store.get?_filter, hf]
    rfl
  unfold Snapshot.taken at hk
  simp only [createSnapshot, withLive, h.1, h.2, if_true, Audited.next, Audited.map, evict, dropSession, dropSnapshots,
    List.foldl_cons, List.foldl_nil, hk, Store.erase_of_get?_eq_none hg, and_self]

theorem createSnapshot_of_live (h : m.Live now id e) (d : Document) (text : Option String) :
    let pushed := e.push fresh m.settings.maxHistory.toNat
    (m.createSnapshot now fresh id d text).result = .ok (.taken now fresh id d text) ∧
      (m.createSnapshot now fresh id d text).state =
        { m with
          sessions := m.sessions.adjust id fun _ => (pushed.1.slide now m.settings.ttl).countTransform
          snapshots := pushed.2.foldl Store.erase (m.snapshots.insert fresh (.taken now fresh id d text))
          snapshotsCreated := m.snapshotsCreated + 1
          snapshotsEvicted := m.snapshotsEvicted + pushed.2.length } := by
  simp only [createSnapshot, withLive, h.1, h.2, Bool.false_eq_true, if_false, Audited.next, evictSnapshots,
    dropSnapshots, Snapshot.taken, and_self]

theorem takeBack_of_none (h : m.sessions.get? id = none) (steps : Nat) :
    m.takeBack now id steps = { result := .error (.notFound id), state := m } := by
  simp only [takeBack, withLive, h, Audited.next, List.append_nil]

theorem takeBack_of_over (h : m.Over now id e) (steps : Nat) :
    m.takeBack now id steps = (m.evict id).map fun _ => .error (.expired id) := by
  simp only [takeBack, withLive, h.1, h.2, if_true, Audited.next, Audited.map, List.append_nil]

theorem takeBack_of_live (h : m.Live now id e) (steps : Nat) :
    let popped := e.pop steps
    let queued := popped.1.detach popped.2 m.settings.maxDetached.toNat
    m.takeBack now id steps =
      { result := .ok (popped.2, queued.2, queued.1.current?)
        state :=
          { m with
            sessions := m.sessions.adjust id fun _ => queued.1.slide now m.settings.ttl
            snapshots := queued.2.foldl Store.erase m.snapshots
            snapshotsEvicted := m.snapshotsEvicted + queued.2.length } } := by
  simp only [takeBack, withLive, h.1, h.2, Bool.false_eq_true, if_false, Audited.next, evictSnapshots, dropSnapshots,
    List.append_nil, Entry.current?, Entry.slide]

/-! ## Operations on one session -/

/-- What an operation on one session can do: nothing, or it evicts the session, or it changes its entry and drops
snapshots. -/
inductive Touched (m : Manager) (now : Millis) (id : String) : Manager → Prop where
  | same : Touched m now id m
  | evicted (e : Entry) (h : m.Over now id e) : Touched m now id (m.evict id).state
  | changed (e e' : Entry) (gone : List String) (h : m.Live now id e) :
    Touched m now id
      { m with
        sessions := m.sessions.adjust id fun _ => e'
        snapshots := gone.foldl Store.erase m.snapshots
        snapshotsEvicted := m.snapshotsEvicted + gone.length }

theorem withLive_touched {α : Type} (m : Manager) (now : Millis) (id : String) (f : Entry → Entry × α) :
    m.Touched now id (m.withLive now id f).state := by
  rcases m.stands now id with h | ⟨e, h⟩ | ⟨e, h⟩
  · rw [withLive_of_none h]
    exact .same
  · rw [withLive_of_over h]
    exact .evicted e h
  · rw [withLive_of_live h]
    exact .changed e (f e).1 [] h

theorem takeBack_touched (m : Manager) (now : Millis) (id : String) (steps : Nat) :
    m.Touched now id (m.takeBack now id steps).state := by
  rcases m.stands now id with h | ⟨e, h⟩ | ⟨e, h⟩
  · rw [takeBack_of_none h]
    exact .same
  · rw [takeBack_of_over h]
    exact .evicted e h
  · rw [takeBack_of_live h]
    exact .changed e _ _ h

theorem Touched.settings {m' : Manager} (h : m.Touched now id m') : m'.settings = m.settings := by
  cases h <;> rfl

theorem undo_state (m : Manager) (now : Millis) (id : String) (steps : Nat) :
    (m.undo now id steps).state = (m.takeBack now id steps).state := by
  simp only [undo, Audited.next]
  split <;> rfl

theorem undo_touched (m : Manager) (now : Millis) (id : String) (steps : Nat) :
    m.Touched now id (m.undo now id steps).state := by
  rw [undo_state]
  exact m.takeBack_touched now id steps

theorem undo_result (h : m.Live now id e) (steps : Nat) :
    let queued := (e.pop steps).1.detach (e.pop steps).2 m.settings.maxDetached.toNat
    (m.undo now id steps).result =
      .ok { removed := (e.pop steps).2
            current := queued.1.current?.bind (m.undo now id steps).state.snapshots.get? } := by
  simp only [undo, takeBack_of_live h, Audited.next]

/-- How long the history of a session is. -/
def historyLength (m : Manager) (id : String) : Nat := ((m.sessions.get? id).map fun e => e.history.length).getD 0

theorem historyLength_of_live (h : m.Live now id e) : m.historyLength id = e.history.length := by
  unfold historyLength
  rw [h.1]
  rfl

/-- **To drain a history is to pop all of it**: a reset takes back as many snapshots as there are. -/
theorem reset_eq (m : Manager) (now : Millis) (id : String) :
    m.reset now id = (m.takeBack now id (m.historyLength id)).next fun
      | .error e, m => { result := .error e, state := m }
      | .ok (removed, purged, _), m =>
        { result := .ok { removed := removed, current := none }
          state := m
          events := [note "session_reset" id [("removed", Json.ofStrings removed),
            ("purged", Json.ofStrings purged)]] } := by
  unfold reset
  rcases m.stands now id with h | ⟨e, h⟩ | ⟨e, h⟩
  · rw [withLive_of_none h, takeBack_of_none h]
    rfl
  · rw [withLive_of_over h, takeBack_of_over h]
    rfl
  · rw [withLive_of_live h, takeBack_of_live h, historyLength_of_live h, e.pop_of_le (Nat.le_refl _)]
    rfl

theorem reset_state (m : Manager) (now : Millis) (id : String) :
    (m.reset now id).state = (m.takeBack now id (m.historyLength id)).state := by
  simp only [reset_eq, Audited.next]
  split <;> rfl

theorem reset_touched (m : Manager) (now : Millis) (id : String) : m.Touched now id (m.reset now id).state := by
  rw [reset_state]
  exact m.takeBack_touched now id _

theorem reset_result (h : m.Live now id e) :
    (m.reset now id).result = .ok { removed := (e.pop (m.historyLength id)).2, current := none } := by
  simp only [reset_eq, takeBack_of_live h, Audited.next]

/-! ## Starting -/

/-- Whether the session that a client presents is stored and its time is over. -/
def lapses (m : Manager) (now : Millis) (presented : Option String) (id : String) : Bool :=
  presented == some id && (m.sessions.get? id).any fun e => e.session.isExpired now

/-- The manager without the session that a client presents, if the time of that session is over. -/
def lapsed (m : Manager) (now : Millis) : Option String → Manager
  | none => m
  | some id => if m.lapses now (some id) id then (m.evict id).state else m

theorem lapses_of_over (h : m.Over now id e) : m.lapses now (some id) id = true := by
  simp [lapses, h.1, h.2]

theorem lapses_of_live (h : m.Live now id e) : m.lapses now (some id) id = false := by
  simp [lapses, h.1, h.2]

theorem lapses_of_none (h : m.sessions.get? id = none) (presented : Option String) :
    m.lapses now presented id = false := by
  simp [lapses, h]

theorem lapses_of_ne {presented : Option String} (h : presented ≠ some id) : m.lapses now presented id = false := by
  simp [lapses, h]

/-- At most the presented session lapses, and then it is evicted. -/
theorem lapsed_cases (m : Manager) (now : Millis) (presented : Option String) :
    ((∀ k, m.lapses now presented k = false) ∧ m.lapsed now presented = m) ∨
      ∃ id, (∀ k, m.lapses now presented k = (k == id)) ∧ m.lapsed now presented = (m.evict id).state := by
  cases presented with
  | none => exact .inl ⟨fun _ => rfl, rfl⟩
  | some id =>
    have hne : ∀ k, k ≠ id → m.lapses now (some id) k = false := fun k hk =>
      lapses_of_ne fun h => hk (Option.some.inj h).symm
    cases hl : m.lapses now (some id) id with
    | true =>
      refine .inr ⟨id, fun k => ?_, if_pos hl⟩
      by_cases hk : k = id
      · rw [hk, hl, beq_self_eq_true]
      · rw [hne k hk, beq_eq_false_iff_ne.2 hk]
    | false =>
      refine .inl ⟨fun k => ?_, if_neg (by rw [hl]; exact Bool.false_ne_true)⟩
      by_cases hk : k = id
      · rw [hk, hl]
      · exact hne k hk

theorem lapsed_sessions (m : Manager) (now : Millis) (presented : Option String) :
    (m.lapsed now presented).sessions = m.sessions.filter fun k _ => !m.lapses now presented k := by
  rcases m.lapsed_cases now presented with ⟨hn, h⟩ | ⟨id, hk, h⟩
  · rw [h, Store.filter_eq_self fun k _ _ => by rw [hn, Bool.not_false]]
  · rw [h, evict_sessions]
    exact Store.filter_congr fun k _ _ => by rw [hk, bne]

theorem lapsed_snapshots (m : Manager) (now : Millis) (presented : Option String) :
    (m.lapsed now presented).snapshots = m.snapshots.filter fun _ s => !m.lapses now presented s.sessionId := by
  rcases m.lapsed_cases now presented with ⟨hn, h⟩ | ⟨id, hk, h⟩
  · rw [h, Store.filter_eq_self fun _ s _ => by rw [hn, Bool.not_false]]
  · rw [h, evict_snapshots]
    exact Store.filter_congr fun _ s _ => by rw [hk, bne]

theorem lapsed_settings (m : Manager) (now : Millis) (presented : Option String) :
    (m.lapsed now presented).settings = m.settings := by
  rcases m.lapsed_cases now presented with ⟨-, h⟩ | ⟨id, -, h⟩
  · rw [h]
  · rw [h]
    rfl

/-- A live session is reused by the client that it belongs to.  In every other case a session is started, without the
presented one if the time of that one is over. -/
theorem createOrGet_cases (m : Manager) (now : Millis) (fresh : String) (presented : Option String)
    (ip userAgent : String) :
    (∃ id e, presented = some id ∧ m.Live now id e ∧ e.session.identity = identityHash ip userAgent ∧
      m.createOrGet now fresh presented ip userAgent =
        { result := e.countRequest.session
          state := { m with sessions := m.sessions.adjust id Entry.countRequest } }) ∨
    ((∀ id e, presented = some id → m.Live now id e → e.session.identity ≠ identityHash ip userAgent) ∧
      let started := (m.lapsed now presented).create now fresh (identityHash ip userAgent)
      (m.createOrGet now fresh presented ip userAgent).result = started.result ∧
        (m.createOrGet now fresh presented ip userAgent).state = started.state) := by
  cases presented with
  | none => exact .inr ⟨fun _ _ h => (by cases h), rfl, rfl⟩
  | some id =>
    rcases m.stands now id with h | ⟨e, h⟩ | ⟨e, h⟩
    · refine .inr ⟨fun k e hk hl => ?_, ?_⟩
      · cases hk
        rw [hl.1] at h
        cases h
      · simp only [createOrGet, Option.bind_some, h, Option.map_none, lapsed, lapses_of_none h, Bool.false_eq_true,
          if_false, and_self]
    · refine .inr ⟨fun k e' hk hl => ?_, ?_⟩
      · cases hk
        have hx := hl.2
        rw [show e' = e from Option.some.inj (hl.1.symm.trans h.1), h.2] at hx
        cases hx
      · simp only [createOrGet, Option.bind_some, h.1, Option.map_some, h.2, if_true, Audited.next, lapsed,
          lapses_of_over h, and_self]
    · by_cases hi : e.session.identity = identityHash ip userAgent
      · refine .inl ⟨id, e, rfl, h, hi, ?_⟩
        simp only [createOrGet, Option.bind_some, h.1, Option.map_some, h.2, Bool.false_eq_true, if_false, hi, if_true]
      · refine .inr ⟨fun k e' hk hl => ?_, ?_⟩
        · cases hk
          rwa [show e' = e from Option.some.inj (hl.1.symm.trans h.1)]
        · simp only [createOrGet, Option.bind_some, h.1, Option.map_some, h.2, Bool.false_eq_true, if_false, hi,
            Audited.next, lapsed, lapses_of_live h, and_self]

/-! ## Settings -/

theorem evictAll_settings : ∀ (ids : List String) (m : Manager), (m.evictAll ids).state.settings = m.settings
  | [], _ => rfl
  | id :: ids, m => evictAll_settings ids (m.evict id).state

theorem perform_settings (m : Manager) (now : Millis) (act : Action) :
    (m.perform now act).state.settings = m.settings := by
  cases act with
  | createOrGet fresh presented ip userAgent =>
    rcases m.createOrGet_cases now fresh presented ip userAgent with ⟨_, _, -, -, -, hr⟩ | ⟨-, -, hr⟩
    · show (m.createOrGet now fresh presented ip userAgent).state.settings = _
      rw [hr]
    · show (m.createOrGet now fresh presented ip userAgent).state.settings = _
      rw [hr]
      exact m.lapsed_settings now presented
  | renew id => exact (m.withLive_touched now id _).settings
  | createSnapshot fresh id document text =>
    simp only [perform, createSnapshot, Audited.next, Audited.map]
    split
    · exact (withLive_touched _ now id _).settings
    · exact (withLive_touched _ now id _).settings
  | undo id steps => exact (m.undo_touched now id steps).settings
  | reset id => exact (m.reset_touched now id).settings
  | session id => exact (m.withLive_touched now id _).settings
  | state id => exact (m.withLive_touched now id _).settings
  | history id => exact (m.withLive_touched now id fun e => (e, e.history)).settings
  | snapshot id => rfl
  | stats => rfl
  | destroy id =>
    simp only [perform, destroy, Audited.map]
    split
    · rfl
    · rfl
  | discardUnused id =>
    simp only [perform, discardUnused, Audited.map]
    split
    · rfl
    · rfl
  | sweep => exact evictAll_settings _ m

theorem run_settings : ∀ (acts : Actions) (m : Manager), (m.run acts).settings = m.settings
  | [], _ => rfl
  | (now, act) :: acts, m => (run_settings acts (m.perform now act).state).trans (m.perform_settings now act)

end Manager

end SiteEdit.Session
