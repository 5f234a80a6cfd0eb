import SiteEdit.Proofs.Session.Sound
/-!
# Sessions whose time is over

An answer shows only live sessions and their snapshots (`Shown`), but for a snapshot that is asked for by its own id.
A session whose time is over stays as it is until an action comes across it, which drops it (`ended_run`).  So it is
shown exactly when one of its snapshots is asked for before that.
-/
namespace SiteEdit.Session

open Audit (Audited)

/-! ## What an answer shows -/

namespace Answer

/-- The ids of the sessions that an answer shows, themselves or by a snapshot. -/
def sessionIds : Answer → List String
  | started s => [s.id]
  | session (.ok s) => [s.id]
  | snapshot (.ok s) => [s.sessionId]
  | undone (.ok o) => o.current.toList.map Snapshot.sessionId
  | state (.ok s) => [s.sessionId]
  | history (.ok ss) => ss.map Snapshot.sessionId
  | found s => s.toList.map Snapshot.sessionId
  | _ => []

/-- The ids of the snapshots that an answer shows or names. -/
def snapshotIds : Answer → List String
  | snapshot (.ok s) => [s.id]
  | undone (.ok o) => o.removed ++ o.current.toList.map Snapshot.id
  | state (.ok s) => s.currentSnapshotId.toList
  | history (.ok ss) => ss.map Snapshot.id
  | found s => s.toList.map Snapshot.id
  | _ => []

end Answer

/-- The snapshot that an action takes, and the session that it takes it for. -/
def Action.taken? : Action → Option (String × String)
  | createSnapshot fresh id _ _ => some (fresh, id)
  | _ => none

/-- The snapshots that actions take, each with its session. -/
def Actions.taken (acts : Actions) : List (String × String) := acts.filterMap fun a => a.2.taken?

/-- An answer shows the session `id`, a snapshot of it, or the id of one that the actions `acts` take for it. -/
def Answer.Shows (r : Answer) (acts : Actions) (id : String) : Prop :=
  id ∈ r.sessionIds ∨ ∃ x ∈ r.snapshotIds, (x, id) ∈ acts.taken

instance (r : Answer) (acts : Actions) (id : String) : Decidable (r.Shows acts id) :=
  inferInstanceAs (Decidable (_ ∨ ∃ x ∈ r.snapshotIds, (x, id) ∈ acts.taken))

theorem Actions.taken_append (acts acts' : Actions) : taken (acts ++ acts') = taken acts ++ taken acts' :=
  List.filterMap_append

theorem Actions.taken_keys (acts : Actions) : acts.taken.map Prod.fst = acts.snapshotIds := by
  unfold taken snapshotIds
  rw [List.map_filterMap]
  refine List.filterMap_congr fun a _ => ?_
  cases a.2 <;> rfl

/-- A snapshot is taken for one session only. -/
theorem Actions.Fresh.taken_inj {acts : Actions} (h : acts.Fresh) {x k k' : String} (hk : (x, k) ∈ acts.taken)
    (hk' : (x, k') ∈ acts.taken) : k = k' := by
  have hnd : (acts.taken.map Prod.fst).Nodup := by
    rw [acts.taken_keys]
    exact h.snapshots
  exact congrArg Prod.snd (List.inj_on_of_nodup_map hnd hk hk' rfl)

namespace Manager

variable {m : Manager} {now t : Millis} {id k x fresh : String} {e : Entry} {act : Action} {acts : Actions}

/-- What is stored was taken by one of the actions, for the session that it names. -/
def TakenBy (m : Manager) (acts : Actions) : Prop :=
  ∀ x s, m.snapshots.get? x = some s → (x, s.sessionId) ∈ acts.taken

theorem taken_of_run : ∀ (acts : Actions) {m : Manager}, m.Free acts → ∀ {x : String} {s : Snapshot},
    (m.run acts).snapshots.get? x = some s → m.snapshots.get? x = some s ∨ (x, s.sessionId) ∈ acts.taken
  | [], _, _, _, _, hs => .inl hs
  | (now, act) :: acts, m, h, x, s, hs => by
    rw [show (now, act) :: acts = [(now, act)] ++ acts from rfl, Actions.taken_append]
    rcases taken_of_run acts h.perform hs with hs | ht
    · rcases snapshot_of_perform hs with hs | ⟨id, document, text, rfl, rfl⟩
      · exact .inl hs
      · exact .inr (List.mem_append_left _ List.mem_cons_self)
    · exact .inr (List.mem_append_right _ ht)

/-- What an answer shows is of a session that is live, or that the action starts.  What it shows of snapshots is stored
for such a session, or the action takes it. -/
structure Shown (m : Manager) (now : Millis) (act : Action) (r : Answer) : Prop where
  sessions : ∀ k ∈ r.sessionIds, act.sessionId? = some k ∨ ∃ e, m.Live now k e
  snapshots : ∀ x ∈ r.snapshotIds, ∃ k e, m.Live now k e ∧
    (act.taken? = some (x, k) ∨ ∃ s, m.snapshots.get? x = some s ∧ s.sessionId = k)

namespace Shown

theorem nothing {r : Answer} (hs : r.sessionIds = []) (hn : r.snapshotIds = []) : m.Shown now act r where
  sessions k hk := by
    rw [hs] at hk
    cases hk
  snapshots x hx := by
    rw [hn] at hx
    cases hx

/-- An action that needs a live session answers with an error if there is none. -/
theorem of_stands {α : Type} (id : String) {answer : Except Error α → Answer} {r : Except Error α}
    (he : ∀ error, (answer (.error error)).sessionIds = [] ∧ (answer (.error error)).snapshotIds = [])
    (hn : m.sessions.get? id = none → ∃ error, r = .error error) (ho : ∀ e, m.Over now id e → ∃ error, r = .error error)
    (hl : ∀ e, m.Live now id e → m.Shown now act (answer r)) : m.Shown now act (answer r) := by
  rcases m.stands now id with h | ⟨e, h⟩ | ⟨e, h⟩
  · obtain ⟨error, rfl⟩ := hn h
    exact .nothing (he error).1 (he error).2
  · obtain ⟨error, rfl⟩ := ho e h
    exact .nothing (he error).1 (he error).2
  · exact hl e h

theorem of_withLive {α : Type} {f : Entry → Entry × α} (answer : Except Error α → Answer)
    (he : ∀ error, (answer (.error error)).sessionIds = [] ∧ (answer (.error error)).snapshotIds = [])
    (hl : ∀ e, m.Live now id e → m.Shown now act (answer (.ok (f e).2))) :
    m.Shown now act (answer (m.withLive now id f).result) := by
  refine of_stands id he (fun h => ?_) (fun e h => ?_) fun e h => ?_
  · rw [withLive_of_none h]
    exact ⟨_, rfl⟩
  · rw [withLive_of_over h]
    exact ⟨_, rfl⟩
  · rw [withLive_of_live h]
    exact hl e h

theorem session (hl : m.Live now id e) {s : Session} (hs : s.id = id) : m.Shown now act (.session (.ok s)) where
  sessions k hk := by
    obtain rfl := List.mem_singleton.1 hk
    exact .inr ⟨e, hs ▸ hl⟩
  snapshots _ hx := nomatch hx

/-- A snapshot that a live session lists is stored for it. -/
theorem stored (h : m.Sound) (hl : m.Live now id e) (hx : x ∈ e.history) :
    ∃ k e, m.Live now k e ∧ (act.taken? = some (x, k) ∨ ∃ s, m.snapshots.get? x = some s ∧ s.sessionId = k) :=
  ⟨id, e, hl, .inr (h.owned.stored hl.1 (List.mem_append_left _ hx))⟩

theorem createOrGet (h : m.Sound) (fresh : String) (presented : Option String) (ip userAgent : String) :
    m.Shown now (.createOrGet fresh presented ip userAgent)
      (.started (m.createOrGet now fresh presented ip userAgent).result) where
  sessions k hk := by
    obtain rfl := List.mem_singleton.1 hk
    rcases m.createOrGet_cases now fresh presented ip userAgent with ⟨id, e, -, hl, -, hr⟩ | ⟨-, hr, -⟩
    · rw [hr]
      have hid : e.countRequest.session.id = id := (h.fits id e hl.1).id
      exact .inr ⟨e, hid.symm ▸ hl⟩
    · rw [hr]
      exact .inl rfl
  snapshots _ hx := nomatch hx

theorem createSnapshot (hf : m.snapshots.get? fresh = none) (document : Document) (text : Option String) :
    m.Shown now (.createSnapshot fresh id document text)
      (.snapshot (m.createSnapshot now fresh id document text).result) := by
  refine of_stands id (fun _ => ⟨rfl, rfl⟩) (fun h => ?_) (fun e h => ?_) fun e h => ?_
  · rw [createSnapshot_of_none h hf]
    exact ⟨_, rfl⟩
  · exact ⟨_, (createSnapshot_of_over h hf document text).1⟩
  · rw [(createSnapshot_of_live h document text).1]
    refine ⟨fun k hk => ?_, fun x hx => ?_⟩
    · obtain rfl := List.mem_singleton.1 hk
      exact .inr ⟨e, h⟩
    · obtain rfl := List.mem_singleton.1 hx
      exact ⟨id, e, h, .inl rfl⟩

theorem mem_of_current? {n cap : Nat} (hx : x ∈ ((e.pop n).1.detach (e.pop n).2 cap).1.current?) : x ∈ e.history := by
  rw [Entry.pop_eq] at hx
  exact List.mem_of_mem_take (List.mem_of_getLast? hx)

theorem undo (h : m.Sound) (steps : Nat) :
    m.Shown now (.undo id steps) (.undone (m.undo now id steps).result) := by
  refine of_stands id (fun _ => ⟨rfl, rfl⟩) (fun hn => ?_) (fun e ho => ?_) fun e hl => ?_
  · unfold Manager.undo
    rw [takeBack_of_none hn]
    exact ⟨_, rfl⟩
  · unfold Manager.undo
    rw [takeBack_of_over ho]
    exact ⟨_, rfl⟩
  · -- the newest snapshot that is left was stored before, as one of the same session
    have hleft : ∀ s x, x ∈ ((e.pop steps).1.detach (e.pop steps).2 m.settings.maxDetached.toNat).1.current? →
        (m.undo now id steps).state.snapshots.get? x = some s → x ∈ e.history ∧ s.id = x ∧ s.sessionId = id := by
      intro s x hx hs
      have hs := (m.undo_touched now id steps).within x s hs
      obtain ⟨s', hs', hid⟩ := h.owned.stored hl.1 (List.mem_append_left _ (mem_of_current? hx))
      obtain rfl := Option.some.inj (hs.symm.trans hs')
      exact ⟨mem_of_current? hx, h.owned.id x s hs, hid⟩
    rw [undo_result hl]
    refine ⟨fun k hk => ?_, fun x hx => ?_⟩
    · obtain ⟨s, hs, rfl⟩ := List.mem_map.1 hk
      obtain ⟨y, hy, hs⟩ := Option.bind_eq_some_iff.1 (Option.mem_toList.1 hs)
      obtain ⟨-, -, rfl⟩ := hleft s y hy hs
      exact .inr ⟨e, hl⟩
    · rcases List.mem_append.1 hx with hx | hx
      · exact stored h hl (Entry.mem_pop hx)
      · obtain ⟨s, hs, rfl⟩ := List.mem_map.1 hx
        obtain ⟨y, hy, hs⟩ := Option.bind_eq_some_iff.1 (Option.mem_toList.1 hs)
        obtain ⟨hy, rfl, -⟩ := hleft s y hy hs
        exact stored h hl hy

theorem reset (h : m.Sound) : m.Shown now (.reset id) (.undone (m.reset now id).result) := by
  refine of_stands id (fun _ => ⟨rfl, rfl⟩) (fun hn => ?_) (fun e ho => ?_) fun e hl => ?_
  · rw [reset_eq, takeBack_of_none hn]
    exact ⟨_, rfl⟩
  · rw [reset_eq, takeBack_of_over ho]
    exact ⟨_, rfl⟩
  · rw [reset_result hl]
    refine ⟨fun _ hk => (nomatch hk), fun x hx => ?_⟩
    rcases List.mem_append.1 hx with hx | hx
    · exact stored h hl (Entry.mem_pop hx)
    · cases hx

theorem history (h : m.Sound) : m.Shown now (.history id) (.history (m.history now id).result) := by
  refine of_withLive (fun r => .history (r.map fun ids : List String => ids.filterMap m.snapshots.get?))
    (fun _ => ⟨rfl, rfl⟩) fun e hl => ?_
  have hmem : ∀ s ∈ e.history.filterMap m.snapshots.get?, s.id ∈ e.history ∧ s.sessionId = id := by
    intro s hs
    obtain ⟨x, hx, hs⟩ := List.mem_filterMap.1 hs
    obtain ⟨s', hs', hid⟩ := h.owned.stored hl.1 (List.mem_append_left _ hx)
    obtain rfl := Option.some.inj (hs.symm.trans hs')
    exact ⟨(h.owned.id x s hs).symm ▸ hx, hid⟩
  refine ⟨fun k hk => ?_, fun x hx => ?_⟩
  · obtain ⟨s, hs, rfl⟩ := List.mem_map.1 hk
    exact .inr ⟨e, (hmem s hs).2.symm ▸ hl⟩
  · obtain ⟨s, hs, rfl⟩ := List.mem_map.1 hx
    exact stored h hl (hmem s hs).1

theorem state (h : m.Sound) : m.Shown now (.state id) (.state (m.state now id).result) := by
  refine of_withLive .state (fun _ => ⟨rfl, rfl⟩) fun e hl => ?_
  refine ⟨fun k hk => ?_, fun x hx => ?_⟩
  · have hk : k = id := (List.mem_singleton.1 hk).trans (h.fits id e hl.1).id
    exact .inr ⟨e, hk ▸ hl⟩
  · exact stored h hl (List.mem_of_getLast? (Option.mem_toList.1 hx))

/-- **What an answer shows is live**, but for a snapshot that is asked for by its own id. -/
theorem perform (h : m.Sound) (now : Millis) (hn : ∀ id ∈ act.snapshotId?, m.snapshots.get? id = none)
    (ha : ∀ x, act ≠ .snapshot x) : m.Shown now act (m.perform now act).result := by
  cases act with
  | createOrGet fresh presented ip userAgent => exact createOrGet h fresh presented ip userAgent
  | renew id =>
    exact of_withLive .session (fun _ => ⟨rfl, rfl⟩) fun e hl => session hl (h.fits id e hl.1).id
  | createSnapshot fresh id document text => exact createSnapshot (hn fresh rfl) document text
  | undo id steps => exact undo h steps
  | reset id => exact reset h
  | session id =>
    exact of_withLive .session (fun _ => ⟨rfl, rfl⟩) fun e hl => session hl (h.fits id e hl.1).id
  | state id => exact state h
  | history id => exact history h
  | snapshot x => exact absurd rfl (ha x)
  | stats => exact .nothing rfl rfl
  | destroy id => exact .nothing rfl rfl
  | discardUnused id => exact .nothing rfl rfl
  | sweep => exact .nothing rfl rfl

end Shown

/-! ## A session whose time is over -/

end Manager

/-- Whether an action comes across a session.  It drops it then if its time is over. -/
def Action.visits (id : String) : Action → Bool
  | createOrGet _ presented _ _ => presented == some id
  | renew k | createSnapshot _ k _ _ | undo k _ | reset k | session k | state k | history k | destroy k => k == id
  | sweep => true
  | snapshot _ | stats | discardUnused _ => false

/-- Whether an action drops a session with this entry when its time is over. -/
def Action.drops (id : String) (e : Entry) : Action → Bool
  | discardUnused k => k == id && e.isUnused
  | act => act.visits id

theorem Action.drops_of_used {id : String} {e : Entry} (h : e.isUnused = false) (act : Action) :
    act.drops id e = act.visits id := by
  cases act with
  | discardUnused k => exact (congrArg ((k == id) && ·) h).trans (Bool.and_false _)
  | _ => rfl

theorem Action.visits_of_not_drops {id : String} {e : Entry} {act : Action} (h : act.drops id e = false) :
    act.visits id = false := by
  cases act with
  | discardUnused k => rfl
  | _ => exact h

namespace Manager

variable {m : Manager} {now t : Millis} {id k x fresh : String} {e : Entry} {act : Action} {acts : Actions}

/-- The session is not stored, or its time is over. -/
def Ended (m : Manager) (now : Millis) (id : String) : Prop :=
  ∀ e, m.sessions.get? id = some e → e.session.isExpired now = true

theorem Ended.not_live (h : m.Ended now id) : ¬ m.Live now id e := by
  rintro ⟨he, hx⟩
  rw [h e he] at hx
  cases hx

theorem Ended.mono (h : m.Ended now id) (ht : now ≤ t) : m.Ended t id := fun e he =>
  decide_eq_true (Int.le_trans (of_decide_eq_true (h e he)) ht)

theorem Over.mono (h : m.Over now id e) (ht : now ≤ t) : m.Over t id e :=
  ⟨h.1, decide_eq_true (Int.le_trans (of_decide_eq_true h.2) ht)⟩

theorem get?_erase_of_over (h : m.Over now id e) (k : String) :
    (m.sessions.erase k).get? id = if k == id then none else some e := by
  rw [Store.get?_erase, h.1]
  by_cases hk : k = id
  · rw [if_pos hk.symm, if_pos (beq_iff_eq.2 hk)]
  · rw [if_neg (Ne.symm hk), if_neg (mt beq_iff_eq.1 hk)]

/-- A change of a live session leaves one whose time is over. -/
theorem get?_adjust_of_over (h : m.Over now id e) {e₁ : Entry} (hl : m.Live now k e₁) (f : Entry → Entry) :
    (m.sessions.adjust k f).get? id = if k == id then none else some e := by
  have hk : k ≠ id := by
    rintro rfl
    have hx := hl.2
    rw [Option.some.inj (hl.1.symm.trans h.1), h.2] at hx
    cases hx
  rw [Store.get?_adjust, if_neg hk.symm, h.1, if_neg (mt beq_iff_eq.1 hk)]

theorem get?_of_not_stored (h : m.Over now id e) (hk : m.sessions.get? k = none) :
    m.sessions.get? id = if k == id then none else some e := by
  rw [h.1, if_neg]
  intro hki
  rw [beq_iff_eq.1 hki, h.1] at hk
  cases hk

/-- An action on the session `k` drops it if its time is over, and changes it if it is live. -/
theorem get?_of_stands (h : m.Over now id e) {m' : Manager} (k : String)
    (hn : m.sessions.get? k = none → m'.sessions = m.sessions)
    (ho : ∀ e₁, m.Over now k e₁ → m'.sessions = m.sessions.erase k)
    (hl : ∀ e₁, m.Live now k e₁ → ∃ e₂, m'.sessions = m.sessions.adjust k fun _ => e₂) :
    m'.sessions.get? id = if k == id then none else some e := by
  rcases m.stands now k with hk | ⟨e₁, hk⟩ | ⟨e₁, hk⟩
  · rw [hn hk]
    exact get?_of_not_stored h hk
  · rw [ho e₁ hk]
    exact get?_erase_of_over h k
  · obtain ⟨e₂, hlive⟩ := hl e₁ hk
    rw [hlive]
    exact get?_adjust_of_over h hk _

theorem withLive_over (h : m.Over now id e) {α : Type} (k : String) (f : Entry → Entry × α) :
    (m.withLive now k f).state.sessions.get? id = if k == id then none else some e := by
  refine get?_of_stands h k (fun hk => ?_) (fun e₁ hk => ?_) fun e₁ hk => ?_
  · rw [withLive_of_none hk]
  · rw [withLive_of_over hk]
    rfl
  · rw [withLive_of_live hk]
    exact ⟨_, rfl⟩

theorem takeBack_over (h : m.Over now id e) (k : String) (steps : Nat) :
    (m.takeBack now k steps).state.sessions.get? id = if k == id then none else some e := by
  refine get?_of_stands h k (fun hk => ?_) (fun e₁ hk => ?_) fun e₁ hk => ?_
  · rw [takeBack_of_none hk]
  · rw [takeBack_of_over hk]
    rfl
  · rw [takeBack_of_live hk]
    exact ⟨_, rfl⟩

theorem createSnapshot_over (h : m.Over now id e) (hf : m.snapshots.get? fresh = none) (k : String)
    (document : Document) (text : Option String) :
    (m.createSnapshot now fresh k document text).state.sessions.get? id = if k == id then none else some e := by
  refine get?_of_stands h k (fun hk => ?_) (fun e₁ hk => ?_) fun e₁ hk => ?_
  · rw [createSnapshot_of_none hk hf]
  · rw [(createSnapshot_of_over hk hf document text).2]
    rfl
  · rw [(createSnapshot_of_live hk document text).2]
    exact ⟨_, rfl⟩

theorem createOrGet_over (h : m.Over now id e) (hf : m.sessions.get? fresh = none) (presented : Option String)
    (ip userAgent : String) :
    (m.createOrGet now fresh presented ip userAgent).state.sessions.get? id =
      if presented == some id then none else some e := by
  rcases m.createOrGet_cases now fresh presented ip userAgent with ⟨k, e₁, rfl, hl, -, hr⟩ | ⟨-, -, hr⟩
  · rw [hr]
    exact get?_adjust_of_over h hl _
  · rw [hr]
    have hne : id ≠ fresh := by
      rintro rfl
      rw [h.1] at hf
      cases hf
    show ((m.lapsed now presented).sessions.insert fresh _).get? id = _
    rw [Store.get?_insert, if_neg hne, lapsed_sessions, Store.get?_filter, h.1, Option.filter_some]
    unfold lapses
    rw [h.1, Option.any_some, h.2, Bool.and_true]
    cases presented == some id <;> rfl

theorem mem_overdue : id ∈ m.overdue now ↔ ∃ e, m.Over now id e := by
  unfold overdue
  simp only [List.mem_map, List.mem_filter, Store.mem_toSorted]
  constructor
  · rintro ⟨⟨k, e⟩, ⟨he, hx⟩, rfl⟩
    exact ⟨e, Store.get?_eq_some_iff.2 he, hx⟩
  · rintro ⟨e, he, hx⟩
    exact ⟨(id, e), ⟨Store.get?_eq_some_iff.1 he, hx⟩, rfl⟩

theorem nodup_overdue (m : Manager) (now : Millis) : (m.overdue now).Nodup :=
  (m.sessions.toSorted_keys_lt.sublist (List.filter_sublist.map _)).imp fun h => String.ne_of_lt h

theorem evictAll_sessions : ∀ (ids : List String) (m : Manager),
    (m.evictAll ids).state.sessions = ids.foldl Store.erase m.sessions
  | [], _ => rfl
  | id :: ids, m => evictAll_sessions ids (m.evict id).state

theorem destroy_over (h : m.Over now id e) (k : String) :
    (m.destroy k).state.sessions.get? id = if k == id then none else some e := by
  unfold destroy
  split
  · rename_i hk
    exact get?_of_not_stored h hk
  · exact get?_erase_of_over h k

theorem discardUnused_over (h : m.Over now id e) (k : String) :
    (m.discardUnused k).state.sessions.get? id = if k == id && e.isUnused then none else some e := by
  unfold discardUnused
  cases hk : k == id with
  | true =>
    rw [beq_iff_eq.1 hk, h.1, Option.any_some, Bool.true_and]
    split
    · exact (get?_erase_of_over h id).trans (if_pos (beq_self_eq_true id))
    · exact h.1
  | false =>
    rw [Bool.false_and]
    split
    · exact (get?_erase_of_over h k).trans (congrArg (if · then none else some e) hk)
    · exact h.1

/-- **What becomes of a session whose time is over**: an action that comes across it drops it, any other leaves it as
it is. -/
theorem perform_over (h : m.Over now id e) (hs : ∀ id ∈ act.sessionId?, m.sessions.get? id = none)
    (hn : ∀ id ∈ act.snapshotId?, m.snapshots.get? id = none) :
    (m.perform now act).state.sessions.get? id = if act.drops id e then none else some e := by
  cases act with
  | createOrGet fresh presented ip userAgent => exact createOrGet_over h (hs fresh rfl) presented ip userAgent
  | renew k => exact withLive_over h k _
  | createSnapshot fresh k document text => exact createSnapshot_over h (hn fresh rfl) k document text
  | undo k steps =>
    show (m.undo now k steps).state.sessions.get? id = _
    rw [undo_state]
    exact takeBack_over h k steps
  | reset k =>
    show (m.reset now k).state.sessions.get? id = _
    rw [reset_state]
    exact takeBack_over h k _
  | session k => exact withLive_over h k _
  | state k => exact withLive_over h k _
  | history k => exact withLive_over h k fun e => (e, e.history)
  | snapshot x => exact h.1
  | stats => exact h.1
  | destroy k => exact destroy_over h k
  | discardUnused k => exact discardUnused_over h k
  | sweep =>
    show (m.evictAll (m.overdue now)).state.sessions.get? id = _
    rw [evictAll_sessions, Store.get?_eraseAll, if_pos (mem_overdue.2 ⟨e, h⟩)]
    rfl

/-! ## Runs -/

/-- A session that was started is not started again. -/
theorem Free.notMem_right {acts' : Actions} (h : m.Free (acts ++ (acts' ++ [(t, act)]))) (hid : id ∈ acts.sessionIds) :
    id ∉ acts'.sessionIds ∧ act.sessionId? ≠ some id := by
  have hnd := h.fresh.sessions
  unfold Actions.sessionIds at hnd hid ⊢
  rw [List.filterMap_append, List.filterMap_append, List.nodup_append] at hnd
  refine ⟨fun hi => hnd.2.2 id hid id (List.mem_append_left _ hi) rfl, fun ha => ?_⟩
  have hlast : id ∈ [(t, act)].filterMap fun a => a.2.sessionId? :=
    List.mem_filterMap.2 ⟨_, List.mem_singleton.2 rfl, ha⟩
  exact hnd.2.2 id hid id (List.mem_append_right _ hlast) rfl

/-- A session whose time is over is dropped by the first action that does so, and is left as it is until then. -/
theorem run_over : ∀ (acts : Actions) {m : Manager}, m.Over now id e → m.Free acts → (∀ a ∈ acts, now ≤ a.1) →
    (m.run acts).sessions.get? id = if acts.any (fun a => a.2.drops id e) then none else some e
  | [], _, h, _, _ => h.1
  | (t, act) :: acts, m, h, hf, ht => by
    have hstep := perform_over (h.mono (ht _ List.mem_cons_self)) hf.session hf.snapshot
    rw [List.any_cons]
    cases hd : act.drops id e with
    | true =>
      rw [hd, if_pos rfl] at hstep
      have hid : id ∉ Actions.sessionIds acts := fun hi => by
        have hnone := hf.sessions id (by
          rw [Actions.sessionIds_cons]
          exact List.mem_append_right _ hi)
        rw [h.1] at hnone
        cases hnone
      exact hf.perform.session_none acts hstep hid
    | false =>
      rw [hd, if_neg Bool.false_ne_true] at hstep
      exact run_over acts ⟨hstep, h.2⟩ hf.perform fun a ha => ht a (List.mem_cons_of_mem _ ha)

theorem Ended.run (h : m.Ended now id) (hf : m.Free acts) (ht : ∀ a ∈ acts, now ≤ a.1) (hid : id ∉ acts.sessionIds) :
    (m.run acts).Ended now id := by
  intro e' he'
  cases he : m.sessions.get? id with
  | none =>
    rw [hf.session_none acts he hid] at he'
    cases he'
  | some e =>
    rw [run_over acts ⟨he, h e he⟩ hf ht] at he'
    split at he'
    · cases he'
    · exact h e' (he.trans he')

/-- A snapshot of a session whose time is over stays stored until an action comes across the session. -/
theorem found_after_iff (hm : m.Sound) (h : m.Ended now id) (hf : m.Free acts) (ht : ∀ a ∈ acts, now ≤ a.1)
    (hid : id ∉ acts.sessionIds) :
    (∃ s, (m.run acts).snapshots.get? x = some s ∧ s.sessionId = id) ↔
      (∃ s, m.snapshots.get? x = some s ∧ s.sessionId = id) ∧ ∀ a ∈ acts, a.2.visits id = false := by
  -- stored for a session is what the session lists, so only its entry matters
  rw [← (Sound.run acts hm hf).owned.mem_iff, ← hm.owned.mem_iff]
  cases he : m.sessions.get? id with
  | none =>
    rw [listed_of_none he, listed_of_none (hf.session_none acts he hid)]
    exact ⟨fun hx => (nomatch hx), fun hx => nomatch hx.1⟩
  | some e =>
    have hafter := run_over acts ⟨he, h e he⟩ hf ht
    rw [listed_of_some he]
    constructor
    · intro hx
      cases hd : acts.any fun a => a.2.drops id e with
      | true =>
        rw [hd] at hafter
        rw [listed_of_none hafter] at hx
        cases hx
      | false =>
        rw [hd] at hafter
        rw [listed_of_some hafter] at hx
        exact ⟨hx, fun a ha => Action.visits_of_not_drops (by simpa using List.any_eq_false.1 hd a ha)⟩
    · rintro ⟨hx, hv⟩
      -- a session that has a snapshot is not discarded
      have hused : e.isUnused = false := by
        cases hu : e.isUnused with
        | false => rfl
        | true =>
          rw [e.listed_of_isUnused hu] at hx
          cases hx
      have hkept : (acts.any fun a => a.2.drops id e) = false := by
        rw [List.any_eq_false]
        intro a ha
        rw [Action.drops_of_used hused, hv a ha]
        exact Bool.false_ne_true
      rw [hkept] at hafter
      rwa [listed_of_some hafter]

/-! ## What is shown of it -/

theorem Shown.not_shows {r : Answer} (h : m.Shown now act r) (hend : m.Ended now id) (hs : act.sessionId? ≠ some id)
    (hf : acts.Fresh) (hact : ∀ y ∈ act.taken?, y ∈ acts.taken) (hm : m.TakenBy acts) : ¬ r.Shows acts id := by
  rintro (hid | ⟨x, hx, hid⟩)
  · rcases h.sessions id hid with hid | ⟨e, hl⟩
    · exact hs hid
    · exact hend.not_live hl
  · obtain ⟨k, e, hl, hk⟩ := h.snapshots x hx
    have htaken : (x, k) ∈ acts.taken := by
      rcases hk with hk | ⟨s, hs, rfl⟩
      · exact hact _ hk
      · exact hm x s hs
    obtain rfl := hf.taken_inj htaken hid
    exact hend.not_live hl

theorem snapshot_shows_iff (h : m.Sound) (hf : acts.Fresh) (hm : m.TakenBy acts) :
    (m.perform now (.snapshot x)).result.Shows acts id ↔ ∃ s, m.snapshots.get? x = some s ∧ s.sessionId = id := by
  constructor
  · rintro (hk | ⟨y, hy, hk⟩)
    · obtain ⟨s, hs, hk⟩ := List.mem_map.1 hk
      exact ⟨s, Option.mem_toList.1 hs, hk⟩
    · obtain ⟨s, hs, rfl⟩ := List.mem_map.1 hy
      have hs : m.snapshots.get? x = some s := Option.mem_toList.1 hs
      rw [h.owned.id x s hs] at hk
      exact ⟨s, hs, hf.taken_inj (hm x s hs) hk⟩
  · rintro ⟨s, hs, hk⟩
    exact .inl (List.mem_map.2 ⟨s, Option.mem_toList.2 hs, hk⟩)

/-- **A session whose time is over is shown only by its snapshots, and only until an action comes across it.**  No id
is brought twice, and the clock does not fall behind the time `now` at which the session, started before, is over or
gone.  From then on an answer shows the session exactly if it finds, under its own id, a snapshot that was stored for
the session at that time, and no action has come across the session since. -/
theorem ended_shown_iff (s : Settings) (acts acts' : Actions) (act : Action) (now later : Millis) (id : String)
    (hf : Actions.Fresh (acts ++ acts' ++ [(later, act)])) (hid : id ∈ acts.sessionIds)
    (hover : ∀ e, ((empty s).run acts).sessions.get? id = some e → e.session.ttlAt ≤ now)
    (ht : ∀ a ∈ acts' ++ [(later, act)], now ≤ a.1) :
    let m := (empty s).run acts
    ((m.run acts').perform later act).result.Shows (acts ++ acts' ++ [(later, act)]) id ↔
      ∃ x, act = .snapshot x ∧ (∃ snapshot, m.snapshots.get? x = some snapshot ∧ snapshot.sessionId = id) ∧
        ∀ a ∈ acts', a.2.visits id = false := by
  intro m
  have hsplit : acts ++ acts' ++ [(later, act)] = acts ++ (acts' ++ [(later, act)]) := List.append_assoc _ _ _
  have hfree : (empty s).Free (acts ++ (acts' ++ [(later, act)])) := free_empty s (hsplit ▸ hf)
  have hrest : m.Free (acts' ++ [(later, act)]) := hfree.run
  have hlast : (m.run acts').Free [(later, act)] := hrest.run
  have hsound : m.Sound := .run acts (sound_empty s) hfree.left
  have hsound' : (m.run acts').Sound := .run acts' hsound hrest.left
  -- the session is not started again, and its time stays over
  obtain ⟨hnew, hnew'⟩ := hfree.notMem_right hid
  have hend : m.Ended now id := fun e he => decide_eq_true (hover e he)
  have hle : ∀ a ∈ acts', now ≤ a.1 := fun a ha => ht a (List.mem_append_left _ ha)
  have hlater : now ≤ later := ht _ (List.mem_append_right _ (List.mem_singleton.2 rfl))
  have htaken : (m.run acts').TakenBy (acts ++ acts' ++ [(later, act)]) := by
    intro x snapshot hx
    rw [← run_append] at hx
    rw [Actions.taken_append]
    have hfree' : (empty s).Free (acts ++ acts') := (free_empty s hf).left
    exact List.mem_append_left _ ((taken_of_run _ hfree' hx).resolve_left fun h => nomatch h)
  by_cases hx : ∃ x, act = .snapshot x
  · obtain ⟨x, rfl⟩ := hx
    rw [snapshot_shows_iff hsound' hf htaken, found_after_iff hsound hend hrest.left hle hnew]
    constructor
    · exact fun h => ⟨x, rfl, h⟩
    · rintro ⟨y, hy, h⟩
      obtain rfl := Action.snapshot.inj hy
      exact h
  · have hend' : (m.run acts').Ended later id := (hend.run hrest.left hle hnew).mono hlater
    have hshown := Shown.perform hsound' later hlast.snapshot fun x ha => hx ⟨x, ha⟩
    have hact : ∀ y ∈ act.taken?, y ∈ Actions.taken (acts ++ acts' ++ [(later, act)]) := fun y hy => by
      rw [Actions.taken_append]
      exact List.mem_append_right _ (List.mem_filterMap.2 ⟨_, List.mem_singleton.2 rfl, hy⟩)
    constructor
    · exact fun hs => absurd hs (hshown.not_shows hend' hnew' hf hact htaken)
    · rintro ⟨x, ha, -⟩
      exact absurd ⟨x, ha⟩ hx

/-- A session with one snapshot in force and one that was taken back. -/
def lapsingRun : Actions :=
  [(0, .createOrGet "a" none "192.0.2.1" "agent"), (1, .createSnapshot "u" "a" (.ofChanges []) none),
    (2, .createSnapshot "v" "a" (.ofChanges []) none), (3, .undo "a" 1)]

/-- Another client goes on when the time of the first one's session is over. -/
def otherRun : Actions :=
  [(1003, .createOrGet "b" none "192.0.2.2" ""), (1500, .createSnapshot "w" "b" (.ofChanges []) none)]

theorem ended_shown_iff_lapsing :
    let m := (empty { ttlSecs := 1 }).run lapsingRun
    "a" ∈ lapsingRun.sessionIds ∧ (∀ e, m.sessions.get? "a" = some e → e.session.ttlAt ≤ 1003) ∧
      (Actions.Fresh (lapsingRun ++ otherRun ++ [(1501, .snapshot "v")]) ∧
        (∀ a ∈ otherRun ++ [(1501, .snapshot "v")], (1003 : Millis) ≤ a.1) ∧
        ((m.run otherRun).perform 1501 (.snapshot "v")).result.Shows
          (lapsingRun ++ otherRun ++ [(1501, .snapshot "v")]) "a") ∧
      Actions.Fresh (lapsingRun ++ otherRun ++ [(1501, .history "a")]) ∧
        (∀ a ∈ otherRun ++ [(1501, .history "a")], (1003 : Millis) ≤ a.1) ∧
        ¬ ((m.run otherRun).perform 1501 (.history "a")).result.Shows
          (lapsingRun ++ otherRun ++ [(1501, .history "a")]) "a" := by
  intro m
  have hid : "a" ∈ lapsingRun.sessionIds := by decide
  have hover : ∀ e, m.sessions.get? "a" = some e → e.session.ttlAt ≤ 1003 := by
    have hall : ∀ e ∈ m.sessions.get? "a", e.session.ttlAt ≤ 1003 := by decide +kernel
    exact hall
  have hfound : Actions.Fresh (lapsingRun ++ otherRun ++ [(1501, .snapshot "v")]) := ⟨by decide, by decide⟩
  have hlisted : Actions.Fresh (lapsingRun ++ otherRun ++ [(1501, .history "a")]) := ⟨by decide, by decide⟩
  have ht : ∀ a ∈ otherRun ++ [(1501, .snapshot "v")], (1003 : Millis) ≤ a.1 := by decide
  have ht' : ∀ a ∈ otherRun ++ [(1501, .history "a")], (1003 : Millis) ≤ a.1 := by decide
  have hstored : ∃ snapshot, m.snapshots.get? "v" = some snapshot ∧ snapshot.sessionId = "a" :=
    ⟨.taken 2 "v" "a" (.ofChanges []) none, by decide +kernel, rfl⟩
  refine ⟨hid, hover, ⟨hfound, ht, ?_⟩, hlisted, ht', fun hs => ?_⟩
  · exact (ended_shown_iff _ lapsingRun otherRun _ 1003 1501 "a" hfound hid hover ht).2
      ⟨"v", rfl, hstored, by decide⟩
  · obtain ⟨x, hx, -⟩ := (ended_shown_iff _ lapsingRun otherRun _ 1003 1501 "a" hlisted hid hover ht').1 hs
    cases hx

/-- A snapshot of a session whose time is over is found under its own id. -/
theorem ended_session_shown :
    ¬ ∀ (s : Settings) (acts acts' : Actions) (act : Action) (now later : Millis) (id : String),
      Actions.Fresh (acts ++ acts' ++ [(later, act)]) →
      (acts ++ acts' ++ [(later, act)]).Pairwise (fun a b => a.1 ≤ b.1) → id ∈ acts.sessionIds →
      (∀ e, ((empty s).run acts).sessions.get? id = some e → e.session.ttlAt ≤ now) →
      (∀ a ∈ acts' ++ [(later, act)], now ≤ a.1) →
      ¬ ((((empty s).run acts).run acts').perform later act).result.Shows (acts ++ acts' ++ [(later, act)]) id := by
  intro h
  let s : Settings := { ttlSecs := 1 }
  let acts : Actions :=
    [(0, .createOrGet "a" none "192.0.2.1" "agent"), (0, .createSnapshot "u" "a" (.ofChanges []) none)]
  have hover : ∀ e ∈ ((empty s).run acts).sessions.get? "a", e.session.ttlAt ≤ 1000 := by decide +kernel
  exact h s acts [] (.snapshot "u") 1000 1000 "a" ⟨by decide, by decide⟩ (by decide) (by decide) hover (by decide)
    (by decide +kernel)

end Manager

end SiteEdit.Session
