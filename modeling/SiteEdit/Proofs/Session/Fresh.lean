import SiteEdit.Proofs.Session.Effects
/-!
# Ids in use

An action adds no record to the stores but under the id that it brings.  So a run in which no id is brought twice only
brings ids that are not in use (`Manager.Free.perform`).
-/
namespace SiteEdit

/-- The records of a store are among those of another. -/
def Store.Within {α : Type} (s t : Store α) : Prop := ∀ k a, s.get? k = some a → t.get? k = some a

namespace Store.Within

variable {α : Type} {s t u : Store α}

theorem refl (s : Store α) : s.Within s := fun _ _ h => h

theorem trans (h : s.Within t) (h' : t.Within u) : s.Within u := fun k a hk => h' k a (h k a hk)

theorem filter (s : Store α) (keep : String → α → Bool) : (s.filter keep).Within s := fun k a h => by
  rw [get?_filter, Option.filter_eq_some_iff] at h
  exact h.1

theorem eraseAll (s : Store α) (keys : List String) : (keys.foldl erase s).Within s := fun k a h => by
  rw [get?_eraseAll] at h
  split at h
  · cases h
  · exact h

end Store.Within

namespace Session

open Audit (Audited)

namespace Manager

variable {m : Manager} {now : Millis} {id fresh : String}

/-! ## Snapshots -/

theorem lapsed_within (m : Manager) (now : Millis) (presented : Option String) :
    (m.lapsed now presented).snapshots.Within m.snapshots := by
  rw [lapsed_snapshots]
  exact .filter _ _

theorem Touched.within {m' : Manager} (h : m.Touched now id m') : m'.snapshots.Within m.snapshots := by
  cases h with
  | same => exact .refl _
  | evicted e h => exact .filter _ _
  | changed e e' gone h => exact .eraseAll _ gone

theorem evictAll_within : ∀ (ids : List String) (m : Manager), (m.evictAll ids).state.snapshots.Within m.snapshots
  | [], _ => .refl _
  | id :: ids, m => (evictAll_within ids (m.evict id).state).trans (.filter _ _)

theorem createOrGet_within (m : Manager) (now : Millis) (fresh : String) (presented : Option String)
    (ip userAgent : String) :
    (m.createOrGet now fresh presented ip userAgent).state.snapshots.Within m.snapshots := by
  rcases m.createOrGet_cases now fresh presented ip userAgent with ⟨_, _, -, -, -, hr⟩ | ⟨-, -, hr⟩
  · rw [hr]
    exact .refl _
  · rw [hr]
    exact m.lapsed_within now presented

/-- A snapshot that is stored after one is asked for was stored before, or it is the one that is returned. -/
theorem snapshot_of_createSnapshot {document : Document} {text : Option String} {x : String} {s : Snapshot}
    (h : (m.createSnapshot now fresh id document text).state.snapshots.get? x = some s) :
    m.snapshots.get? x = some s ∨ (x = fresh ∧ s = .taken now fresh id document text ∧
      (m.createSnapshot now fresh id document text).result = .ok s) := by
  have hinsert {t : Snapshot} (hx : x ≠ fresh) (hi : (m.snapshots.insert fresh t).get? x = some s) :
      m.snapshots.get? x = some s := by
    rwa [Store.get?_insert, if_neg hx] at hi
  rcases m.stands now id with hm | ⟨e, ho⟩ | ⟨e, hl⟩
  -- A snapshot that is refused is stored for a moment and takes one with its id along.
  · simp only [createSnapshot, withLive, hm, Audited.next, dropSnapshots, List.foldl_cons, List.foldl_nil] at h
    rw [Store.get?_erase] at h
    split at h
    · cases h
    · next hx => exact .inl (hinsert hx h)
  · simp only [createSnapshot, withLive, ho.1, ho.2, if_true, Audited.next, Audited.map, evict, dropSession,
      dropSnapshots, List.foldl_cons, List.foldl_nil] at h
    rw [Store.get?_erase] at h
    split at h
    · cases h
    · next hx => exact .inl (hinsert hx (Store.Within.filter _ _ x s h))
  · obtain ⟨hr, hs⟩ := @createSnapshot_of_live m now id fresh e hl document text
    rw [hs] at h
    have hi := Store.Within.eraseAll _ _ x s h
    by_cases hx : x = fresh
    · rw [Store.get?_insert, if_pos hx, Option.some.injEq] at hi
      exact .inr ⟨hx, hi.symm, hi ▸ hr⟩
    · exact .inl (hinsert hx hi)

/-- A snapshot that is stored after an action was stored before it or is the one that the action takes. -/
theorem snapshot_of_perform {act : Action} {x : String} {s : Snapshot}
    (h : (m.perform now act).state.snapshots.get? x = some s) :
    m.snapshots.get? x = some s ∨
      ∃ id document text, act = .createSnapshot x id document text ∧ s = .taken now x id document text := by
  cases act with
  | createOrGet fresh presented ip userAgent => exact .inl (m.createOrGet_within now fresh presented ip userAgent x s h)
  | renew id => exact .inl ((m.withLive_touched now id _).within x s h)
  | createSnapshot fresh id document text =>
    rcases snapshot_of_createSnapshot h with hs | ⟨rfl, hs, -⟩
    · exact .inl hs
    · exact .inr ⟨id, document, text, rfl, hs⟩
  | undo id steps => exact .inl ((m.undo_touched now id steps).within x s h)
  | reset id => exact .inl ((m.reset_touched now id).within x s h)
  | session id => exact .inl ((m.withLive_touched now id _).within x s h)
  | state id => exact .inl ((m.withLive_touched now id _).within x s h)
  | history id => exact .inl ((m.withLive_touched now id fun e => (e, e.history)).within x s h)
  | snapshot id => exact .inl h
  | stats => exact .inl h
  | destroy id =>
    change (m.destroy id).state.snapshots.get? x = some s at h
    unfold destroy at h
    split at h
    · exact .inl h
    · exact .inl (Store.Within.filter _ _ x s h)
  | discardUnused id =>
    change (m.discardUnused id).state.snapshots.get? x = some s at h
    unfold discardUnused at h
    split at h
    · exact .inl h
    · exact .inl h
  | sweep => exact .inl (evictAll_within _ m x s h)

/-! ## Sessions -/

theorem evict_session_none (id : String) {k : String} (h : m.sessions.get? k = none) :
    (m.evict id).state.sessions.get? k = none := by
  rw [evict_sessions, Store.get?_erase, h, ite_self]

theorem adjust_session_none (id : String) (f : Entry → Entry) {k : String} (h : m.sessions.get? k = none) :
    (m.sessions.adjust id f).get? k = none := by
  rw [Store.get?_adjust, h]
  exact ite_self _

theorem Touched.session_none {m' : Manager} (h : m.Touched now id m') {k : String}
    (hk : m.sessions.get? k = none) : m'.sessions.get? k = none := by
  cases h with
  | same => exact hk
  | evicted e h => exact evict_session_none id hk
  | changed e e' gone h => exact adjust_session_none id _ hk

theorem evictAll_session_none {k : String} :
    ∀ (ids : List String) {m : Manager}, m.sessions.get? k = none → (m.evictAll ids).state.sessions.get? k = none
  | [], _, h => h
  | id :: ids, _, h => evictAll_session_none ids (evict_session_none id h)

theorem createOrGet_session_none {fresh : String} (presented : Option String) (ip userAgent : String) {k : String}
    (h : m.sessions.get? k = none) (hk : fresh ≠ k) :
    (m.createOrGet now fresh presented ip userAgent).state.sessions.get? k = none := by
  rcases m.createOrGet_cases now fresh presented ip userAgent with ⟨id, _, -, -, -, hr⟩ | ⟨-, -, hr⟩
  · rw [hr]
    exact adjust_session_none id _ h
  · rw [hr]
    show ((m.lapsed now presented).sessions.insert fresh _).get? k = none
    rw [Store.get?_insert, if_neg (Ne.symm hk), lapsed_sessions, Store.get?_filter, h]
    rfl

theorem createSnapshot_session_none {fresh : String} (hf : m.snapshots.get? fresh = none) (document : Document)
    (text : Option String) {k : String} (h : m.sessions.get? k = none) :
    (m.createSnapshot now fresh id document text).state.sessions.get? k = none := by
  rcases m.stands now id with hm | ⟨e, ho⟩ | ⟨e, hl⟩
  · rwa [createSnapshot_of_none hm hf]
  · rw [(createSnapshot_of_over ho hf document text).2]
    exact evict_session_none id h
  · rw [(createSnapshot_of_live hl document text).2]
    exact adjust_session_none id _ h

/-- A session that is stored after an action was stored before it or is the one that the action starts. -/
theorem perform_session_none {act : Action} (hn : ∀ id ∈ act.snapshotId?, m.snapshots.get? id = none) {k : String}
    (h : m.sessions.get? k = none) (hk : act.sessionId? ≠ some k) :
    (m.perform now act).state.sessions.get? k = none := by
  cases act with
  | createOrGet fresh presented ip userAgent =>
    exact createOrGet_session_none presented ip userAgent h fun hf => hk (congrArg some hf)
  | renew id => exact (m.withLive_touched now id _).session_none h
  | createSnapshot fresh id document text => exact createSnapshot_session_none (hn fresh rfl) document text h
  | undo id steps => exact (m.undo_touched now id steps).session_none h
  | reset id => exact (m.reset_touched now id).session_none h
  | session id => exact (m.withLive_touched now id _).session_none h
  | state id => exact (m.withLive_touched now id _).session_none h
  | history id => exact (m.withLive_touched now id fun e => (e, e.history)).session_none h
  | snapshot id => exact h
  | stats => exact h
  | destroy id =>
    show (m.destroy id).state.sessions.get? k = none
    unfold destroy
    split
    · exact h
    · exact evict_session_none id h
  | discardUnused id =>
    show (m.discardUnused id).state.sessions.get? k = none
    unfold discardUnused
    split
    · exact evict_session_none id h
    · exact h
  | sweep => exact evictAll_session_none _ h

/-! ## Runs -/

/-- The ids that actions bring are not in use, and none is brought twice. -/
structure Free (m : Manager) (acts : Actions) : Prop where
  fresh : acts.Fresh
  sessions : ∀ id ∈ acts.sessionIds, m.sessions.get? id = none
  snapshots : ∀ id ∈ acts.snapshotIds, m.snapshots.get? id = none

theorem free_empty (s : Settings) {acts : Actions} (h : acts.Fresh) : (empty s).Free acts :=
  ⟨h, fun _ _ => rfl, fun _ _ => rfl⟩

namespace Free

variable {act : Action} {acts : Actions}

theorem session (h : m.Free ((now, act) :: acts)) : ∀ id ∈ act.sessionId?, m.sessions.get? id = none := fun id hid =>
  h.sessions id (by
    rw [Actions.sessionIds_cons]
    exact List.mem_append_left _ (Option.mem_toList.2 hid))

theorem snapshot (h : m.Free ((now, act) :: acts)) : ∀ id ∈ act.snapshotId?, m.snapshots.get? id = none :=
  fun id hid => h.snapshots id (by
    rw [Actions.snapshotIds_cons]
    exact List.mem_append_left _ (Option.mem_toList.2 hid))

theorem perform (h : m.Free ((now, act) :: acts)) : (m.perform now act).state.Free acts := by
  have hs := h.fresh.sessions
  have hn := h.fresh.snapshots
  have hsn := h.sessions
  have hnn := h.snapshots
  rw [Actions.sessionIds_cons] at hs hsn
  rw [Actions.snapshotIds_cons] at hn hnn
  rw [List.nodup_append] at hs hn
  refine ⟨⟨hs.2.1, hn.2.1⟩, fun id hid => ?_, fun id hid => ?_⟩
  · refine perform_session_none h.snapshot (hsn id (List.mem_append_right _ hid)) fun ha => ?_
    exact hs.2.2 id (Option.mem_toList.2 ha) id hid rfl
  · rw [Option.eq_none_iff_forall_ne_some]
    intro s hs'
    rcases snapshot_of_perform hs' with hb | ⟨k, document, text, rfl, -⟩
    · rw [hnn id (List.mem_append_right _ hid)] at hb
      cases hb
    · exact hn.2.2 id (Option.mem_toList.2 rfl) id hid rfl

theorem left {acts' : Actions} (h : m.Free (acts ++ acts')) : m.Free acts := by
  have hs : Actions.sessionIds (acts ++ acts') = acts.sessionIds ++ acts'.sessionIds := List.filterMap_append
  have hn : Actions.snapshotIds (acts ++ acts') = acts.snapshotIds ++ acts'.snapshotIds := List.filterMap_append
  refine ⟨⟨?_, ?_⟩, fun id hid => h.sessions id ?_, fun id hid => h.snapshots id ?_⟩
  · exact h.fresh.sessions.sublist (hs ▸ List.sublist_append_left _ _)
  · exact h.fresh.snapshots.sublist (hn ▸ List.sublist_append_left _ _)
  · exact hs ▸ List.mem_append_left _ hid
  · exact hn ▸ List.mem_append_left _ hid

theorem run : ∀ (acts : Actions) {acts' : Actions} {m : Manager}, m.Free (acts ++ acts') → (m.run acts).Free acts'
  | [], _, _, h => h
  | (_, _) :: acts, _, _, h => run acts h.perform

/-- A run stores no session but those that it starts. -/
theorem session_none {k : String} : ∀ (acts : Actions) {m : Manager}, m.Free acts → m.sessions.get? k = none →
    k ∉ acts.sessionIds → (m.run acts).sessions.get? k = none
  | [], _, _, hk, _ => hk
  | (now, act) :: acts, m, h, hk, hn => by
    rw [Actions.sessionIds_cons, List.mem_append, not_or, Option.mem_toList] at hn
    exact session_none acts h.perform (perform_session_none h.snapshot hk hn.1) hn.2

/-- A run stores no snapshot but those that it takes. -/
theorem snapshot_none {k : String} : ∀ (acts : Actions) {m : Manager}, m.Free acts → m.snapshots.get? k = none →
    k ∉ acts.snapshotIds → (m.run acts).snapshots.get? k = none
  | [], _, _, hk, _ => hk
  | (now, act) :: acts, m, h, hk, hn => by
    rw [Actions.snapshotIds_cons, List.mem_append, not_or, Option.mem_toList] at hn
    refine snapshot_none acts h.perform (Option.eq_none_iff_forall_ne_some.2 fun s hs => ?_) hn.2
    rcases snapshot_of_perform hs with hb | ⟨id, document, text, rfl, -⟩
    · rw [hk] at hb
      cases hb
    · exact hn.1 rfl

end Free

end Manager

end Session

end SiteEdit
