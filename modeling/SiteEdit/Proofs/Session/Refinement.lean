import SiteEdit.Proofs.Session.Shadows
import SiteEdit.Proofs.Session.Sound
/-!
# The manager keeps stacks of documents

Every snapshot that a stack has is found under its id (`Mirrors`), because the sessions list exactly what is stored.  So
the manager and the ideal one, which has no ids to look up, return the same.
-/
namespace SiteEdit.Session

open Audit (Audited)
open Manager (snapshot_of_perform)

/-- A session of the ideal manager has a snapshot. -/
def Stacks.Has (a : Stacks) (k : String) (r : Snapshot) : Prop :=
  ∃ s, a.sessions.get? k = some s ∧ r ∈ s.active ++ s.undone

/-- A manager that stores every snapshot of the ideal one under its id. -/
structure Mirrors (m : Manager) (a : Stacks) : Prop extends Shadows m a where
  records : ∀ k r, a.Has k r → m.snapshots.get? r.id = some r

variable {m : Manager} {a : Stacks} {now : Millis} {id fresh : String} {s : Stack}

/-! ## What the ideal manager has -/

namespace Stacks

variable {k : String} {r : Snapshot}

theorem Has.of_erase {b : Stacks} (h : b.Has k r) (hb : b.sessions = a.sessions.erase id) : a.Has k r := by
  obtain ⟨s, hs, hr⟩ := h
  rw [hb, Store.get?_erase] at hs
  split at hs
  · cases hs
  · exact ⟨s, hs, hr⟩

theorem Has.of_filter {b : Stacks} (h : b.Has k r) (keep : String → Stack → Bool)
    (hb : b.sessions = a.sessions.filter keep) : a.Has k r := by
  obtain ⟨s, hs, hr⟩ := h
  rw [hb, Store.get?_filter, Option.filter_eq_some_iff] at hs
  exact ⟨s, hs.1, hr⟩

/-- A stack that is put in the place of another adds only what it has itself. -/
theorem Has.of_put {b : Stacks} (h : b.Has k r) {s' : Stack} (hb : b.sessions = (a.put id s').sessions) :
    a.Has k r ∨ k = id ∧ r ∈ s'.active ++ s'.undone := by
  obtain ⟨s, hs, hr⟩ := h
  rw [hb] at hs
  unfold put at hs
  rw [Store.get?_adjust] at hs
  split at hs
  · rename_i hk
    obtain ⟨_, -, rfl⟩ := Option.map_eq_some_iff.1 hs
    exact .inr ⟨hk, hr⟩
  · exact .inl ⟨s, hs, hr⟩

theorem Has.of_put_same {b : Stacks} (h : b.Has k r) {s : Stack} (hs : a.sessions.get? id = some s) (s' : Stack)
    (hb : b.sessions = (a.put id s').sessions) (hr : r ∈ s'.active ++ s'.undone → r ∈ s.active ++ s.undone) :
    a.Has k r := by
  rcases h.of_put hb with h | ⟨rfl, h⟩
  · exact h
  · exact ⟨s, hs, hr h⟩

theorem Has.of_start {ip userAgent : String} (h : (a.start now fresh ip userAgent).state.Has k r) : a.Has k r := by
  obtain ⟨s, hs, hr⟩ := h
  unfold start at hs
  rw [Store.get?_insert] at hs
  split at hs
  · obtain rfl := Option.some.inj hs
    cases hr
  · exact ⟨s, hs, hr⟩

theorem Has.of_onLive {α : Type} {f : Stack → Audited Stacks α} {P : Prop}
    (hf : ∀ s, a.Live now id s → (f s).state.Has k r → a.Has k r ∨ P) (h : (a.onLive now id f).state.Has k r) :
    a.Has k r ∨ P := by
  unfold onLive at h
  split at h
  · exact .inl h
  · rename_i s hs
    split at h
    · exact .inl (h.of_erase rfl)
    · rename_i hx
      exact hf s ⟨hs, by simpa using hx⟩ h

theorem mem_of_mem_rtake {α : Type} {x : α} {l : List α} {n : Nat} (h : x ∈ l.rtake n) : x ∈ l := List.mem_of_mem_drop h

/-- Undoing adds no snapshot. -/
theorem mem_undo {s : Stack} {n cap : Nat} (h : r ∈ (s.undo n cap).active ++ (s.undo n cap).undone) :
    r ∈ s.active ++ s.undone := by
  rcases List.mem_append.1 h with h | h
  · exact List.mem_append_left _ (List.mem_of_mem_take h)
  · rcases List.mem_append.1 (mem_of_mem_rtake h) with h | h
    · exact List.mem_append_right _ h
    · exact List.mem_append_left _ (mem_of_mem_rtake (List.mem_reverse.1 h))

theorem has_of_undo {steps : Stack → Nat} (h : (a.undo now id steps).state.Has k r) : a.Has k r := by
  have h' : a.Has k r ∨ False := Has.of_onLive (fun s hl hr =>
    let left := s.undo (steps s) a.settings.maxDetached.toNat
    .inl (hr.of_put_same hl.1 (left.renew (now + a.settings.ttl)) rfl mem_undo)) h
  exact h'.resolve_right not_false

/-- After an action a session has what it had before and what the action appends to its stack. -/
theorem has_of_perform {act : Action} (h : (a.perform now act).state.Has k r) :
    a.Has k r ∨ ∃ fresh document text, act = .createSnapshot fresh k document text ∧
      r = .taken now fresh k document text := by
  cases act with
  | createOrGet fresh presented ip userAgent =>
    change (a.createOrGet now fresh presented ip userAgent).state.Has k r at h
    unfold createOrGet at h
    left
    split at h
    · exact h.of_start
    · split at h
      · exact h.of_start
      · rename_i id s hs
        split at h
        · exact h.of_start.of_erase rfl
        · split at h
          · exact h.of_put_same hs (s.withQuota _) rfl fun hr => hr
          · exact h.of_start
  | renew id =>
    exact Has.of_onLive (fun s hl hr =>
      .inl (hr.of_put_same hl.1 (s.renew (now + a.settings.ttl)) rfl fun hr => hr)) h
  | createSnapshot fresh id document text =>
    refine Has.of_onLive (fun s hl hr => ?_) h
    rcases hr.of_put rfl with hr | ⟨rfl, hr⟩
    · exact .inl hr
    · rcases List.mem_append.1 hr with hr | hr
      · rcases List.mem_append.1 (mem_of_mem_rtake hr) with hr | hr
        · exact .inl ⟨s, hl.1, List.mem_append_left _ hr⟩
        · exact .inr ⟨fresh, document, text, rfl, List.mem_singleton.1 hr⟩
      · exact .inl ⟨s, hl.1, List.mem_append_right _ hr⟩
  | undo id steps => exact .inl (has_of_undo h)
  | reset id => exact .inl (has_of_undo h)
  | session id => exact Has.of_onLive (fun _ _ hr => .inl hr) h
  | state id => exact Has.of_onLive (fun _ _ hr => .inl hr) h
  | history id => exact Has.of_onLive (fun _ _ hr => .inl hr) h
  | snapshot id => exact .inl h
  | stats => exact .inl h
  | destroy id =>
    change (a.destroy id).state.Has k r at h
    unfold destroy at h
    left
    split at h
    · exact h.of_erase rfl
    · exact h
  | discardUnused id =>
    change (a.discardUnused id).state.Has k r at h
    unfold discardUnused at h
    left
    split at h
    · exact h.of_erase rfl
    · exact h
  | sweep => exact .inl (h.of_filter (fun _ s => !s.session.isExpired now) rfl)

end Stacks

/-! ## Records -/

/-- What a stack has, the session lists, so it is stored; and it is stored as it was taken. -/
theorem Mirrors.of_shadows {act : Action} (h : Mirrors m a) (hm : m.Sound)
    (hs : ∀ id ∈ act.sessionId?, m.sessions.get? id = none)
    (hn : ∀ id ∈ act.snapshotId?, m.snapshots.get? id = none)
    (h' : Shadows (m.perform now act).state (a.perform now act).state) :
    Mirrors (m.perform now act).state (a.perform now act).state where
  toShadows := h'
  records k r hr := by
    have hm' := hm.perform now act hs hn
    obtain ⟨s, hk, hrs⟩ := hr
    have hk' := h'.get?_eq k
    rw [hk, Option.map_some] at hk'
    have hl : r.id ∈ s.entry.listed := by
      show r.id ∈ s.active.map Snapshot.id ++ s.undone.map Snapshot.id
      rw [← List.map_append]
      exact List.mem_map_of_mem hrs
    obtain ⟨t, ht, -⟩ := hm'.owned.stored hk' hl
    rw [ht, Option.some.injEq]
    rcases Stacks.has_of_perform ⟨s, hk, hrs⟩ with hr | ⟨x, d, text, rfl, rfl⟩
    · have hold := h.records k r hr
      rcases snapshot_of_perform ht with ht | ⟨id, d, text, rfl, -⟩
      · exact Option.some.inj (ht.symm.trans hold)
      · rw [hn r.id rfl] at hold
        cases hold
    · rcases snapshot_of_perform ht with ht | ⟨id, d', text', he, rfl⟩
      · have hx : m.snapshots.get? x = some t := ht
        rw [hn x rfl] at hx
        cases hx
      · cases he
        rfl

/-! ## What is stored -/

theorem Shadows.listedIds (h : Shadows m a) : m.listedIds = a.snapshots.map Snapshot.id := by
  unfold Manager.listedIds Stacks.snapshots
  rw [h.sessions, List.map_flatMap]
  simp only [Store.map, List.flatMap_map, List.map_append]
  rfl

theorem Shadows.stats (h : Shadows m a) (hm : m.Sound) : m.stats = a.stats := by
  have hkeys := (List.perm_ext_iff_of_nodup m.snapshots.nodup hm.nodup_listedIds).2 hm.mem_keys_iff
  have hstored : m.snapshots.size = a.snapshots.length := by
    have hl := hkeys.length_eq
    rwa [List.length_map, h.listedIds, List.length_map] at hl
  have hsessions : m.sessions.size = a.sessions.size := by rw [h.sessions, Store.size_map]
  unfold Manager.stats Stacks.stats
  rw [hstored, hsessions, ← h.counts]
  rfl

namespace Mirrors

/-- The snapshots that a stack has are found under their ids. -/
theorem filterMap_ids (h : Mirrors m a) {rs : List Snapshot} (hrs : ∀ r ∈ rs, a.Has id r) :
    (rs.map Snapshot.id).filterMap m.snapshots.get? = rs := by
  rw [List.filterMap_map]
  exact (List.filterMap_congr fun r hr => h.records id r (hrs r hr)).trans List.filterMap_some

theorem snapshot? (h : Mirrors m a) (hm : m.Sound) (x : String) :
    m.snapshot? x = a.snapshots.find? fun s => s.id == x := by
  unfold Manager.snapshot?
  cases hf : a.snapshots.find? fun s => s.id == x with
  | none =>
    rw [Store.get?_eq_none_iff, hm.mem_keys_iff, h.listedIds]
    rintro hx
    obtain ⟨r, hr, rfl⟩ := List.mem_map.1 hx
    simpa using List.find?_eq_none.1 hf r hr
  | some r =>
    obtain ⟨e, he, hr⟩ := List.mem_flatMap.1 (List.mem_of_find?_eq_some hf)
    have hx : r.id = x := by simpa using List.find?_some hf
    rw [← hx]
    exact h.records e.1 r ⟨e.2, Store.get?_eq_some_iff.2 he, hr⟩

theorem history (h : Mirrors m a) : Agree (m.history now id) (a.view now id Stack.active) := by
  unfold Manager.history Stacks.view Manager.view
  rcases h.stands now id with ⟨hm, ha⟩ | ⟨s, ha, hm⟩ | ⟨s, ha, hm⟩
  · rw [Manager.withLive_of_none hm, Stacks.onLive_of_none ha]
    exact ⟨rfl, h.toShadows⟩
  · rw [Manager.withLive_of_over hm, Stacks.onLive_of_over ha]
    exact ⟨rfl, h.expire id⟩
  · rw [Manager.withLive_of_live hm, Stacks.onLive_of_live ha]
    exact ⟨congrArg Except.ok (h.filterMap_ids fun r hr => ⟨s, ha.1, List.mem_append_left _ hr⟩), h.put_back ha⟩

/-- The newest snapshot that is left is found in what the manager is after the undoing. -/
theorem undo_result {steps : Nat} (h : Shadows m a)
    (h' : Mirrors (m.undo now id steps).state (a.undo now id fun _ => steps).state) :
    (m.undo now id steps).result = (a.undo now id fun _ => steps).result := by
  rcases h.stands now id with ⟨hm, ha⟩ | ⟨s, ha, hm⟩ | ⟨s, ha, hm⟩
  · unfold Stacks.undo Manager.undo
    rw [Stacks.onLive_of_none ha, Manager.takeBack_of_none hm]
    rfl
  · unfold Stacks.undo Manager.undo
    rw [Stacks.onLive_of_over ha, Manager.takeBack_of_over hm]
    rfl
  · have hleft : ∀ r ∈ (s.active.rdrop steps).getLast?, (m.undo now id steps).state.snapshots.get? r.id = some r := by
      intro r hr
      refine h'.records id r ⟨(s.undo steps a.settings.maxDetached.toNat).renew (now + a.settings.ttl), ?_, ?_⟩
      · unfold Stacks.undo
        rw [Stacks.onLive_of_live ha]
        show (a.sessions.adjust id _).get? id = _
        rw [Store.get?_adjust, if_pos rfl, ha.1]
        rfl
      · exact List.mem_append_left _ (List.mem_of_getLast? hr)
    rw [Manager.undo_result hm, Stacks.undo_result ha, s.entry_undo, s.entry_pop]
    congr 2
    show ((s.active.rdrop steps).map Snapshot.id).getLast?.bind _ = _
    rw [List.getLast?_map]
    cases hl : (s.active.rdrop steps).getLast? with
    | none => rfl
    | some r => exact hleft r hl

/-- **An action has the same result** in both, and afterwards the one still mirrors the other. -/
theorem perform (h : Mirrors m a) (now : Millis) {act : Action} (hm : m.Sound)
    (hs : ∀ id ∈ act.sessionId?, m.sessions.get? id = none)
    (hn : ∀ id ∈ act.snapshotId?, m.snapshots.get? id = none) :
    (m.perform now act).result = (a.perform now act).result ∧
      Mirrors (m.perform now act).state (a.perform now act).state := by
  have of_agree (hx : Agree (m.perform now act) (a.perform now act)) :
      (m.perform now act).result = (a.perform now act).result ∧
        Mirrors (m.perform now act).state (a.perform now act).state :=
    ⟨hx.result, h.of_shadows hm hs hn hx.state⟩
  cases act with
  | createOrGet fresh presented ip userAgent =>
    refine of_agree ?_
    exact (h.createOrGet presented ip userAgent).map Answer.started
  | renew id =>
    refine of_agree ?_
    exact h.renew.map Answer.session
  | createSnapshot fresh id document text =>
    refine of_agree ?_
    exact (h.createSnapshot (hn fresh rfl) document text).map Answer.snapshot
  | undo id steps =>
    have h' := h.of_shadows hm hs hn (h.undo_state now id steps)
    exact ⟨congrArg Answer.undone (undo_result h.toShadows h'), h'⟩
  | reset id =>
    have h' := h.of_shadows hm hs hn (h.reset_state now id)
    exact ⟨congrArg Answer.undone h.reset_result, h'⟩
  | session id =>
    refine of_agree ?_
    exact (h.view fun _ => rfl).map Answer.session
  | state id =>
    refine of_agree ?_
    exact h.state.map Answer.state
  | history id =>
    refine of_agree ?_
    exact h.history.map Answer.history
  | snapshot id => exact of_agree ⟨congrArg Answer.found (h.snapshot? hm id), h.toShadows⟩
  | stats => exact of_agree ⟨congrArg Answer.stats (h.stats hm), h.toShadows⟩
  | destroy id =>
    refine of_agree ?_
    exact h.destroy.map Answer.done
  | discardUnused id =>
    refine of_agree ?_
    exact h.discardUnused.map Answer.done
  | sweep =>
    refine of_agree ?_
    exact h.sweep.map Answer.swept

end Mirrors

namespace Manager

theorem mirrors_empty (s : Settings) : Mirrors (empty s) (Stacks.empty s) where
  settings := rfl
  sessions := rfl
  counts := rfl
  records _ _ := fun ⟨_, h, _⟩ => nomatch h

theorem answers_of_mirrors : ∀ (acts : Actions) {m : Manager} {a : Stacks}, Mirrors m a → m.Sound → m.Free acts →
    m.answers acts = a.answers acts
  | [], _, _, _, _, _ => rfl
  | (now, act) :: acts, m, a, h, hm, hf => by
    obtain ⟨hr, h'⟩ := h.perform now hm hf.session hf.snapshot
    have ih := answers_of_mirrors acts h' (hm.perform now act hf.session hf.snapshot) hf.perform
    unfold answers Stacks.answers
    rw [hr, ih]

/-- **The manager keeps stacks of documents.**  In every run in which no id is brought twice, with the times in any
order, every action returns what it returns for the ideal manager: the histories, the states, the snapshots that were
taken back and those that are left, the snapshots under their ids, and the counts. -/
theorem answers_eq (s : Settings) (acts : Actions) (h : acts.Fresh) :
    (empty s).answers acts = (Stacks.empty s).answers acts :=
  answers_of_mirrors acts (mirrors_empty s) (sound_empty s) (free_empty s h)

/-- One session: a snapshot is taken back and stays to be found, until what is taken back pushes it out. -/
def revisedRun : Actions :=
  [(0, .createOrGet "a" none "192.0.2.1" "agent"), (1, .createSnapshot "u" "a" (.ofChanges []) none),
    (2, .createSnapshot "v" "a" (.ofChanges []) (some "second")), (3, .undo "a" 1),
    (0, .createSnapshot "w" "a" (.ofChanges []) none), (4, .history "a"), (5, .snapshot "v"), (6, .reset "a"),
    (7, .snapshot "v"), (8, .state "a"), (2000, .sweep)]

theorem answers_eq_revised :
    let answers := (empty { ttlSecs := 1, maxHistory := 2, maxDetached := 1 }).answers revisedRun
    revisedRun.Fresh ∧
      answers[5]? = some (.history (.ok [.taken 1 "u" "a" (.ofChanges []) none, .taken 0 "w" "a" (.ofChanges []) none]))
      ∧ answers[6]? = some (.found (some (.taken 2 "v" "a" (.ofChanges []) (some "second")))) ∧
      answers[8]? = some (.found none) := by
  have hf : revisedRun.Fresh := ⟨by decide, by decide⟩
  simp only [answers_eq _ revisedRun hf]
  exact ⟨hf, rfl, rfl, rfl⟩

end Manager

end SiteEdit.Session
