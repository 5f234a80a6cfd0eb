import SiteEdit.Proofs.Session.Fresh
import SiteEdit.Proofs.Session.Ownership
/-!
# The manager stays sound

Every action keeps `Manager.Sound` when the id that it brings is not in use, and a run in which no id is brought twice
only brings ids that are not in use.  So after every run each stored snapshot is listed by one session, once.
-/
namespace SiteEdit.Session

open Audit (Audited)

/-! ## Bounds of an entry -/

namespace Entry

variable {e : Entry} {s : Settings} {k : String}

theorem push_listed (e : Entry) (id : String) (cap : Nat) :
    ((e.push id cap).2 ++ (e.push id cap).1.listed) = e.history ++ [id] ++ e.detached := by
  unfold push listed
  rw [← List.append_assoc, List.take_append_drop]

theorem length_push (e : Entry) (id : String) (cap : Nat) : (e.push id cap).1.history.length ≤ cap := by
  unfold push
  rw [List.length_drop]
  omega

theorem length_detach (e : Entry) (ids : List String) (cap : Nat) : (e.detach ids cap).1.detached.length ≤ cap := by
  unfold detach
  rw [List.length_drop]
  omega

theorem length_pop (e : Entry) (n : Nat) : (e.pop n).1.history.length ≤ e.history.length := by
  rw [pop_eq, List.length_take]
  omega

/-- What is taken back is listed on, except for what the queue pushes out. -/
theorem pop_detach_listed (e : Entry) (n cap : Nat) :
    (((e.pop n).1.detach (e.pop n).2 cap).2 ++ ((e.pop n).1.detach (e.pop n).2 cap).1.listed).Perm e.listed := by
  rw [pop_eq]
  unfold detach listed
  generalize e.history.length - n = kept
  dsimp only
  generalize hq : e.detached ++ (e.history.drop kept).reverse = queue
  generalize queue.length - cap = surplus
  calc
    (queue.take surplus ++ (e.history.take kept ++ queue.drop surplus)).Perm
        (e.history.take kept ++ (queue.take surplus ++ queue.drop surplus)) := by
      rw [← List.append_assoc, ← List.append_assoc]
      exact List.perm_append_comm.append_right _
    _ = e.history.take kept ++ (e.detached ++ (e.history.drop kept).reverse) := by rw [List.take_append_drop, hq]
    List.Perm _ (e.history.take kept ++ (e.history.drop kept ++ e.detached)) :=
      (List.perm_append_comm.trans ((List.reverse_perm _).append_right _)).append_left _
    _ = e.history ++ e.detached := by rw [← List.append_assoc, List.take_append_drop]

theorem Fits.slide (h : e.Fits s k) (now ttl : Millis) : (e.slide now ttl).Fits s k := ⟨h.id, h.history, h.detached⟩

theorem Fits.countRequest (h : e.Fits s k) : e.countRequest.Fits s k := ⟨h.id, h.history, h.detached⟩

theorem Fits.push (h : e.Fits s k) (id : String) (now ttl : Millis) :
    (((e.push id s.maxHistory.toNat).1.slide now ttl).countTransform).Fits s k :=
  ⟨h.id, length_push e id _, h.detached⟩

theorem Fits.takeBack (h : e.Fits s k) (n : Nat) (now ttl : Millis) :
    ((((e.pop n).1.detach (e.pop n).2 s.maxDetached.toNat).1).slide now ttl).Fits s k :=
  ⟨(congrArg Session.id (e.pop_session n)).trans h.id, Nat.le_trans (length_pop e n) h.history, length_detach _ _ _⟩

/-- An unused session lists nothing. -/
theorem listed_of_isUnused (h : e.isUnused = true) : e.listed = [] := by
  unfold isUnused at h
  simp only [Bool.and_eq_true, List.isEmpty_iff] at h
  rw [listed, h.1.2, h.2, List.append_nil]

end Entry

/-! ## Actions -/

namespace Manager

variable {m : Manager} {now : Millis} {id fresh : String}

theorem sound_empty (s : Settings) : (empty s).Sound where
  owned :=
    { id := fun _ _ h => nomatch h
      nodup := fun _ => List.nodup_nil
      mem_iff := fun _ _ => ⟨(nomatch ·), fun ⟨_, h, _⟩ => nomatch h⟩ }
  fits _ _ h := nomatch h

namespace Sound

/-- A session is dropped with all its snapshots; the counters do not matter. -/
theorem drop (h : m.Sound) (id : String) {m' : Manager} (hs : m'.sessions = m.sessions.erase id)
    (hn : m'.snapshots = m.snapshots.filter fun _ s => s.sessionId != id) (ht : m'.settings = m.settings) :
    m'.Sound where
  owned := by
    rw [hs, hn]
    exact h.owned.drop id
  fits k e he := by
    rw [hs, Store.get?_erase] at he
    split at he
    · cases he
    · rw [ht]
      exact h.fits k e he

theorem evict (h : m.Sound) (id : String) : (m.evict id).state.Sound := h.drop id rfl rfl rfl

/-- The entry of a session is changed, and what it lists no more is dropped. -/
theorem replace (h : m.Sound) {e e' : Entry} (gone : List String) (he : m.sessions.get? id = some e)
    (hf : e'.Fits m.settings id) (hl : (gone ++ e'.listed).Perm e.listed) {m' : Manager}
    (hs : m'.sessions = m.sessions.adjust id fun _ => e') (hn : m'.snapshots = gone.foldl Store.erase m.snapshots)
    (ht : m'.settings = m.settings) : m'.Sound where
  owned := by
    rw [hs, hn]
    exact h.owned.replace he hl
  fits k d hd := by
    rw [hs, Store.get?_adjust] at hd
    rw [ht]
    split at hd
    · rename_i hk
      rw [hk, he] at hd
      obtain rfl := Option.some.inj hd
      rwa [hk]
    · exact h.fits k d hd

theorem withLive (h : m.Sound) {α : Type} {f : Entry → Entry × α}
    (hf : ∀ e, m.sessions.get? id = some e → (f e).1.Fits m.settings id ∧ (f e).1.listed = e.listed) :
    (m.withLive now id f).state.Sound := by
  rcases m.stands now id with hm | ⟨e, ho⟩ | ⟨e, hl⟩
  · rw [withLive_of_none hm]
    exact h
  · rw [withLive_of_over ho]
    exact h.evict id
  · rw [withLive_of_live hl]
    exact h.replace [] hl.1 (hf e hl.1).1 (by rw [List.nil_append, (hf e hl.1).2]) rfl rfl rfl

theorem view (h : m.Sound) {α : Type} (f : Entry → α) : (m.view now id f).state.Sound :=
  h.withLive fun e he => ⟨h.fits id e he, rfl⟩

theorem create (h : m.Sound) (hf : m.sessions.get? fresh = none) (identity : String) :
    (m.create now fresh identity).state.Sound where
  owned := h.owned.of_listed fun k => by
    unfold listed Manager.create
    rw [Store.get?_insert]
    split
    · rename_i hk
      rw [hk, hf]
      rfl
    · rfl
  fits k e he := by
    unfold Manager.create at he
    rw [Store.get?_insert] at he
    split at he
    · rename_i hk
      obtain rfl := Option.some.inj he
      exact ⟨hk.symm, Nat.zero_le _, Nat.zero_le _⟩
    · exact h.fits k e he

theorem lapsed (h : m.Sound) (presented : Option String) : (m.lapsed now presented).Sound := by
  rcases m.lapsed_cases now presented with ⟨-, hl⟩ | ⟨id, -, hl⟩
  · rwa [hl]
  · rw [hl]
    exact h.evict id

theorem createOrGet (h : m.Sound) (hf : m.sessions.get? fresh = none) (presented : Option String)
    (ip userAgent : String) : (m.createOrGet now fresh presented ip userAgent).state.Sound := by
  rcases m.createOrGet_cases now fresh presented ip userAgent with ⟨id, e, -, hl, -, hr⟩ | ⟨-, -, hr⟩
  · rw [hr]
    refine h.replace [] hl.1 (h.fits id e hl.1).countRequest (List.Perm.refl _) ?_ rfl rfl
    exact Store.adjust_congr hl.1 rfl
  · rw [hr]
    refine (h.lapsed presented).create ?_ _
    rw [lapsed_sessions, Store.get?_filter, hf]
    rfl

theorem createSnapshot (h : m.Sound) (hf : m.snapshots.get? fresh = none) (document : Document)
    (text : Option String) : (m.createSnapshot now fresh id document text).state.Sound := by
  rcases m.stands now id with hm | ⟨e, ho⟩ | ⟨e, hl⟩
  · rw [createSnapshot_of_none hm hf]
    exact h
  · rw [(createSnapshot_of_over ho hf document text).2]
    exact h.evict id
  · rw [(createSnapshot_of_live hl document text).2]
    -- the history first grows past its bound, then it is cut
    let grown : Entry := { e with history := e.history ++ [fresh] }
    have hg : grown.listed.Perm (fresh :: e.listed) := by
      show (e.history ++ [fresh] ++ e.detached).Perm (fresh :: (e.history ++ e.detached))
      rw [List.append_assoc]
      exact List.perm_middle
    have ho := h.owned.grow hl.1 hf (s := .taken now fresh id document text) rfl rfl hg
    have hgrown : (m.sessions.adjust id fun _ => grown).get? id = some grown := by
      rw [Store.get?_adjust, if_pos rfl, hl.1]
      rfl
    refine ⟨?_, fun k d hd => ?_⟩
    · have hpush : ((e.push fresh m.settings.maxHistory.toNat).2 ++
          (((e.push fresh m.settings.maxHistory.toNat).1.slide now m.settings.ttl).countTransform).listed).Perm
            grown.listed := List.Perm.of_eq (e.push_listed fresh _)
      have := ho.replace hgrown hpush
      rwa [Store.adjust_adjust] at this
    · rw [Store.get?_adjust] at hd
      split at hd
      · rename_i hk
        rw [hk, hl.1] at hd
        obtain rfl := Option.some.inj hd
        rw [hk]
        exact (h.fits id e hl.1).push fresh now _
      · exact h.fits k d hd

theorem takeBack (h : m.Sound) (steps : Nat) : (m.takeBack now id steps).state.Sound := by
  rcases m.stands now id with hm | ⟨e, ho⟩ | ⟨e, hl⟩
  · rw [takeBack_of_none hm]
    exact h
  · rw [takeBack_of_over ho]
    exact h.evict id
  · rw [takeBack_of_live hl]
    exact h.replace _ hl.1 ((h.fits id e hl.1).takeBack steps now _) (e.pop_detach_listed steps _) rfl rfl rfl

theorem destroy (h : m.Sound) (id : String) : (m.destroy id).state.Sound := by
  unfold Manager.destroy
  split
  · exact h
  · exact h.drop id rfl rfl rfl

theorem discardUnused (h : m.Sound) (id : String) : (m.discardUnused id).state.Sound := by
  unfold Manager.discardUnused
  split
  · rename_i hu
    obtain ⟨e, he, hu⟩ := (Option.any_eq_true _ _).1 hu
    refine ⟨h.owned.of_listed fun k => ?_, fun k d hd => ?_⟩
    · rw [listed_erase]
      split
      · rename_i hk
        rw [hk, listed_of_some he, e.listed_of_isUnused hu]
      · rfl
    · rw [Store.get?_erase] at hd
      split at hd
      · cases hd
      · exact h.fits k d hd
  · exact h

theorem evictAll : ∀ (ids : List String) {m : Manager}, m.Sound → (m.evictAll ids).state.Sound
  | [], _, h => h
  | id :: ids, _, h => evictAll ids (h.evict id)

theorem perform (h : m.Sound) (now : Millis) (act : Action)
    (hs : ∀ id ∈ act.sessionId?, m.sessions.get? id = none)
    (hn : ∀ id ∈ act.snapshotId?, m.snapshots.get? id = none) : (m.perform now act).state.Sound := by
  cases act with
  | createOrGet fresh presented ip userAgent => exact h.createOrGet (hs fresh rfl) presented ip userAgent
  | renew id => exact h.withLive fun e he => ⟨(h.fits id e he).slide now _, rfl⟩
  | createSnapshot fresh id document text => exact h.createSnapshot (hn fresh rfl) document text
  | undo id steps =>
    show (m.undo now id steps).state.Sound
    rw [undo_state]
    exact h.takeBack steps
  | reset id =>
    show (m.reset now id).state.Sound
    rw [reset_state]
    exact h.takeBack _
  | session id => exact h.view _
  | state id => exact h.view _
  | history id => exact h.view Entry.history
  | snapshot id => exact h
  | stats => exact h
  | destroy id => exact h.destroy id
  | discardUnused id => exact h.discardUnused id
  | sweep => exact evictAll _ h

theorem run : ∀ (acts : Actions) {m : Manager}, m.Sound → m.Free acts → (m.run acts).Sound
  | [], _, h, _ => h
  | (now, act) :: acts, _, h, hf => run acts (h.perform now act hf.session hf.snapshot) hf.perform

end Sound

/-- All ids that the sessions of a manager list. -/
def listedIds (m : Manager) : List String := m.sessions.entries.flatMap fun e => e.2.listed

theorem mem_listedIds {x : String} : x ∈ m.listedIds ↔ ∃ k e, m.sessions.get? k = some e ∧ x ∈ e.listed := by
  unfold listedIds
  simp only [List.mem_flatMap, Prod.exists, Store.get?_eq_some_iff]

/-- No snapshot is listed twice, by one session or by two. -/
theorem Sound.nodup_listedIds (h : m.Sound) : m.listedIds.Nodup := by
  refine List.nodup_flatMap.2 ⟨fun e he => ?_, ?_⟩
  · rw [← listed_of_some (Store.get?_eq_some_iff.2 he)]
    exact h.owned.nodup e.1
  · refine (List.pairwise_map.1 m.sessions.nodup).imp_of_mem fun {d e} hd he hne x hxd hxe => hne ?_
    obtain ⟨s, hs, hsd⟩ := h.owned.stored (Store.get?_eq_some_iff.2 hd) hxd
    obtain ⟨t, ht, hte⟩ := h.owned.stored (Store.get?_eq_some_iff.2 he) hxe
    rw [← hsd, ← hte, Option.some.inj (hs.symm.trans ht)]

/-- The stored snapshots are those that the sessions list. -/
theorem Sound.mem_keys_iff (h : m.Sound) (x : String) :
    x ∈ m.snapshots.entries.map Prod.fst ↔ x ∈ m.listedIds := by
  rw [Store.mem_keys_iff, mem_listedIds]
  constructor
  · rintro ⟨s, hs⟩
    have hx := (h.owned.mem_iff s.sessionId x).2 ⟨s, hs, rfl⟩
    cases he : m.sessions.get? s.sessionId with
    | none =>
      rw [listed_of_none he] at hx
      cases hx
    | some e => exact ⟨s.sessionId, e, he, by rwa [listed_of_some he] at hx⟩
  · rintro ⟨k, e, he, hx⟩
    obtain ⟨s, hs, -⟩ := h.owned.stored he hx
    exact ⟨s, hs⟩

/-- **Every stored snapshot is owned.**  After every run, with the times in any order, the ids of the stored snapshots
are the ids that the sessions list, in force or detached, and none of them is listed twice; the session of a snapshot
is the one that lists it; no history and no detached queue is longer than its bound. -/
theorem snapshots_owned (s : Settings) (acts : Actions) (h : acts.Fresh) :
    let m := (empty s).run acts
    (m.snapshots.entries.map Prod.fst).Perm (m.sessions.entries.flatMap fun e => e.2.history ++ e.2.detached) ∧
      (m.sessions.entries.flatMap fun e => e.2.history ++ e.2.detached).Nodup ∧
      (∀ k e x, m.sessions.get? k = some e → x ∈ e.history ++ e.detached →
        ∃ snapshot, m.snapshots.get? x = some snapshot ∧ snapshot.id = x ∧ snapshot.sessionId = e.session.id) ∧
      ∀ k e, m.sessions.get? k = some e →
        e.session.id = k ∧ e.history.length ≤ s.maxHistory.toNat ∧ e.detached.length ≤ s.maxDetached.toNat := by
  intro m
  have hm : m.Sound := .run acts (sound_empty s) (free_empty s h)
  refine ⟨?_, hm.nodup_listedIds, fun k e x he hx => ?_, fun k e he => ?_⟩
  · exact (List.perm_ext_iff_of_nodup m.snapshots.nodup hm.nodup_listedIds).2 hm.mem_keys_iff
  · obtain ⟨t, ht, hk⟩ := hm.owned.stored he hx
    exact ⟨t, ht, hm.owned.id x t ht, by rw [hk, (hm.fits k e he).id]⟩
  · have hf := hm.fits k e he
    rw [run_settings] at hf
    exact ⟨hf.id, hf.history, hf.detached⟩

/-- Two sessions under bounds of one: a full history, a full queue, a clock that goes back, and a presented session
whose time is over. -/
def crowdedRun : Actions :=
  [(0, .createOrGet "a" none "192.0.2.1" "agent"), (1, .createSnapshot "u" "a" (.ofChanges []) none),
    (2, .createSnapshot "v" "a" (.ofChanges []) none), (3, .undo "a" 1),
    (0, .createSnapshot "w" "a" (.ofChanges []) none), (4, .undo "a" 2),
    (5, .createSnapshot "x" "a" (.ofChanges []) none), (6, .createOrGet "b" (some "c") "192.0.2.2" ""),
    (7, .createSnapshot "y" "b" (.ofChanges []) none), (8, .createSnapshot "z" "c" (.ofChanges []) none),
    (2000, .createOrGet "c" (some "a") "192.0.2.1" "agent")]

theorem snapshots_owned_crowded :
    crowdedRun.Fresh ∧
      (((empty { ttlSecs := 1, maxHistory := 1, maxDetached := 1 }).run crowdedRun).snapshots.entries.map
        Prod.fst).Perm ["y"] := by
  have hf : crowdedRun.Fresh := ⟨by decide, by decide⟩
  have hl : (((empty { ttlSecs := 1, maxHistory := 1, maxDetached := 1 }).run crowdedRun).sessions.entries.flatMap
      fun e => e.2.history ++ e.2.detached) = ["y"] := by decide +kernel
  exact ⟨hf, hl ▸ (snapshots_owned _ crowdedRun hf).1⟩

end Manager

end SiteEdit.Session
