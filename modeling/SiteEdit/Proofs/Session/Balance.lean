import SiteEdit.Proofs.Session.Expiry
import Mathlib.Algebra.Ring.Nat
/-!
# The counters of the sessions balance

Every session that was started is still stored, or its time was over, or it was destroyed or discarded.  Every snapshot
that was taken is still stored, or it was pushed out of its queue, or its session held it when that session ended.  One
operation keeps both sums (`perform_balances`), so every run does (`run_balances`).
-/
namespace SiteEdit

/-! ## Sums over a store -/

namespace Store

variable {α : Type} {s : Store α} {key : String} {a : α}

/-- What the records come to, each of them counted by `f`. -/
def total (f : α → Nat) (s : Store α) : Nat := (s.entries.map fun e => f e.2).sum

theorem size_eq_total (s : Store α) : s.size = s.total fun _ => 1 := by
  simp [size, total]

theorem total_filter (f : α → Nat) (keep : String → α → Bool) (s : Store α) :
    (s.filter keep).total f + (s.filter fun k a => !keep k a).total f = s.total f := by
  unfold total filter
  dsimp only
  induction s.entries with
  | nil => rfl
  | cons e l ih =>
    rw [List.filter_cons, List.filter_cons, List.map_cons, List.sum_cons, ← ih]
    cases keep e.1 e.2 <;> simp <;> omega

theorem sum_erased (f : α → Nat) : ∀ {l : List (String × α)}, (l.map Prod.fst).Nodup → (key, a) ∈ l →
    ((l.filter fun e => e.1 != key).map fun e => f e.2).sum + f a = (l.map fun e => f e.2).sum
  | e :: l, hnd, h => by
    obtain ⟨he, hl⟩ := List.nodup_cons.1 hnd
    rw [List.filter_cons, List.map_cons, List.sum_cons]
    rcases List.mem_cons.1 h with rfl | h
    · have hkept : (l.filter fun e => e.1 != key) = l := List.filter_eq_self.2 fun d hd => by
        rw [bne_iff_ne]
        rintro rfl
        have hmem : d.1 ∈ l.map Prod.fst := List.mem_map_of_mem hd
        exact he hmem
      simp [hkept, Nat.add_comm]
    · have hne : e.1 ≠ key := fun hk => he (hk ▸ List.mem_map_of_mem h)
      rw [if_pos (bne_iff_ne.2 hne), List.map_cons, List.sum_cons, Nat.add_assoc, sum_erased f hl h]

theorem total_erase (f : α → Nat) (h : s.get? key = some a) : (s.erase key).total f + f a = s.total f :=
  sum_erased f s.nodup (get?_eq_some_iff.1 h)

theorem size_erase (h : s.get? key = some a) : (s.erase key).size + 1 = s.size := by
  rw [size_eq_total, size_eq_total]
  exact total_erase _ h

theorem size_eraseAll : ∀ (keys : List String) {s : Store α}, keys.Nodup → (∀ key ∈ keys, ∃ a, s.get? key = some a) →
    (keys.foldl erase s).size + keys.length = s.size
  | [], _, _, _ => rfl
  | key :: keys, s, hnd, h => by
    obtain ⟨hkey, hnd⟩ := List.nodup_cons.1 hnd
    obtain ⟨⟨a, ha⟩, hkeys⟩ := List.forall_mem_cons.1 h
    have hrest : ∀ k ∈ keys, ∃ b, (s.erase key).get? k = some b := fun k hk => by
      have hne : k ≠ key := fun he => hkey (he ▸ hk)
      rw [get?_erase, if_neg hne]
      exact hkeys k hk
    rw [List.foldl_cons, List.length_cons, ← Nat.add_assoc, size_eraseAll keys hnd hrest]
    exact size_erase ha

theorem total_insert (f : α → Nat) (h : s.get? key = none) (a : α) : (s.insert key a).total f = f a + s.total f := by
  show (((key, a) :: (s.erase key).entries).map fun e => f e.2).sum = _
  rw [erase_of_get?_eq_none h]
  rfl

theorem erase_adjust (s : Store α) (key : String) (g : α → α) : (s.adjust key g).erase key = s.erase key := by
  apply ext_entries
  simp only [erase, filter, adjust]
  induction s.entries with
  | nil => rfl
  | cons e l ih =>
    rw [List.map_cons, List.filter_cons, List.filter_cons, ih]
    by_cases h : e.1 = key <;> simp [h]

theorem total_adjust (f : α → Nat) (h : s.get? key = some a) (g : α → α) :
    (s.adjust key g).total f + f a = s.total f + f (g a) := by
  have hadjusted : (s.adjust key g).get? key = some (g a) := by rw [get?_adjust, if_pos rfl, h, Option.map_some]
  rw [← total_erase f hadjusted, ← total_erase f h, erase_adjust]
  omega

theorem size_adjust (s : Store α) (key : String) (g : α → α) : (s.adjust key g).size = s.size := List.length_map _

end Store

namespace Session

/-! ## What sessions hold -/

/-- How many snapshots a session holds, in force and detached. -/
def Entry.held (e : Entry) : Nat := e.listed.length

namespace Manager

variable {m m' m'' : Manager} {now : Millis} {id fresh : String} {e : Entry} {n k : Nat}

/-- How many snapshots all sessions hold. -/
def held (m : Manager) : Nat := m.sessions.total Entry.held

/-- The stored snapshots are those that the sessions hold. -/
theorem Sound.size_snapshots (h : m.Sound) : m.snapshots.size = m.held := by
  have hperm : (m.snapshots.entries.map Prod.fst).Perm m.listedIds :=
    (List.perm_ext_iff_of_nodup m.snapshots.nodup h.nodup_listedIds).2 h.mem_keys_iff
  have hlength := hperm.length_eq
  rwa [List.length_map, listedIds, List.length_flatMap] at hlength

/-- The sessions that are no longer stored. -/
def gone (m m' : Manager) : Store Entry := m.sessions.filter fun id _ => (m'.sessions.get? id).isNone

/-- The sessions that an action ends, because their time is over or because they are destroyed.  A session that is
discarded is not among them. -/
def ended (m : Manager) (now : Millis) : Action → Store Entry
  | .discardUnused _ => .empty
  | act => m.gone (m.perform now act).state

/-- How many snapshots sessions held when they ended in a run. -/
def heldAtEnd (m : Manager) : Actions → Nat
  | [] => 0
  | (now, act) :: acts => (m.ended now act).total Entry.held + (m.perform now act).state.heldAtEnd acts

theorem gone_of_filter (keep : String → Bool) (h : m'.sessions = m.sessions.filter fun id _ => keep id) :
    m'.held + (m.gone m').total Entry.held = m.held := by
  have hgone : m.gone m' = m.sessions.filter fun id _ => !keep id := Store.filter_congr fun id e he => by
    rw [h, Store.get?_filter, he]
    cases keep id <;> simp [Option.filter]
  rw [hgone, held, h]
  exact Store.total_filter Entry.held _ m.sessions

theorem gone_of_kept (h : ∀ id e, m.sessions.get? id = some e → (m'.sessions.get? id).isSome = true) :
    (m.gone m').total Entry.held = 0 := by
  have hgone : m.gone m' = m.sessions.filter fun _ _ => !true := Store.filter_congr fun id e he => by
    rw [← h id e he, Option.not_isSome]
  have htotal := Store.total_filter Entry.held (fun _ _ => true) m.sessions
  rw [Store.filter_eq_self fun _ _ _ => rfl] at htotal
  rw [hgone]
  omega

/-- A session that is started takes the place of none. -/
theorem gone_create (h : m.sessions.get? fresh = none) (m' : Manager) (identity : String) :
    m.gone (m'.create now fresh identity).state = m.gone m' := Store.filter_congr fun id e he => by
  have hne : id ≠ fresh := by
    rintro rfl
    rw [h] at he
    cases he
  have hget : (m'.create now fresh identity).state.sessions.get? id = m'.sessions.get? id :=
    (Store.get?_insert _ _ _ _).trans (if_neg hne)
  rw [hget]

theorem evictAll_counters : ∀ (ids : List String) (m : Manager), let m' := (m.evictAll ids).state
    m'.expired + m'.destroyed = m.expired + m.destroyed + ids.length ∧
      (m'.created, m'.discarded, m'.snapshotsCreated, m'.snapshotsEvicted) =
        (m.created, m.discarded, m.snapshotsCreated, m.snapshotsEvicted)
  | [], _ => ⟨rfl, rfl⟩
  | id :: ids, m => by
    obtain ⟨hended, hcounters⟩ := evictAll_counters ids (m.evict id).state
    refine ⟨hended.trans ?_, hcounters⟩
    simp only [Manager.evict, dropSession, List.length_cons]
    omega

/-! ## What an operation does to the counters -/

/-- From one state to another the counters of sessions change by what happened to sessions, and those of snapshots by
what happened to snapshots, `n` of which went with their sessions. -/
structure Balances (m m' : Manager) (n : Nat) : Prop where
  sessions : m'.created + (m.sessions.size + m.expired + m.destroyed + m.discarded) =
    m.created + (m'.sessions.size + m'.expired + m'.destroyed + m'.discarded)
  snapshots : m'.snapshotsCreated + (m.held + m.snapshotsEvicted) =
    m.snapshotsCreated + (m'.held + m'.snapshotsEvicted + n)

/-- The snapshots that went are those of the sessions that are gone. -/
def Settles (m m' : Manager) : Prop := Balances m m' ((m.gone m').total Entry.held)

theorem Balances.trans (h : Balances m m' n) (h' : Balances m' m'' k) : Balances m m'' (n + k) := by
  have hsessions := h.sessions
  have hsessions' := h'.sessions
  have hsnapshots := h.snapshots
  have hsnapshots' := h'.snapshots
  constructor <;> omega

theorem create_balances (h : m.sessions.get? fresh = none) (identity : String) :
    Balances m (m.create now fresh identity).state 0 where
  sessions := by
    have hsize : (m.create now fresh identity).state.sessions.size = 1 + m.sessions.size := by
      rw [Store.size_eq_total, Store.size_eq_total]
      exact Store.total_insert _ h _
    rw [hsize]
    simp only [Manager.create]
    omega
  snapshots := by
    have hheld : (m.create now fresh identity).state.held = 0 + m.held := Store.total_insert Entry.held h _
    rw [hheld]
    simp only [Manager.create]
    omega

namespace Settles

theorem refl (m : Manager) : Settles m m := by
  rw [Settles, gone_of_kept fun id e he => by rw [he, Option.isSome_some]]
  exact ⟨rfl, rfl⟩

/-- The entry of a session is replaced; what it holds less was pushed out, and what it holds more was taken. -/
theorem replace (he : m.sessions.get? id = some e) {e' : Entry} {m' : Manager}
    (hs : m'.sessions = m.sessions.adjust id fun _ => e')
    (hc : (m'.created, m'.expired, m'.destroyed, m'.discarded) = (m.created, m.expired, m.destroyed, m.discarded))
    (hn : m'.snapshotsCreated + (e.held + m.snapshotsEvicted) =
      m.snapshotsCreated + (e'.held + m'.snapshotsEvicted)) : Settles m m' := by
  simp only [Prod.mk.injEq] at hc
  obtain ⟨hcreated, hexpired, hdestroyed, hdiscarded⟩ := hc
  have hsize : m'.sessions.size = m.sessions.size := by rw [hs, Store.size_adjust]
  have hheld : m'.held + e.held = m.held + e'.held := by
    rw [held, hs]
    exact Store.total_adjust Entry.held he fun _ => e'
  have hgone : (m.gone m').total Entry.held = 0 := gone_of_kept fun k d hd => by
    rw [hs, Store.get?_adjust, hd]
    split <;> rfl
  constructor
  · omega
  · omega

/-- Sessions are dropped, and counted as expired or as destroyed. -/
theorem drop {ids : List String} (hnd : ids.Nodup) (hids : ∀ id ∈ ids, ∃ e, m.sessions.get? id = some e) {m' : Manager}
    (hs : m'.sessions = ids.foldl Store.erase m.sessions)
    (hd : m'.expired + m'.destroyed = m.expired + m.destroyed + ids.length)
    (hc : (m'.created, m'.discarded, m'.snapshotsCreated, m'.snapshotsEvicted) =
      (m.created, m.discarded, m.snapshotsCreated, m.snapshotsEvicted)) : Settles m m' := by
  simp only [Prod.mk.injEq] at hc
  obtain ⟨hcreated, hdiscarded, htaken, hevicted⟩ := hc
  have hsize : m'.sessions.size + ids.length = m.sessions.size := by rw [hs, Store.size_eraseAll ids hnd hids]
  have hheld : m'.held + (m.gone m').total Entry.held = m.held :=
    gone_of_filter (fun id => decide (id ∉ ids)) (hs.trans (Store.eraseAll_eq_filter ids m.sessions))
  constructor
  · omega
  · omega

theorem drop_one (he : m.sessions.get? id = some e) {m' : Manager} (hs : m'.sessions = m.sessions.erase id)
    (hd : m'.expired + m'.destroyed = m.expired + m.destroyed + 1)
    (hc : (m'.created, m'.discarded, m'.snapshotsCreated, m'.snapshotsEvicted) =
      (m.created, m.discarded, m.snapshotsCreated, m.snapshotsEvicted)) : Settles m m' :=
  drop (List.nodup_singleton id) (List.forall_mem_singleton.2 ⟨e, he⟩) hs hd hc

theorem evict (he : m.sessions.get? id = some e) : Settles m (m.evict id).state :=
  drop_one he rfl (Nat.add_right_comm _ _ _) rfl

theorem destroy (m : Manager) (id : String) : Settles m (m.destroy id).state := by
  unfold Manager.destroy
  split
  · exact refl m
  · rename_i he
    exact drop_one he rfl rfl rfl

theorem createOrGet (h : m.sessions.get? fresh = none) (presented : Option String) (ip userAgent : String) :
    Settles m (m.createOrGet now fresh presented ip userAgent).state := by
  rcases m.createOrGet_cases now fresh presented ip userAgent with ⟨id, e, -, hl, -, hr⟩ | ⟨-, -, hr⟩
  · rw [hr]
    exact replace hl.1 (Store.adjust_congr hl.1 rfl) rfl rfl
  · rw [hr, Settles, gone_create h]
    rcases m.lapsed_cases now presented with ⟨-, hlapsed⟩ | ⟨id, hk, hlapsed⟩
    · rw [hlapsed]
      exact (refl m).trans (create_balances h _)
    · have hid := hk id
      rw [beq_self_eq_true, lapses, Bool.and_eq_true] at hid
      obtain ⟨e, he, -⟩ := (Option.any_eq_true _ _).1 hid.2
      have hnone : (m.evict id).state.sessions.get? fresh = none := evict_session_none id h
      rw [hlapsed]
      exact (evict he).trans (create_balances hnone _)

theorem withLive (m : Manager) (now : Millis) (id : String) {α : Type} {f : Entry → Entry × α}
    (hf : ∀ e, (f e).1.listed = e.listed) : Settles m (m.withLive now id f).state := by
  rcases m.stands now id with hm | ⟨e, ho⟩ | ⟨e, hl⟩
  · rw [withLive_of_none hm]
    exact refl m
  · rw [withLive_of_over ho]
    exact evict ho.1
  · rw [withLive_of_live hl]
    refine replace hl.1 rfl rfl ?_
    rw [Entry.held, Entry.held, hf]

theorem createSnapshot (hf : m.snapshots.get? fresh = none) (document : Document) (text : Option String) :
    Settles m (m.createSnapshot now fresh id document text).state := by
  rcases m.stands now id with hm | ⟨e, ho⟩ | ⟨e, hl⟩
  · rw [createSnapshot_of_none hm hf]
    exact refl m
  · rw [(createSnapshot_of_over ho hf document text).2]
    exact evict ho.1
  · rw [(createSnapshot_of_live hl document text).2]
    refine replace hl.1 rfl rfl ?_
    have hlisted := congrArg List.length (e.push_listed fresh m.settings.maxHistory.toNat)
    simp only [List.length_append, List.length_singleton] at hlisted
    simp only [Entry.held, Entry.listed, Entry.countTransform, Entry.slide, List.length_append] at hlisted ⊢
    omega

theorem takeBack (m : Manager) (now : Millis) (id : String) (steps : Nat) :
    Settles m (m.takeBack now id steps).state := by
  rcases m.stands now id with hm | ⟨e, ho⟩ | ⟨e, hl⟩
  · rw [takeBack_of_none hm]
    exact refl m
  · rw [takeBack_of_over ho]
    exact evict ho.1
  · rw [takeBack_of_live hl]
    refine replace hl.1 rfl rfl ?_
    have hlisted := (e.pop_detach_listed steps m.settings.maxDetached.toNat).length_eq
    simp only [Entry.held, Entry.listed, Entry.slide, List.length_append] at hlisted ⊢
    omega

theorem sweep (m : Manager) (now : Millis) : Settles m (m.sweep now).state := by
  have hstored : ∀ id ∈ m.overdue now, ∃ e, m.sessions.get? id = some e := fun id hid => by
    obtain ⟨e, ho⟩ := mem_overdue.1 hid
    exact ⟨e, ho.1⟩
  obtain ⟨hended, hcounters⟩ := evictAll_counters (m.overdue now) m
  exact drop (m.nodup_overdue now) hstored (evictAll_sessions (m.overdue now) m) hended hcounters

end Settles

/-- What is discarded holds nothing. -/
theorem discardUnused_balances (m : Manager) (id : String) : Balances m (m.discardUnused id).state 0 := by
  unfold discardUnused
  split
  · rename_i hu
    obtain ⟨e, he, hu⟩ := (Option.any_eq_true _ _).1 hu
    have hsize := Store.size_erase he
    have hheld := Store.total_erase Entry.held he
    have hnothing : e.held = 0 := by rw [Entry.held, e.listed_of_isUnused hu, List.length_nil]
    constructor
    · dsimp only
      omega
    · simp only [held] at hheld ⊢
      omega
  · exact ⟨rfl, rfl⟩

/-- An operation changes the counters by what it does. -/
theorem perform_balances (m : Manager) (now : Millis) (act : Action)
    (hs : ∀ id ∈ act.sessionId?, m.sessions.get? id = none)
    (hn : ∀ id ∈ act.snapshotId?, m.snapshots.get? id = none) :
    Balances m (m.perform now act).state ((m.ended now act).total Entry.held) := by
  cases act with
  | createOrGet fresh presented ip userAgent => exact Settles.createOrGet (hs fresh rfl) presented ip userAgent
  | renew id => exact Settles.withLive m now id fun _ => rfl
  | createSnapshot fresh id document text => exact Settles.createSnapshot (hn fresh rfl) document text
  | undo id steps =>
    have htaken := Settles.takeBack m now id steps
    rw [← undo_state] at htaken
    exact htaken
  | reset id =>
    have htaken := Settles.takeBack m now id (m.historyLength id)
    rw [← reset_state] at htaken
    exact htaken
  | session id => exact Settles.withLive m now id fun _ => rfl
  | state id => exact Settles.withLive m now id fun _ => rfl
  | history id => exact Settles.withLive m now id (f := fun e => (e, e.history)) fun _ => rfl
  | snapshot id => exact Settles.refl m
  | stats => exact Settles.refl m
  | destroy id => exact Settles.destroy m id
  | discardUnused id => exact m.discardUnused_balances id
  | sweep => exact Settles.sweep m now

/-- So does a run. -/
theorem run_balances : ∀ (acts : Actions) {m : Manager}, m.Free acts → Balances m (m.run acts) (m.heldAtEnd acts)
  | [], _, _ => ⟨rfl, rfl⟩
  | (now, act) :: acts, m, h =>
    (m.perform_balances now act h.session h.snapshot).trans (run_balances acts h.perform)

end Manager

end Session

end SiteEdit
