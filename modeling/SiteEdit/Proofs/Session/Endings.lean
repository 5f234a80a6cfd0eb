import SiteEdit.Proofs.Audit.Window
import SiteEdit.Proofs.Policy.Payloads
import SiteEdit.Proofs.Session.Balance
/-!
# What the log says of a session that ends

When the time of a session is over, or when it is destroyed, the log says how many snapshots were deleted with it.
That is what the session held, except where an operation stored a snapshot of the session before it looked whether the
session is live: then the number is one too high.
-/
namespace SiteEdit

open Policy (Redactor)

namespace Session

open Audit (Audited Event)

/-! ## What is read of an entry -/

/-- The end of a session that an entry reports: of which session, and how many snapshots were deleted with it. -/
def ending? (entry : Audit.Entry) : Option (Option String × Option Json) :=
  if entry.event = "session_expired" ∨ entry.event = "session_destroyed" then
    some (entry.session, entry.data.get? "snapshots_deleted")
  else none

/-- The ends that events report once they are recorded: neither their numbers nor their times matter. -/
def endings (events : List Event) : List (Option String × Option Json) :=
  events.filterMap fun e => ending? (.recorded 0 (0, e))

theorem endings_trail (calls : Audit.Calls) :
    (Audit.trail calls).filterMap ending? = endings (calls.map Prod.snd) := by
  induction calls using List.reverseRecOn with
  | nil => rfl
  | append_singleton calls call ih =>
    rw [Audit.trail_concat, List.filterMap_append, ih, List.map_append, endings, endings, List.filterMap_append]
    rfl

theorem endings_nil : endings [] = [] := rfl

theorem endings_append (events events' : List Event) :
    endings (events ++ events') = endings events ++ endings events' :=
  List.filterMap_append

/-- What is to be said of a session that ends: its id, what it held, and what was stored of it besides. -/
def told (stray : Nat) (p : String × Entry) : Option String × Option Json :=
  (some p.1, some (Json.ofNat (p.2.held + stray)))

theorem get?_deleted (n : Nat) :
    (Redactor.builtin.redactJson (Json.object [("snapshots_deleted", Json.ofNat n)])).get? "snapshots_deleted" =
      some (Json.ofNat n) := by
  have hname : Redactor.builtin.redactText "snapshots_deleted" = "snapshots_deleted" := by decide +kernel
  rw [Redactor.get?_redactJson_object (by simpa using hname)]
  simp [Json.ofNat, Redactor.redactJson]

namespace Manager

variable {m m' : Manager} {now : Millis} {id fresh : String} {e : Entry} {stray : Nat} {events : List Event}

theorem ending?_note {name : String} (h : name = "session_expired" ∨ name = "session_destroyed") (id : String)
    (n : Nat) :
    endings [note name id [("snapshots_deleted", Json.ofNat n)]] = [(some id, some (Json.ofNat n))] := by
  simp only [endings, List.filterMap_cons, List.filterMap_nil, ending?, Audit.Entry.recorded, note, h, if_true,
    get?_deleted]

/-! ## How many snapshots a session has -/

/-- The stored snapshots of a session are as many as it lists. -/
theorem Sound.size_filter (h : m.Sound) (he : m.sessions.get? id = some e) :
    (m.snapshots.filter fun _ s => s.sessionId == id).size = e.held := by
  have hnodup : e.listed.Nodup := by
    rw [← listed_of_some he]
    exact h.owned.nodup id
  have hmem : ∀ x, x ∈ (m.snapshots.filter fun _ s => s.sessionId == id).entries.map Prod.fst ↔ x ∈ e.listed :=
    fun x => by
      rw [Store.mem_keys_iff, ← listed_of_some he, h.owned.mem_iff id x]
      simp only [Store.get?_filter, Option.filter_eq_some_iff, beq_iff_eq]
  have hperm := (List.perm_ext_iff_of_nodup (Store.nodup _) hnodup).2 hmem
  rw [Entry.held, ← hperm.length_eq, List.length_map]
  rfl

theorem size_kept (m : Manager) (id : String) :
    (m.snapshots.filter fun _ s => s.sessionId != id).size + (m.snapshots.filter fun _ s => s.sessionId == id).size =
      m.snapshots.size := by
  have htotal := Store.total_filter (fun _ => 1) (fun _ (s : Snapshot) => s.sessionId != id) m.snapshots
  simpa only [← Store.size_eq_total, bne, Bool.not_not] using htotal

/-- With a session go the snapshots that it holds. -/
theorem Sound.deleted (h : m.Sound) (he : m.sessions.get? id = some e) : (m.dropSession id).2 = e.held := by
  have hsize := m.size_kept id
  have hheld := h.size_filter he
  show m.snapshots.size - (m.snapshots.filter fun _ s => s.sessionId != id).size = e.held
  omega

/-- A snapshot of the session that was stored before goes, too. -/
theorem Sound.deleted_stray (h : m.Sound) (he : m.sessions.get? id = some e) (hf : m.snapshots.get? fresh = none)
    {t : Snapshot} (ht : t.sessionId = id) :
    ({ m with snapshots := m.snapshots.insert fresh t }.dropSession id).2 = e.held + 1 := by
  have hkept : ((m.snapshots.insert fresh t).filter fun _ s => s.sessionId != id) =
      m.snapshots.filter fun _ s => s.sessionId != id := Store.filter_insert_of_neg hf (by simp [ht])
  have hinsert : (m.snapshots.insert fresh t).size = 1 + m.snapshots.size := by
    rw [Store.size_eq_total, Store.size_eq_total]
    exact Store.total_insert _ hf _
  have hsize := m.size_kept id
  have hheld := h.size_filter he
  show (m.snapshots.insert fresh t).size - ((m.snapshots.insert fresh t).filter fun _ s => s.sessionId != id).size =
    e.held + 1
  rw [hkept]
  omega

/-! ## What operations report -/

/-- The sessions that are gone, as a list. -/
theorem gone_perm {l : List (String × Entry)} (hl : l.Nodup)
    (h : ∀ k e, (k, e) ∈ l ↔ m.sessions.get? k = some e ∧ m'.sessions.get? k = none) :
    (m.gone m').entries.Perm l := by
  refine (List.perm_ext_iff_of_nodup (m.gone m').nodup.of_map hl).2 fun ⟨k, e⟩ => ?_
  rw [h, ← Store.get?_eq_some_iff, gone, Store.get?_filter, Option.filter_eq_some_iff, Option.isNone_iff_eq_none]

/-- The ends that events report are those of the sessions that are gone, each with its number. -/
def Counted (m : Manager) (stray : Nat) (m' : Manager) (events : List Event) : Prop :=
  (endings events).Perm ((m.gone m').entries.map (told stray))

namespace Counted

theorem quiet (he : endings events = [])
    (hk : ∀ k e, m.sessions.get? k = some e → ∃ e', m'.sessions.get? k = some e') : m.Counted stray m' events := by
  have hgone : (m.gone m').entries.Perm [] := gone_perm List.nodup_nil fun k e => by
    refine iff_of_false List.not_mem_nil fun ⟨hke, hn⟩ => ?_
    obtain ⟨e', he'⟩ := hk k e hke
    rw [hn] at he'
    cases he'
  rw [Counted, he, hgone.eq_nil]
  exact .refl _

theorem same (m : Manager) (he : endings events = []) : m.Counted stray m events :=
  quiet he fun _ e hk => ⟨e, hk⟩

theorem adjusted (id : String) (f : Entry → Entry) (hs : m'.sessions = m.sessions.adjust id f)
    (he : endings events = []) : m.Counted stray m' events := quiet he fun k e hk => by
  rw [hs, Store.get?_adjust, hk]
  split
  · exact ⟨f e, rfl⟩
  · exact ⟨e, rfl⟩

/-- One session is dropped, and reported with its number. -/
theorem dropped (he : m.sessions.get? id = some e) (hs : m'.sessions = m.sessions.erase id)
    (hn : endings events = [told stray (id, e)]) : m.Counted stray m' events := by
  have hgone : (m.gone m').entries.Perm [(id, e)] := gone_perm (List.nodup_singleton _) fun k d => by
    rw [hs, Store.get?_erase, List.mem_singleton, Prod.mk.injEq]
    constructor
    · rintro ⟨rfl, rfl⟩
      exact ⟨he, if_pos rfl⟩
    · rintro ⟨hd, hn⟩
      by_cases hk : k = id
      · rw [hk, he] at hd
        exact ⟨hk, (Option.some.inj hd).symm⟩
      · rw [if_neg hk, hd] at hn
        cases hn
  rw [Counted, hn]
  exact (hgone.map (told stray)).symm

/-- A session that is started afterwards changes nothing. -/
theorem create (h : m.Counted stray m' events) (hf : m.sessions.get? fresh = none) (identity : String) :
    m.Counted stray (m'.create now fresh identity).state (events ++ (m'.create now fresh identity).events) := by
  have hnone : endings (m'.create now fresh identity).events = [] := rfl
  rwa [Counted, gone_create hf, endings_append, hnone, List.append_nil]

end Counted

theorem Sound.evict_endings (h : m.Sound) (he : m.sessions.get? id = some e) :
    endings (m.evict id).events = [told 0 (id, e)] := by
  rw [told, Nat.add_zero, ← h.deleted he]
  exact ending?_note (.inl rfl) id _

namespace Counted

theorem evict (h : m.Sound) (he : m.sessions.get? id = some e) : m.Counted 0 (m.evict id).state (m.evict id).events :=
  dropped he rfl (h.evict_endings he)

theorem withLive {α : Type} (h : m.Sound) (f : Entry → Entry × α) :
    m.Counted 0 (m.withLive now id f).state (m.withLive now id f).events := by
  rcases m.stands now id with hm | ⟨e, ho⟩ | ⟨e, hl⟩
  · rw [withLive_of_none hm]
    exact same m rfl
  · rw [withLive_of_over ho]
    exact evict h ho.1
  · rw [withLive_of_live hl]
    exact adjusted id (fun _ => (f e).1) rfl rfl

/-- What is reported of snapshots that are taken back is no end. -/
theorem takeBack {α : Type} (h : m.Sound) (steps : Nat)
    {f : Except Error (List String × List String × Option String) → Manager → Audited Manager α}
    (hf : ∀ r m', (f r m').state = m' ∧ endings (f r m').events = []) :
    m.Counted 0 ((m.takeBack now id steps).next f).state ((m.takeBack now id steps).next f).events := by
  simp only [Audited.next, (hf _ _).1]
  rw [Counted, endings_append, (hf _ _).2, List.append_nil]
  rcases m.stands now id with hm | ⟨e, ho⟩ | ⟨e, hl⟩
  · rw [takeBack_of_none hm]
    exact same m rfl
  · rw [takeBack_of_over ho]
    exact evict h ho.1
  · rw [takeBack_of_live hl]
    let left := ((e.pop steps).1.detach (e.pop steps).2 m.settings.maxDetached.toNat).1
    exact adjusted id (fun _ => left.slide now m.settings.ttl) rfl rfl

theorem undo (h : m.Sound) (steps : Nat) :
    m.Counted 0 (m.undo now id steps).state (m.undo now id steps).events := by
  refine takeBack h steps fun r m' => ?_
  rcases r with _ | ⟨_, _, _⟩ <;> exact ⟨rfl, rfl⟩

theorem reset (h : m.Sound) : m.Counted 0 (m.reset now id).state (m.reset now id).events := by
  rw [reset_eq]
  refine takeBack h _ fun r m' => ?_
  rcases r with _ | ⟨_, _, _⟩ <;> exact ⟨rfl, rfl⟩

/-- The new snapshot is counted, as it is stored before the session is looked at. -/
theorem createSnapshot (h : m.Sound) (hf : m.snapshots.get? fresh = none) (document : Document) (text : Option String) :
    m.Counted 1 (m.createSnapshot now fresh id document text).state
      (m.createSnapshot now fresh id document text).events := by
  rcases m.stands now id with hm | ⟨e, ho⟩ | ⟨e, hl⟩
  · rw [createSnapshot_of_none hm hf]
    exact same m rfl
  · let stored : Manager := { m with snapshots := m.snapshots.insert fresh (.taken now fresh id document text) }
    have hevents : (m.createSnapshot now fresh id document text).events = (stored.evict id).events := by
      have hover : stored.Over now id e := ho
      show ((stored.withLive now id _).next _).events = _
      rw [withLive_of_over hover]
      exact List.append_nil _
    have hdeleted : (stored.dropSession id).2 = e.held + 1 := h.deleted_stray ho.1 hf rfl
    rw [hevents, (createSnapshot_of_over ho hf document text).2]
    refine dropped ho.1 rfl ?_
    rw [told, ← hdeleted]
    exact ending?_note (.inl rfl) id _
  · let pushed := (e.push fresh m.settings.maxHistory.toNat).1
    have hs := congrArg Manager.sessions (@createSnapshot_of_live m now id fresh e hl document text).2
    refine adjusted id (fun _ => (pushed.slide now m.settings.ttl).countTransform) hs ?_
    simp only [Manager.createSnapshot, Manager.withLive, hl.1, hl.2, Bool.false_eq_true, if_false, Audited.next]
    rfl

theorem createOrGet (h : m.Sound) (hf : m.sessions.get? fresh = none) (presented : Option String)
    (ip userAgent : String) :
    m.Counted 0 (m.createOrGet now fresh presented ip userAgent).state
      (m.createOrGet now fresh presented ip userAgent).events := by
  cases presented with
  | none => exact (same m endings_nil).create hf _
  | some id =>
    simp only [Manager.createOrGet, Option.bind_some]
    rcases m.stands now id with hm | ⟨e, ho⟩ | ⟨e, hl⟩
    · simp only [hm, Option.map_none]
      exact (same m endings_nil).create hf _
    · simp only [ho.1, ho.2, Option.map_some, if_true]
      exact (evict h ho.1).create hf _
    · simp only [hl.1, hl.2, Option.map_some, Bool.false_eq_true, if_false]
      split
      · exact adjusted id Entry.countRequest rfl rfl
      · exact (same m rfl).create hf _

theorem destroy (h : m.Sound) (id : String) : m.Counted 0 (m.destroy id).state (m.destroy id).events := by
  unfold Manager.destroy
  split
  · exact same m rfl
  · next he =>
    refine dropped he rfl ?_
    rw [told, Nat.add_zero, ← h.deleted he]
    exact ending?_note (.inr rfl) id _

end Counted

theorem Sound.evictAll_endings : ∀ (l : List (String × Entry)) {m : Manager}, m.Sound → (l.map Prod.fst).Nodup →
    (∀ p ∈ l, m.sessions.get? p.1 = some p.2) → endings (m.evictAll (l.map Prod.fst)).events = l.map (told 0)
  | [], _, _, _, _ => rfl
  | (id, e) :: l, m, h, hnd, hl => by
    rw [List.map_cons, List.nodup_cons] at hnd
    have hrest : ∀ p ∈ l, (m.evict id).state.sessions.get? p.1 = some p.2 := fun p hp => by
      have hne : p.1 ≠ id := fun hid => hnd.1 (List.mem_map.2 ⟨p, hp, hid⟩)
      rw [evict_sessions, Store.get?_erase, if_neg hne]
      exact hl p (List.mem_cons_of_mem _ hp)
    have hrun := evictAll_endings l (h.evict id) hnd.2 hrest
    show endings ((m.evict id).events ++ _) = _
    rw [endings_append, h.evict_endings (hl (id, e) List.mem_cons_self), List.map_cons]
    exact congrArg (told 0 (id, e) :: ·) hrun

theorem Counted.sweep (h : m.Sound) : m.Counted 0 (m.sweep now).state (m.sweep now).events := by
  let late := m.sessions.toSorted.filter fun entry => entry.2.session.isExpired now
  have hmem : ∀ k e, (k, e) ∈ late ↔ m.Over now k e := fun k e => by
    rw [List.mem_filter, Store.mem_toSorted, ← Store.get?_eq_some_iff]
    rfl
  have hnodup : (late.map Prod.fst).Nodup := m.nodup_overdue now
  have hgone : (m.gone (m.sweep now).state).entries.Perm late := gone_perm hnodup.of_map fun k e => by
    show _ ↔ _ ∧ (m.evictAll (m.overdue now)).state.sessions.get? k = none
    rw [hmem, evictAll_sessions, Store.get?_eraseAll]
    refine and_congr_right fun hk => ⟨fun hx => if_pos (mem_overdue.2 ⟨e, hk, hx⟩), fun hn => ?_⟩
    split at hn
    · next ho =>
      obtain ⟨d, hd⟩ := mem_overdue.1 ho
      rw [Option.some.inj (hk.symm.trans hd.1)]
      exact hd.2
    · rw [hk] at hn
      cases hn
  have hendings : endings (m.sweep now).events = late.map (told 0) :=
    h.evictAll_endings late hnodup fun p hp => ((hmem p.1 p.2).1 hp).1
  rw [Counted, hendings]
  exact (hgone.map _).symm

end Manager

/-- How many snapshots an action stores before it looks whether their session is live. -/
def Action.stray : Action → Nat
  | createSnapshot .. => 1
  | _ => 0

namespace Manager

variable {m : Manager} {now : Millis} {act : Action}

theorem Sound.perform_endings (h : m.Sound) (hs : ∀ id ∈ act.sessionId?, m.sessions.get? id = none)
    (hn : ∀ x ∈ act.snapshotId?, m.snapshots.get? x = none) :
    (endings (m.perform now act).events).Perm ((m.ended now act).entries.map (told act.stray)) := by
  cases act with
  | createOrGet fresh presented ip userAgent => exact Counted.createOrGet h (hs fresh rfl) presented ip userAgent
  | renew id => exact Counted.withLive h _
  | createSnapshot fresh id document text => exact Counted.createSnapshot h (hn fresh rfl) document text
  | undo id steps => exact Counted.undo h steps
  | reset id => exact Counted.reset h
  | session id => exact Counted.withLive h _
  | state id => exact Counted.withLive h _
  | history id => exact Counted.withLive h fun e => (e, e.history)
  | snapshot x => exact Counted.same m rfl
  | stats => exact Counted.same m rfl
  | destroy id => exact Counted.destroy h id
  | discardUnused id =>
    show (endings (m.discardUnused id).events).Perm []
    unfold Manager.discardUnused
    split <;> exact .refl _
  | sweep => exact Counted.sweep h

/-- **The log counts what goes with a session.**  After every run, the entries that an operation makes report an end
of just those sessions that it ends, once each, with the number of snapshots that the session held before, in force and
detached.  An operation that stores a snapshot of the session first reports one more. -/
theorem endings_counted (s : Settings) (acts : Actions) (now : Millis) (act : Action)
    (hf : Actions.Fresh (acts ++ [(now, act)])) :
    let m := (empty s).run acts
    ((Audit.trail ((m.perform now act).events.map fun event => (now, event))).filterMap ending?).Perm
      ((m.ended now act).entries.map fun p =>
        (some p.1, some (Json.ofNat (p.2.history.length + p.2.detached.length + act.stray)))) := by
  intro m
  have hfree := free_empty s hf
  have hlast : m.Free [(now, act)] := Free.run acts hfree
  have hm : m.Sound := .run acts (sound_empty s) hfree.left
  have hevents : ((m.perform now act).events.map fun event => (now, event)).map Prod.snd =
      (m.perform now act).events := by simp
  have htold : told act.stray = fun p =>
      (some p.1, some (Json.ofNat (p.2.history.length + p.2.detached.length + act.stray))) := by
    funext p
    simp only [told, Entry.held, Entry.listed, List.length_append]
  rw [endings_trail, hevents, ← htold]
  exact hm.perform_endings hlast.session hlast.snapshot

/-- Two sessions, one with a snapshot in force and a detached one. -/
def endedRun : Actions :=
  [(0, .createOrGet "a" none "192.0.2.1" "agent"), (1, .createSnapshot "u" "a" (.ofChanges []) none),
    (2, .createSnapshot "v" "a" (.ofChanges []) none), (3, .undo "a" 1),
    (4, .createOrGet "b" none "192.0.2.2" "agent"), (5, .createSnapshot "w" "b" (.ofChanges []) none)]

theorem endings_counted_lapsed :
    let m := (empty { ttlSecs := 1 }).run endedRun
    Actions.Fresh (endedRun ++ [(2000, .history "a")]) ∧
      ((Audit.trail ((m.perform 2000 (.history "a")).events.map fun event => (2000, event))).filterMap ending?).Perm
        [(some "a", some (Json.ofNat 2))] := by
  intro m
  have hf : Actions.Fresh (endedRun ++ [(2000, .history "a")]) := ⟨by decide, by decide⟩
  have hended : (m.ended 2000 (.history "a")).entries.map (fun p =>
      (p.1, p.2.history.length + p.2.detached.length + (Action.history "a").stray)) = [("a", 2)] := by decide +kernel
  have hcounted := endings_counted { ttlSecs := 1 } endedRun 2000 (.history "a") hf
  have hmap := congrArg (List.map fun p : String × Nat => (some p.1, some (Json.ofNat p.2))) hended
  rw [List.map_map] at hmap
  exact ⟨hf, hcounted.trans (.of_eq hmap)⟩

/-- A snapshot that an expired session refuses is counted with those that the session held. -/
theorem refused_snapshot_counted :
    let m := (empty { ttlSecs := 1 }).run endedRun
    let act := Action.createSnapshot "x" "b" (.ofChanges []) none
    Actions.Fresh (endedRun ++ [(2000, act)]) ∧
      ((m.ended 2000 act).entries.map fun p => (p.1, p.2.history.length + p.2.detached.length)) = [("b", 1)] ∧
      (Audit.trail ((m.perform 2000 act).events.map fun event => (2000, event))).filterMap ending? =
        [(some "b", some (Json.ofNat 2))] := by
  intro m act
  exact ⟨⟨by decide, by decide⟩, by decide +kernel, by decide +kernel⟩

end Manager

end Session

end SiteEdit
