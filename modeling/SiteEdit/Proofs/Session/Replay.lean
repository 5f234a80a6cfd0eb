import SiteEdit.Proofs.Audit.Window
import SiteEdit.Proofs.Policy.Payloads
import SiteEdit.Proofs.Policy.Words
import SiteEdit.Proofs.Session.Sound
/-!
# The log tells the queues

The entries of the log say what became of every session: that it started, which snapshots its queues got and lost, that
it ended.  Who reads them in order, and nothing else, knows the histories and the detached queues that are stored
(`replay_eq`), as long as the log has lost no entry and redaction leaves the ids of the snapshots as they are.
-/
namespace SiteEdit

open Policy (Redactor)

namespace Session

open Audit (Audited Event)

/-! ## Queues -/

/-- The ids of the snapshots of a session, in force and detached, the oldest first. -/
structure Queues where
  history : List String
  detached : List String
  deriving DecidableEq, Repr

namespace Queues

/-- A snapshot comes into force. -/
def append (q : Queues) (x : String) : Queues := { q with history := q.history ++ [x] }

/-- The snapshot at the end of the history goes to the end of the detached queue.  No other one does. -/
def detach (q : Queues) (x : String) : Queues :=
  if q.history.getLast? = some x then { history := q.history.dropLast, detached := q.detached ++ [x] } else q

/-- Snapshots are gone. -/
def delete (q : Queues) (ids : List String) : Queues :=
  { history := q.history.filter (· ∉ ids), detached := q.detached.filter (· ∉ ids) }

/-- The end of a history is detached, the newest first. -/
theorem foldl_detach (kept : List String) : ∀ moved detached : List String,
    moved.foldl Queues.detach ⟨kept ++ moved.reverse, detached⟩ = ⟨kept, detached ++ moved⟩
  | [], detached => by rw [List.reverse_nil, List.append_nil, List.append_nil, List.foldl_nil]
  | x :: moved, detached => by
    have hstep : Queues.detach ⟨kept ++ (x :: moved).reverse, detached⟩ x =
        ⟨kept ++ moved.reverse, detached ++ [x]⟩ := by
      rw [List.reverse_cons, ← List.append_assoc, Queues.detach, if_pos (List.getLast?_concat ..), List.dropLast_concat]
    rw [List.foldl_cons, hstep, foldl_detach kept moved, List.append_assoc, List.singleton_append]

end Queues

/-- The queues of an entry. -/
def Entry.queues (e : Entry) : Queues := { history := e.history, detached := e.detached }

/-- The queues of the stored sessions. -/
def Manager.queues (m : Manager) : Store Queues := m.sessions.map Entry.queues

/-! ## News -/

/-- What an entry of the log says of a session. -/
inductive News where
  | started
  | taken (snapshot : String) (evicted : List String)
  | takenBack (removed purged : List String)
  | ended

namespace News

/-- What is said under a name. -/
def read? (name : String) (data : Json) : Option News :=
  match name with
  | "session_created" => some .started
  | "snapshot_created" => do
    let snapshot ← (← data.get? "snapshot_id").asString?
    let evicted ← (← data.get? "evicted").strings?
    return .taken snapshot evicted
  | "snapshot_undone" | "session_reset" => do
    let removed ← (← data.get? "removed").strings?
    let purged ← (← data.get? "purged").strings?
    return .takenBack removed purged
  | "session_expired" | "session_destroyed" | "session_discarded" => some .ended
  | _ => none

/-- What is known of the sessions once there are news of one of them. -/
def tell (known : Store Queues) (id : String) : News → Store Queues
  | started => known.insert id { history := [], detached := [] }
  | taken snapshot evicted => known.adjust id fun q => (q.append snapshot).delete evicted
  | takenBack removed purged => known.adjust id fun q => (removed.foldl Queues.detach q).delete purged
  | ended => known.erase id

end News

/-- What is known of the sessions once an entry is read. -/
def retell (known : Store Queues) (entry : Audit.Entry) : Store Queues :=
  match entry.session, News.read? entry.event entry.data with
  | some id, some news => news.tell known id
  | _, _ => known

/-- What is known once an event is recorded and read: neither its number nor its time matters. -/
def hear (known : Store Queues) (e : Event) : Store Queues := retell known (.recorded 0 (0, e))

theorem retell_trail (known : Store Queues) (calls : Audit.Calls) :
    (Audit.trail calls).foldl retell known = (calls.map Prod.snd).foldl hear known := by
  induction calls using List.reverseRecOn with
  | nil => rfl
  | append_singleton calls call ih =>
    rw [Audit.trail_concat, List.foldl_concat, ih, List.map_append, List.map_singleton, List.foldl_concat]
    rfl

theorem filter_take_eq_drop {l : List String} (h : l.Nodup) (n : Nat) : l.filter (· ∉ l.take n) = l.drop n := by
  have hdisjoint := (List.nodup_append'.1 ((List.take_append_drop n l).symm ▸ h)).2.2
  conv_lhs => rw [← List.take_append_drop n l]
  rw [List.filter_append, List.take_append_drop, List.filter_eq_nil_iff.2 (by simp), List.nil_append]
  exact List.filter_eq_self.2 fun x hx => decide_eq_true fun hx' => hdisjoint hx' hx


/-! ## What the queues give up -/

namespace Queues

variable {history detached : List String}

theorem delete_history (h : (history ++ detached).Nodup) (n : Nat) :
    Queues.delete ⟨history, detached⟩ (history.take n) = ⟨history.drop n, detached⟩ := by
  obtain ⟨hhistory, -, hdisjoint⟩ := List.nodup_append'.1 h
  have hkept : detached.filter (· ∉ history.take n) = detached :=
    List.filter_eq_self.2 fun x hx => decide_eq_true fun hx' => hdisjoint (List.mem_of_mem_take hx') hx
  rw [delete, filter_take_eq_drop hhistory, hkept]

theorem delete_detached (h : (history ++ detached).Nodup) (n : Nat) :
    Queues.delete ⟨history, detached⟩ (detached.take n) = ⟨history, detached.drop n⟩ := by
  obtain ⟨-, hdetached, hdisjoint⟩ := List.nodup_append'.1 h
  have hkept : history.filter (· ∉ detached.take n) = history :=
    List.filter_eq_self.2 fun x hx => decide_eq_true fun hx' => hdisjoint hx (List.mem_of_mem_take hx')
  rw [delete, filter_take_eq_drop hdetached, hkept]

/-- The news of a new snapshot say how the queues change. -/
theorem taken_eq {e : Entry} {x : String} (h : (x :: e.listed).Nodup) (cap : Nat) :
    (e.queues.append x).delete (e.push x cap).2 = (e.push x cap).1.queues := by
  refine delete_history ?_ _
  rw [List.append_assoc]
  exact List.perm_middle.nodup_iff.2 h

/-- The news of snapshots that are taken back say how the queues change. -/
theorem takenBack_eq {e : Entry} (h : e.listed.Nodup) (n cap : Nat) :
    let queued := (e.pop n).1.detach (e.pop n).2 cap
    ((e.pop n).2.foldl Queues.detach e.queues).delete queued.2 = queued.1.queues := by
  have hsplit : e.queues = ⟨(e.pop n).1.history ++ (e.pop n).2.reverse, (e.pop n).1.detached⟩ := by
    simp only [Entry.pop_eq, List.reverse_reverse, List.take_append_drop, Entry.queues]
  have hmoved : ((e.pop n).1.history ++ ((e.pop n).1.detached ++ (e.pop n).2)).Perm e.listed := calc
    List.Perm _ ((e.pop n).1.history ++ ((e.pop n).2.reverse ++ (e.pop n).1.detached)) :=
      (List.perm_append_comm.trans ((List.reverse_perm _).symm.append_right _)).append_left _
    _ = e.listed := by
      simp only [Entry.pop_eq, List.reverse_reverse, ← List.append_assoc, List.take_append_drop, Entry.listed]
  intro queued
  rw [hsplit, foldl_detach]
  exact delete_detached (hmoved.nodup_iff.2 h) _

end Queues

/-! ## Each operation tells what it does -/

/-- Who knew the queues before an operation and reads what it reports knows them after it. -/
def Tells {α : Type} (known : Store Queues) (a : Audited Manager α) : Prop := a.events.foldl hear known = a.state.queues

namespace Tells

variable {α β : Type} {known : Store Queues} {a : Audited Manager α}

theorem silent (he : a.events = []) (hs : a.state.queues = known) : Tells known a := by
  rw [Tells, he, hs]
  rfl

theorem map (h : Tells known a) (f : α → β) : Tells known (a.map f) := h

theorem next {f : α → Manager → Audited Manager β} (h : Tells known a)
    (hf : Tells a.state.queues (f a.result a.state)) : Tells known (a.next f) := by
  have hevents : (a.next f).events = a.events ++ (f a.result a.state).events := rfl
  rw [Tells, hevents, List.foldl_append, h]
  exact hf

end Tells

namespace Manager

variable {m : Manager} {now : Millis} {id fresh : String} {e : Entry}

/-- A change of an entry that leaves its queues as they are. -/
theorem queues_kept (m : Manager) (id : String) {f : Entry → Entry} (hf : ∀ e, (f e).queues = e.queues) :
    (m.sessions.adjust id f).map Entry.queues = m.queues := by
  apply Store.ext_entries
  simp only [queues, Store.map, Store.adjust, List.map_map, List.map_inj_left, Function.comp_apply]
  intro e _
  split
  · rw [hf]
  · rfl

/-- The queues of one session change. -/
theorem queues_replaced (he : m.sessions.get? id = some e) {e' : Entry} {g : Queues → Queues}
    (hg : g e.queues = e'.queues) : m.queues.adjust id g = (m.sessions.adjust id fun _ => e').map Entry.queues := by
  have hq : m.queues.get? id = some e.queues := by rw [queues, Store.get?_map, he, Option.map_some]
  rw [Store.adjust_congr (g := fun _ => e'.queues) hq hg]
  exact Store.map_adjust Entry.queues m.sessions id _ _ fun _ => rfl

theorem evict_tells (m : Manager) (id : String) : Tells m.queues (m.evict id) :=
  Store.map_erase Entry.queues m.sessions id

theorem create_tells (m : Manager) (now : Millis) (fresh identity : String) :
    Tells m.queues (m.create now fresh identity) :=
  Store.map_insert Entry.queues m.sessions fresh (.ofSession (m.create now fresh identity).result)

theorem createOrGet_tells (m : Manager) (now : Millis) (fresh : String) (presented : Option String)
    (ip userAgent : String) : Tells m.queues (m.createOrGet now fresh presented ip userAgent) := by
  unfold createOrGet
  dsimp only
  split
  · exact m.create_tells now fresh _
  · split_ifs
    · exact (m.evict_tells _).next (create_tells _ now fresh _)
    · exact .silent rfl (m.queues_kept _ fun _ => rfl)
    · exact Tells.next (a := ⟨(), m, _⟩) rfl (m.create_tells now fresh _)

theorem withLive_tells {α : Type} (m : Manager) (now : Millis) (id : String) {f : Entry → Entry × α}
    (hf : ∀ e, (f e).1.queues = e.queues) : Tells m.queues (m.withLive now id f) := by
  rcases m.stands now id with h | ⟨e, h⟩ | ⟨e, h⟩
  · rw [withLive_of_none h]
    exact .silent rfl rfl
  · rw [withLive_of_over h]
    exact (m.evict_tells id).map _
  · rw [withLive_of_live h, Store.adjust_congr (g := fun e => (f e).1) h.1 rfl]
    exact .silent rfl (m.queues_kept id hf)

theorem evictAll_tells : ∀ (ids : List String) (m : Manager), Tells m.queues (m.evictAll ids)
  | [], _ => .silent rfl rfl
  | id :: ids, m => (m.evict_tells id).next (evictAll_tells ids _)

theorem destroy_tells (m : Manager) (id : String) : Tells m.queues (m.destroy id) := by
  unfold destroy
  split
  · exact .silent rfl rfl
  · exact Store.map_erase Entry.queues m.sessions id

theorem discardUnused_tells (m : Manager) (id : String) : Tells m.queues (m.discardUnused id) := by
  unfold discardUnused
  split_ifs
  · exact Store.map_erase Entry.queues m.sessions id
  · exact .silent rfl rfl

/-! ## What is read of an event -/

/-- The names of the members of these events. -/
def memberNames : List String := ["snapshot_id", "changes", "evicted", "steps", "removed", "current", "purged"]

theorem memberNames_kept : ∀ k ∈ memberNames, Redactor.builtin.redactText k = k :=
  Policy.redactText_names (by decide)

theorem get?_redacted (ms : List (String × Json)) (h : ∀ m ∈ ms, m.1 ∈ memberNames) (k : String) :
    (Redactor.builtin.redactJson (Json.object ms)).get? k = (ms.reverse.lookup k).map Redactor.builtin.redactJson :=
  Redactor.get?_redactJson_object (fun m hm => memberNames_kept m.1 (h m hm)) k

theorem hear_note (known : Store Queues) {name id : String} {ms : List (String × Json)} {news : News}
    (h : News.read? name (Redactor.builtin.redactJson (Json.object ms)) = some news) :
    hear known (note name id ms) = news.tell known id := by
  simp only [hear, retell, Audit.Entry.recorded, note, h]

theorem hear_taken (known : Store Queues) (id : String) {x : String} {evicted : List String} (changes : Json)
    (hx : Redactor.builtin.redactText x = x) (he : ∀ y ∈ evicted, Redactor.builtin.redactText y = y) :
    hear known (note "snapshot_created" id
      [("snapshot_id", .str x), ("changes", changes), ("evicted", Json.ofStrings evicted)]) =
      (News.taken x evicted).tell known id := by
  have hget := get?_redacted
    [("snapshot_id", .str x), ("changes", changes), ("evicted", Json.ofStrings evicted)] (by simp [memberNames])
  have hid := (hget "snapshot_id").trans (congrArg (some <| Json.str ·) hx)
  have hevicted := Redactor.strings?_redactJson he
  refine hear_note known ?_
  simp [News.read?, hid, hget "evicted", Json.asString?, hevicted]

theorem hear_takenBack (known : Store Queues) (id : String) {name : String} {ms : List (String × Json)}
    {removed purged : List String} (hname : name = "snapshot_undone" ∨ name = "session_reset")
    (hms : ∀ m ∈ ms, m.1 ∈ memberNames) (hr : ms.reverse.lookup "removed" = some (Json.ofStrings removed))
    (hp : ms.reverse.lookup "purged" = some (Json.ofStrings purged))
    (hkept : ∀ x ∈ removed ++ purged, Redactor.builtin.redactText x = x) :
    hear known (note name id ms) = (News.takenBack removed purged).tell known id := by
  have hremoved := Redactor.strings?_redactJson fun x hx => hkept x (List.mem_append_left _ hx)
  have hpurged := Redactor.strings?_redactJson fun x hx => hkept x (List.mem_append_right _ hx)
  refine hear_note known ?_
  rcases hname with rfl | rfl
  · simp [News.read?, get?_redacted ms hms, hr, hp, hremoved, hpurged]
  · simp [News.read?, get?_redacted ms hms, hr, hp, hremoved, hpurged]

/-! ## Snapshots -/

/-- Redaction leaves the ids of the stored snapshots as they are. -/
def Unmasked (m : Manager) : Prop := ∀ x s, m.snapshots.get? x = some s → Redactor.builtin.redactText x = x

theorem Sound.listed_kept (h : m.Sound) (hu : m.Unmasked) (he : m.sessions.get? id = some e) :
    ∀ x ∈ e.listed, Redactor.builtin.redactText x = x := fun x hx => by
  obtain ⟨s, hs, -⟩ := h.owned.stored he hx
  exact hu x s hs

theorem Sound.listed_nodup (h : m.Sound) (he : m.sessions.get? id = some e) : e.listed.Nodup := by
  have hnodup := h.owned.nodup id
  rwa [listed_of_some he] at hnodup

theorem createSnapshot_tells (h : m.Sound) (hu : m.Unmasked) (hf : m.snapshots.get? fresh = none)
    (hk : Redactor.builtin.redactText fresh = fresh) (document : Document) (text : Option String) :
    Tells m.queues (m.createSnapshot now fresh id document text) := by
  rcases m.stands now id with hm | ⟨e, ho⟩ | ⟨e, hl⟩
  · rw [createSnapshot_of_none hm hf]
    exact .silent rfl rfl
  · -- the eviction is that of a manager with one more snapshot, whose sessions are the same
    let stored : Manager := { m with snapshots := m.snapshots.insert fresh (.taken now fresh id document text) }
    have hover : stored.Over now id e := ho
    show Tells stored.queues ((stored.withLive now id _).next _)
    rw [withLive_of_over hover]
    exact ((stored.evict_tells id).map _).next (.silent rfl rfl)
  · let pushed := e.push fresh m.settings.maxHistory.toNat
    have hevents : (m.createSnapshot now fresh id document text).events =
        [note "snapshot_created" id [("snapshot_id", .str fresh), ("changes", Json.ofNat document.changes.length),
          ("evicted", Json.ofStrings pushed.2)]] := by
      simp only [createSnapshot, withLive, hl.1, hl.2, Bool.false_eq_true, if_false, Audited.next, List.nil_append,
        pushed]
    have hnew : fresh ∉ e.listed := fun hx => by
      obtain ⟨s, hs, -⟩ := h.owned.stored hl.1 hx
      rw [hf] at hs
      cases hs
    have hevicted : ∀ x ∈ pushed.2, Redactor.builtin.redactText x = x := fun x hx => by
      rcases List.mem_append.1 (List.mem_of_mem_take hx) with hx | hx
      · exact h.listed_kept hu hl.1 x (List.mem_append_left _ hx)
      · rwa [List.mem_singleton.1 hx]
    have hqueues : (e.queues.append fresh).delete pushed.2 =
        ((pushed.1.slide now m.settings.ttl).countTransform).queues :=
      Queues.taken_eq (List.nodup_cons.2 ⟨hnew, h.listed_nodup hl.1⟩) m.settings.maxHistory.toNat
    rw [Tells, hevents, List.foldl_cons, hear_taken m.queues id _ hk hevicted,
      (createSnapshot_of_live hl document text).2]
    exact queues_replaced (g := fun q => (q.append fresh).delete pushed.2) hl.1 hqueues

/-- To take back snapshots does what its news say. -/
theorem takeBack_queues (h : m.Sound) (hl : m.Live now id e) (steps : Nat) :
    let queued := (e.pop steps).1.detach (e.pop steps).2 m.settings.maxDetached.toNat
    (News.takenBack (e.pop steps).2 queued.2).tell m.queues id = (m.takeBack now id steps).state.queues := by
  intro queued
  have hqueues : ((e.pop steps).2.foldl Queues.detach e.queues).delete queued.2 =
      (queued.1.slide now m.settings.ttl).queues := Queues.takenBack_eq (h.listed_nodup hl.1) steps _
  rw [takeBack_of_live hl]
  exact queues_replaced (g := fun q => ((e.pop steps).2.foldl Queues.detach q).delete queued.2) hl.1 hqueues

theorem takenBack_kept (h : m.Sound) (hu : m.Unmasked) (hl : m.Live now id e) (steps : Nat) :
    ∀ x ∈ (e.pop steps).2 ++ ((e.pop steps).1.detach (e.pop steps).2 m.settings.maxDetached.toNat).2,
      Redactor.builtin.redactText x = x := fun x hx => by
  have hpopped : ∀ x ∈ (e.pop steps).2, x ∈ e.listed := fun x hx => List.mem_append_left _ (Entry.mem_pop hx)
  refine h.listed_kept hu hl.1 x ?_
  rcases List.mem_append.1 hx with hx | hx
  · exact hpopped x hx
  · rcases List.mem_append.1 (List.mem_of_mem_take hx) with hx | hx
    · exact List.mem_append_right _ (e.pop_detached steps ▸ hx)
    · exact hpopped x hx

/-- An operation that takes back snapshots and reports just that. -/
theorem takenBack_tells (h : m.Sound) (hu : m.Unmasked) (hl : m.Live now id e) (steps : Nat) {α : Type}
    {a : Audited Manager α} (hs : a.state = (m.takeBack now id steps).state) {name : String}
    (hname : name = "snapshot_undone" ∨ name = "session_reset") {ms : List (String × Json)}
    (he : a.events = [note name id ms]) (hms : ∀ m ∈ ms, m.1 ∈ memberNames)
    (hr : ms.reverse.lookup "removed" = some (Json.ofStrings (e.pop steps).2))
    (hp : ms.reverse.lookup "purged" = some (Json.ofStrings
      ((e.pop steps).1.detach (e.pop steps).2 m.settings.maxDetached.toNat).2)) : Tells m.queues a := by
  have hnews := hear_takenBack m.queues id hname hms hr hp (takenBack_kept h hu hl steps)
  rw [Tells, he, hs, List.foldl_cons, hnews]
  exact takeBack_queues h hl steps

theorem undo_tells (h : m.Sound) (hu : m.Unmasked) (steps : Nat) : Tells m.queues (m.undo now id steps) := by
  rcases m.stands now id with hm | ⟨e, ho⟩ | ⟨e, hl⟩
  · rw [undo, takeBack_of_none hm]
    exact .silent rfl rfl
  · rw [undo, takeBack_of_over ho]
    exact ((m.evict_tells id).map _).next (.silent rfl rfl)
  · let queued := (e.pop steps).1.detach (e.pop steps).2 m.settings.maxDetached.toNat
    have hevents : (m.undo now id steps).events =
        [note "snapshot_undone" id [("steps", Json.ofNat steps), ("removed", Json.ofStrings (e.pop steps).2),
          ("current", Json.ofOption .str queued.1.current?), ("purged", Json.ofStrings queued.2)]] := by
      simp only [undo, takeBack_of_live hl, Audited.next, List.nil_append, queued]
    exact takenBack_tells h hu hl steps (m.undo_state now id steps) (.inl rfl) hevents (by simp [memberNames]) rfl rfl

theorem reset_tells (h : m.Sound) (hu : m.Unmasked) : Tells m.queues (m.reset now id) := by
  rcases m.stands now id with hm | ⟨e, ho⟩ | ⟨e, hl⟩
  · rw [reset_eq, takeBack_of_none hm]
    exact .silent rfl rfl
  · rw [reset_eq, takeBack_of_over ho]
    exact ((m.evict_tells id).map _).next (.silent rfl rfl)
  · let steps := m.historyLength id
    let queued := (e.pop steps).1.detach (e.pop steps).2 m.settings.maxDetached.toNat
    have hevents : (m.reset now id).events = [note "session_reset" id
        [("removed", Json.ofStrings (e.pop steps).2), ("purged", Json.ofStrings queued.2)]] := by
      simp only [reset_eq, takeBack_of_live hl, Audited.next, List.nil_append, queued, steps]
    exact takenBack_tells h hu hl steps (m.reset_state now id) (.inr rfl) hevents (by simp [memberNames]) rfl rfl

theorem perform_tells (h : m.Sound) (hu : m.Unmasked) (now : Millis) (act : Action)
    (hn : ∀ id ∈ act.snapshotId?, m.snapshots.get? id = none ∧ Redactor.builtin.redactText id = id) :
    Tells m.queues (m.perform now act) := by
  cases act with
  | createOrGet fresh presented ip userAgent => exact (m.createOrGet_tells now fresh presented ip userAgent).map _
  | renew id => exact (m.withLive_tells now id fun _ => rfl).map _
  | createSnapshot fresh id document text =>
    exact (createSnapshot_tells h hu (hn fresh rfl).1 (hn fresh rfl).2 document text).map _
  | undo id steps => exact (undo_tells h hu steps).map _
  | reset id => exact (reset_tells h hu).map _
  | session id => exact (m.withLive_tells now id fun _ => rfl).map _
  | state id => exact (m.withLive_tells now id fun _ => rfl).map _
  | history id => exact m.withLive_tells now id (f := fun e => (e, e.history)) fun _ => rfl
  | snapshot id => exact .silent rfl rfl
  | stats => exact .silent rfl rfl
  | destroy id => exact (m.destroy_tells id).map _
  | discardUnused id => exact (m.discardUnused_tells id).map _
  | sweep => exact evictAll_tells (m.overdue now) m

theorem Unmasked.perform (hu : m.Unmasked) (now : Millis) (act : Action)
    (hn : ∀ id ∈ act.snapshotId?, Redactor.builtin.redactText id = id) : (m.perform now act).state.Unmasked := by
  intro x s hs
  rcases snapshot_of_perform hs with hb | ⟨id, document, text, rfl, -⟩
  · exact hu x s hb
  · exact hn x rfl

/-! ## Runs -/

/-- What the manager reports in a run. -/
def reports (m : Manager) : Actions → Audit.Calls
  | [] => []
  | (now, act) :: acts =>
    (m.perform now act).events.map (fun event => (now, event)) ++ (m.perform now act).state.reports acts

theorem reports_tell : ∀ (acts : Actions) {m : Manager}, m.Sound → m.Unmasked → m.Free acts →
    (∀ x ∈ acts.snapshotIds, Redactor.builtin.redactText x = x) →
      ((m.reports acts).map Prod.snd).foldl hear m.queues = (m.run acts).queues
  | [], _, _, _, _, _ => rfl
  | (now, act) :: acts, m, h, hu, hf, hk => by
    rw [Actions.snapshotIds_cons] at hk
    have hact : ∀ id ∈ act.snapshotId?, Redactor.builtin.redactText id = id := fun id hid =>
      hk id (List.mem_append_left _ (Option.mem_toList.2 hid))
    have hstep := perform_tells h hu now act fun id hid => ⟨hf.snapshot id hid, hact id hid⟩
    have hrun := reports_tell acts (h.perform now act hf.session hf.snapshot) (hu.perform now act hact) hf.perform
      fun x hx => hk x (List.mem_append_right _ hx)
    rw [reports, List.map_append, List.map_map, List.foldl_append]
    have hevents : (m.perform now act).events.map (Prod.snd ∘ fun event => (now, event)) = (m.perform now act).events :=
      List.map_id _
    rw [hevents, hstep, hrun]
    rfl

theorem dropped_after (t : Audit.Settings) (calls : Audit.Calls) :
    ((Audit.Log.empty t).after calls).dropped = calls.length - t.maxEntries.toNat := by
  have hdropped := ((Audit.Log.tracks_empty t).after calls).dropped
  rwa [Audit.Log.after_settings, List.nil_append] at hdropped

/-- A log that has lost nothing holds the whole trail. -/
theorem entries_after {t : Audit.Settings} {calls : Audit.Calls}
    (h : ((Audit.Log.empty t).after calls).dropped = 0) :
    ((Audit.Log.empty t).after calls).entries = Audit.trail calls := by
  have hentries := ((Audit.Log.tracks_empty t).after calls).entries
  rw [Audit.Log.after_settings, List.nil_append] at hentries
  rw [dropped_after] at h
  have hfits : (Audit.trail calls).length - t.maxEntries.toNat = 0 := by rwa [Audit.length_trail]
  rw [hentries, List.rtake, show (Audit.Log.empty t).settings = t from rfl, hfits, List.drop_zero]

/-- **The log tells the queues.**  After every run whose log has lost no entry, who reads the entries in the order of
their numbers and starts from nothing arrives at the stored sessions, each with its history and its detached queue in
order.  That takes no more than that redaction leaves the ids of the snapshots as they are. -/
theorem replay_eq (s : Settings) (t : Audit.Settings) (acts : Actions) (hf : acts.Fresh)
    (hk : ∀ x ∈ acts.snapshotIds, Redactor.builtin.redactText x = x)
    (hd : ((Audit.Log.empty t).after ((empty s).reports acts)).dropped = 0) :
    let log := (Audit.Log.empty t).after ((empty s).reports acts)
    log.entries.Pairwise (fun d e => d.id < e.id) ∧
      log.entries.foldl retell .empty = ((empty s).run acts).sessions.map Entry.queues := by
  intro log
  have hentries : log.entries = Audit.trail ((empty s).reports acts) := entries_after hd
  have hempty : (empty s).Unmasked := fun _ _ h => nomatch h
  rw [hentries]
  refine ⟨Audit.trail_ascending _, ?_⟩
  rw [retell_trail]
  exact reports_tell acts (sound_empty s) hempty (free_empty s hf) hk

/-- A full history, a full queue, a client that presents the session of another one, a session that is discarded and one
whose time is over when a snapshot is asked for. -/
def toldRun : Actions :=
  [(0, .createOrGet "c" none "192.0.2.3" ""), (1, .createOrGet "a" none "192.0.2.1" "agent"),
    (2, .createSnapshot "u" "a" (.ofChanges []) none), (3, .createSnapshot "v" "a" (.ofChanges []) none),
    (4, .createSnapshot "w" "a" (.ofChanges []) none), (5, .undo "a" 5),
    (6, .createSnapshot "x" "a" (.ofChanges []) none), (7, .createOrGet "b" (some "a") "192.0.2.2" ""),
    (8, .createSnapshot "y" "b" (.ofChanges []) none), (9, .reset "b"), (10, .createOrGet "d" none "192.0.2.4" ""),
    (11, .discardUnused "d"), (1001, .createSnapshot "z" "c" (.ofChanges []) none)]

theorem replay_eq_told :
    let s : Settings := { ttlSecs := 1, maxHistory := 2, maxDetached := 1 }
    let log := (Audit.Log.empty {}).after ((empty s).reports toldRun)
    toldRun.Fresh ∧ (∀ x ∈ toldRun.snapshotIds, Redactor.builtin.redactText x = x) ∧ log.dropped = 0 ∧
      (log.entries.foldl retell .empty).entries = [("b", ⟨[], ["y"]⟩), ("a", ⟨["x"], ["v"]⟩)] := by
  intro s log
  have hf : toldRun.Fresh := ⟨by decide, by decide⟩
  have hk : ∀ x ∈ toldRun.snapshotIds, Redactor.builtin.redactText x = x := by decide +kernel
  have hd : log.dropped = 0 := (dropped_after _ _).trans (by decide +kernel)
  have hrun : (((empty s).run toldRun).sessions.map Entry.queues).entries =
      [("b", ⟨[], ["y"]⟩), ("a", ⟨["x"], ["v"]⟩)] := by decide +kernel
  exact ⟨hf, hk, hd, hrun ▸ congrArg Store.entries (replay_eq s {} toldRun hf hk hd).2⟩

end Manager

end Session

end SiteEdit
