import SiteEdit.Proofs.Session.Fresh
/-!
# The clients that sessions are started for

A session keeps the identity that it is started with.  So a stored session has the identity of the client that its id
was brought for (`Known.run`).
-/
namespace SiteEdit.Session

open Audit (Audited)

/-- A client and the id that is brought for its session. -/
structure Client where
  session : String
  ip : String
  userAgent : String
  deriving DecidableEq, Repr

def Client.identity (c : Client) : String := identityHash c.ip c.userAgent

/-- The client that an action may start a session for. -/
def Action.client? : Action → Option Client
  | createOrGet fresh _ ip userAgent => some ⟨fresh, ip, userAgent⟩
  | _ => none

namespace Manager

variable {m m' : Manager} {now : Millis} {id k i : String}

/-- The identities of the sessions. -/
def identities (m : Manager) : Store String := m.sessions.map fun e => e.session.identity

/-! ## Operations that start no session -/

theorem erase_kept (id : String) (h : m'.sessions = m.sessions.erase id) : m'.identities.Within m.identities := by
  unfold identities
  rw [h, ← Store.map_erase]
  exact .filter _ _

theorem withLive_kept {α : Type} {f : Entry → Entry × α} (hf : ∀ e, (f e).1.session.identity = e.session.identity) :
    (m.withLive now id f).state.identities.Within m.identities := by
  rcases m.stands now id with h | ⟨e, h⟩ | ⟨e, h⟩
  · rw [withLive_of_none h]
    exact .refl _
  · rw [withLive_of_over h]
    exact erase_kept id rfl
  · rw [withLive_of_live h]
    intro k i hk
    have hk : ((m.sessions.adjust id fun _ => (f e).1).map fun e => e.session.identity).get? k = some i := hk
    rw [Store.get?_map, Store.get?_adjust] at hk
    unfold identities
    rw [Store.get?_map, ← hk]
    split
    · rename_i he
      rw [he, h.1, Option.map_some, Option.map_some, Option.map_some, hf]
    · rfl

theorem createSnapshot_kept (m : Manager) (now : Millis) (fresh id : String) (d : Document) (text : Option String) :
    (m.createSnapshot now fresh id d text).state.identities.Within m.identities := by
  simp only [createSnapshot, Audited.next]
  -- Only the snapshots differ from what the change of the entry leaves.
  split
  · exact withLive_kept (m := { m with snapshots := m.snapshots.insert fresh _ }) fun e => rfl
  · exact withLive_kept (m := { m with snapshots := m.snapshots.insert fresh _ }) fun e => rfl

theorem takeBack_kept (m : Manager) (now : Millis) (id : String) (steps : Nat) :
    (m.takeBack now id steps).state.identities.Within m.identities := by
  have hkept : ∀ e : Entry, (e.pop steps).1.session.identity = e.session.identity := fun e => by rw [e.pop_session]
  simp only [takeBack, Audited.next]
  split
  · exact withLive_kept hkept
  · exact withLive_kept hkept

theorem discardUnused_kept (m : Manager) (id : String) :
    (m.discardUnused id).state.identities.Within m.identities := by
  unfold discardUnused
  split
  · exact erase_kept id rfl
  · exact .refl _

theorem destroy_kept (m : Manager) (id : String) : (m.destroy id).state.identities.Within m.identities := by
  unfold destroy
  split
  · exact .refl _
  · exact erase_kept id rfl

theorem evictAll_kept : ∀ (ids : List String) (m : Manager),
    (m.evictAll ids).state.identities.Within m.identities
  | [], _ => .refl _
  | id :: ids, m => (evictAll_kept ids (m.evict id).state).trans (erase_kept id rfl)

/-! ## Actions -/

theorem createOrGet_identity {fresh : String} {presented : Option String} {ip userAgent : String}
    (h : (m.createOrGet now fresh presented ip userAgent).state.identities.get? k = some i) :
    m.identities.get? k = some i ∨ k = fresh ∧ i = identityHash ip userAgent := by
  unfold identities at *
  rcases m.createOrGet_cases now fresh presented ip userAgent with ⟨id, e, -, -, -, hr⟩ | ⟨-, -, hr⟩
  · rw [hr] at h
    dsimp only at h
    rw [Store.get?_map, Store.get?_adjust] at h
    rw [Store.get?_map, ← h]
    split
    · exact .inl (by rw [Option.map_map]; rfl)
    · exact .inl rfl
  · rw [hr] at h
    have h : (((m.lapsed now presented).sessions.insert fresh _).map fun e => e.session.identity).get? k = some i := h
    rw [← Store.map_insert, Store.get?_insert] at h
    split at h
    · rename_i hk
      exact .inr ⟨hk, (Option.some.inj h).symm⟩
    · rw [lapsed_sessions, ← Store.map_filter _ _ _ (fun k _ => !m.lapses now presented k) fun _ _ => rfl] at h
      exact .inl (Store.Within.filter _ _ k i h)

/-- A session that is stored after an action has the identity that it had before, or that of the client that the
action starts it for. -/
theorem identity_of_perform {act : Action} (h : (m.perform now act).state.identities.get? k = some i) :
    m.identities.get? k = some i ∨ ∃ c, act.client? = some c ∧ c.session = k ∧ c.identity = i := by
  cases act with
  | createOrGet fresh presented ip userAgent =>
    rcases createOrGet_identity h with h | ⟨hk, hi⟩
    · exact .inl h
    · exact .inr ⟨⟨fresh, ip, userAgent⟩, rfl, hk.symm, hi.symm⟩
  | renew id => exact .inl (withLive_kept (fun _ => rfl) k i h)
  | createSnapshot fresh id document text => exact .inl (m.createSnapshot_kept now fresh id document text k i h)
  | undo id steps =>
    have h : (m.undo now id steps).state.identities.get? k = some i := h
    rw [undo_state] at h
    exact .inl (m.takeBack_kept now id steps k i h)
  | reset id =>
    have h : (m.reset now id).state.identities.get? k = some i := h
    rw [reset_state] at h
    exact .inl (m.takeBack_kept now id _ k i h)
  | session id => exact .inl (withLive_kept (f := fun e => (e, e.session)) (fun _ => rfl) k i h)
  | state id =>
    have hk : (m.state now id).state.identities.Within m.identities := withLive_kept fun _ => rfl
    exact .inl (hk k i h)
  | history id => exact .inl (withLive_kept (f := fun e => (e, e.history)) (fun _ => rfl) k i h)
  | snapshot id => exact .inl h
  | stats => exact .inl h
  | destroy id => exact .inl (m.destroy_kept id k i h)
  | discardUnused id => exact .inl (m.discardUnused_kept id k i h)
  | sweep => exact .inl (evictAll_kept _ m k i h)

end Manager

end SiteEdit.Session
