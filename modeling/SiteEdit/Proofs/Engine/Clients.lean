import SiteEdit.Proofs.Engine.Effects
import SiteEdit.Proofs.Identity
import SiteEdit.Proofs.Session.Clients
/-!
# Whose session is reused

In every run a stored session has the identity of the client that its id was brought for (`Known.after`).  If the hash
does not confuse clients of the run, a session is reused only by a client whose address and user agent make the same
text when they are joined by a bar.  That is the same client unless an address has a bar itself.
-/
namespace SiteEdit

namespace Session

def Client.bytes (c : Client) : List UInt8 := identityBytes c.ip c.userAgent

def Client.text (c : Client) : String := joined c.ip c.userAgent

/-- The hash does not confuse the clients. -/
def Apart (clients : List Client) : Prop :=
  ∀ c ∈ clients, ∀ d ∈ clients, Hash.blake3 c.bytes = Hash.blake3 d.bytes → c.bytes = d.bytes

/-- Clients are not confused if the texts of bytes that they make have different hashes. -/
theorem apart_of_nodup {clients : List Client} {texts : List (List UInt8)} (hn : (texts.map Hash.blake3).Nodup)
    (h : ∀ c ∈ clients, c.bytes ∈ texts) : Apart clients :=
  fun c hc d hd he => List.inj_on_of_nodup_map hn (h c hc) (h d hd) he

theorem Apart.text_eq {clients : List Client} (h : Apart clients) {c d : Client} (hc : c ∈ clients) (hd : d ∈ clients)
    (hi : c.identity = d.identity) : c.text = d.text :=
  identityBytes_inj.1 (h c hc d hd (identityHash_inj.1 hi))

/-- Every stored session has the identity of the client that its id was brought for. -/
def Known (m : Manager) (clients : List Client) : Prop :=
  ∀ k i, m.identities.get? k = some i → ∃ c ∈ clients, c.session = k ∧ c.identity = i

namespace Known

variable {m m' : Manager} {clients clients' : List Client} {now : Millis}

theorem kept (h : Known m clients) (hk : m'.identities.Within m.identities) : Known m' clients :=
  fun k i hi => h k i (hk k i hi)

theorem mono (h : Known m clients) (hc : clients ⊆ clients') : Known m clients' := fun k i hi => by
  obtain ⟨c, hm, hs⟩ := h k i hi
  exact ⟨c, hc hm, hs⟩

theorem perform (h : Known m clients) (now : Millis) (act : Action) :
    Known (m.perform now act).state (clients ++ act.client?.toList) := fun k i hi => by
  rcases Manager.identity_of_perform hi with hi | ⟨c, hc, hs⟩
  · exact (h.mono (List.subset_append_left _ _)) k i hi
  · exact ⟨c, List.mem_append_right _ (Option.mem_toList.2 hc), hs⟩

/-- The session that is given to a client who presents it has the identity of the client that its id was brought for. -/
theorem createOrGet (h : Known m clients) {c : Client} {id : String}
    (hid : (m.createOrGet now c.session (some id) c.ip c.userAgent).result.id = id) :
    ∃ d ∈ clients ++ [c], d.session = id ∧ d.identity = c.identity := by
  rcases m.createOrGet_cases now c.session (some id) c.ip c.userAgent with ⟨_, e, hp, hl, hi, -⟩ | ⟨-, hr, -⟩
  · obtain rfl := Option.some.inj hp
    obtain ⟨d, hd, hs, hdi⟩ := h id e.session.identity (by rw [Manager.identities, Store.get?_map, hl.1]; rfl)
    exact ⟨d, List.mem_append_left _ hd, hs, hdi.trans hi⟩
  · rw [hr] at hid
    exact ⟨c, List.mem_append_right _ (List.mem_singleton.2 rfl), hid, rfl⟩

end Known

end Session

namespace Engine

open Session (Client Known Apart)

/-- The client that an action may start a session for. -/
def Action.client? : Action → Option Client
  | transform fresh r => some ⟨fresh.session, r.ip, r.userAgent⟩
  | sessions act => act.client?
  | _ => none

/-- The clients that actions may start sessions for. -/
def Actions.clients (acts : Actions) : List Client := acts.filterMap fun a => a.2.client?

theorem Actions.clients_cons (now : Millis) (act : Action) (acts : Actions) :
    clients ((now, act) :: acts) = act.client?.toList ++ clients acts := Session.filterMap_cons_append _ _ acts

variable {e : Engine} {clients : List Client}

theorem withoutIssued_kept (presented : Option String) (id : String) (m : Session.Manager) :
    (State.withoutIssued presented id m).identities.Within m.identities := by
  unfold State.withoutIssued
  split
  · exact .refl _
  · exact m.discardUnused_kept id

theorem known_transform (h : Known e.state.sessions clients) (now : Millis) (fresh : FreshIds) (r : Request) :
    Known (e.transform now fresh r).1.state.sessions (clients ++ [⟨fresh.session, r.ip, r.userAgent⟩]) := by
  have hc := h.perform now (.createOrGet fresh.session r.session r.ip r.userAgent)
  rcases e.state.transform_cases e.screen now fresh r with ⟨-, -, ht | ht⟩ | ⟨d, note, ⟨-, -, -, ht⟩ | ⟨-, -, -, -, ht⟩⟩
  · have ht : (e.transform now fresh r).1.state.sessions = _ := ht
    rw [ht]
    exact h.mono (List.subset_append_left _ _)
  · have ht : (e.transform now fresh r).1.state.sessions = _ := ht
    rw [ht]
    exact hc.kept (withoutIssued_kept _ _ _)
  · have ht : (e.transform now fresh r).1.state.sessions = _ := ht
    rw [ht]
    exact (hc.kept (Session.Manager.createSnapshot_kept _ now fresh.snapshot _ d note)).kept (withoutIssued_kept _ _ _)
  · have ht : (e.transform now fresh r).1.state.sessions = _ := ht
    rw [ht]
    exact hc.kept (Session.Manager.createSnapshot_kept _ now fresh.snapshot _ d note)

theorem known_perform (h : Known e.state.sessions clients) (now : Millis) (act : Action) :
    Known (e.perform now act).1.state.sessions (clients ++ act.client?.toList) := by
  have hsame : Known e.state.sessions (clients ++ []) := h.mono (List.subset_append_left _ _)
  cases act with
  | transform fresh r => exact known_transform h now fresh r
  | undo id steps => exact h.perform now (.undo id steps)
  | reset id => exact h.perform now (.reset id)
  | state id => exact h.perform now (.state id)
  | history id => exact h.perform now (.history id)
  | ban key reason secs => exact hsame
  | unban key => exact hsame
  | sweep => exact h.perform now .sweep
  | sessions act => exact h.perform now act
  | limits act => exact hsame

/-- After a run every stored session has the identity of the client that its id was brought for. -/
theorem known_after : ∀ (acts : Actions) {e : Engine} {clients : List Client}, Known e.state.sessions clients →
    Known (e.after acts).state.sessions (clients ++ acts.clients)
  | [], _, _, h => h.mono (List.subset_append_left _ _)
  | (now, act) :: acts, e, _, h => by
    rw [Actions.clients_cons, ← List.append_assoc]
    exact known_after acts (known_perform h now act)

/-- A run of operations of the sessions is a run of the manager. -/
theorem after_sessions_eq_run : ∀ (acts : Session.Actions) (e : Engine),
    (e.after (acts.map fun a => (a.1, .sessions a.2))).state.sessions = e.state.sessions.run acts
  | [], _ => rfl
  | (now, act) :: acts, e => after_sessions_eq_run acts (e.perform now (.sessions act)).1

/-- **A session is reused only by who makes the same text as the client it was started for.**  The engine starts without
sessions, no session id is brought twice, and the hash does not confuse clients of the run.  Whoever is given the session
that he presents then agrees with the one client its id was brought for, up to where the bar stands in the joined text;
if neither address has a bar, he is that client. -/
theorem reused_by_same_text (e : Engine) (s : Session.Settings) (he : e.state.sessions = .empty s) (acts : Actions)
    (now : Millis) (c : Client) (id : String) (hf : ((acts.clients ++ [c]).map Client.session).Nodup)
    (ha : Apart (acts.clients ++ [c]))
    (hid : ((e.after acts).state.sessions.createOrGet now c.session (some id) c.ip c.userAgent).result.id = id) :
    ∃ d ∈ acts.clients ++ [c], d.session = id ∧ (∀ d' ∈ acts.clients ++ [c], d'.session = id → d' = d) ∧
      d.text = c.text ∧ ('|' ∉ d.ip.toList → '|' ∉ c.ip.toList → d.ip = c.ip ∧ d.userAgent = c.userAgent) := by
  have hstart : Known e.state.sessions [] := by
    rw [he]
    rintro k i ⟨⟩
  have hknown : Known (e.after acts).state.sessions acts.clients := known_after acts hstart
  obtain ⟨d, hd, hs, hi⟩ := hknown.createOrGet hid
  have htext : d.text = c.text := ha.text_eq hd (List.mem_append_right _ (List.mem_singleton.2 rfl)) hi
  refine ⟨d, hd, hs, fun d' hd' hs' => ?_, htext, fun hb hb' => (joined_inj hb hb').1 htext⟩
  exact List.inj_on_of_nodup_map hf hd' hd (hs'.trans hs.symm)

/-- A client comes back after another one presented his session. -/
def returningRun : Session.Actions :=
  [(0, .createOrGet "a" none "192.0.2.1" "agent"), (1, .createOrGet "b" (some "a") "192.0.2.2" "agent"), (2, .renew "a")]

theorem reused_by_same_text_returning :
    ∃ (e : Engine) (acts : Actions), e.state.sessions = .empty {} ∧
      (let c : Client := ⟨"c", "192.0.2.1", "agent"⟩
      ((acts.clients ++ [c]).map Client.session).Nodup ∧ Apart (acts.clients ++ [c]) ∧
      ((e.after acts).state.sessions.createOrGet 3 c.session (some "a") c.ip c.userAgent).result.id = "a" ∧
      ∃ d ∈ acts.clients ++ [c], d.session = "a" ∧ (∀ d' ∈ acts.clients ++ [c], d'.session = "a" → d' = d) ∧
        d.text = c.text ∧ ('|' ∉ d.ip.toList → '|' ∉ c.ip.toList → d.ip = c.ip ∧ d.userAgent = c.userAgent)) := by
  obtain ⟨e, hstart⟩ := exists_start (s := {}) (by decide)
  have he : e.state.sessions = .empty {} := (of_start hstart).2
  let acts : Actions := returningRun.map fun a => (a.1, .sessions a.2)
  let c : Client := ⟨"c", "192.0.2.1", "agent"⟩
  have hf : ((acts.clients ++ [c]).map Client.session).Nodup := by decide
  have hn : ([identityBytes "192.0.2.1" "agent", identityBytes "192.0.2.2" "agent"].map Hash.blake3).Nodup := by
    decide +kernel
  have ha : Apart (acts.clients ++ [c]) := Session.apart_of_nodup hn (by decide +kernel)
  have hid : ((e.after acts).state.sessions.createOrGet 3 c.session (some "a") c.ip c.userAgent).result.id = "a" := by
    rw [after_sessions_eq_run, he]
    decide +kernel
  exact ⟨e, acts, he, hf, ha, hid, reused_by_same_text e {} he acts 3 c "a" hf ha hid⟩

/-- A client whose address ends with a bar, and another who makes the same text without it, share a session. -/
theorem session_of_another_reused :
    identityBytes "192.0.2.1|" "agent" = identityBytes "192.0.2.1" "|agent" ∧
      ∃ (e : Engine) (acts : Actions), e.state.sessions = .empty {} ∧
        acts.clients = [⟨"a", "192.0.2.1|", "agent"⟩] ∧
        let c : Client := ⟨"b", "192.0.2.1", "|agent"⟩
        ((acts.clients ++ [c]).map Client.session).Nodup ∧ Apart (acts.clients ++ [c]) ∧
        ((e.after acts).state.sessions.createOrGet 1 c.session (some "a") c.ip c.userAgent).result.id = "a" ∧
        ¬ ∃ d ∈ acts.clients ++ [c], d.session = "a" ∧ d.ip = c.ip ∧ d.userAgent = c.userAgent := by
  obtain ⟨e, hstart⟩ := exists_start (s := {}) (by decide)
  have he : e.state.sessions = .empty {} := (of_start hstart).2
  let run : Session.Actions := [(0, .createOrGet "a" none "192.0.2.1|" "agent")]
  let acts : Actions := run.map fun a => (a.1, .sessions a.2)
  let c : Client := ⟨"b", "192.0.2.1", "|agent"⟩
  have hn : ([identityBytes "192.0.2.1" "|agent"].map Hash.blake3).Nodup := List.nodup_singleton _
  have hbytes : ∀ d ∈ acts.clients ++ [c], d.bytes ∈ [identityBytes "192.0.2.1" "|agent"] := by decide +kernel
  have ha : Apart (acts.clients ++ [c]) := Session.apart_of_nodup hn hbytes
  refine ⟨by decide +kernel, e, acts, he, rfl, by decide, ha, ?_, by decide⟩
  rw [after_sessions_eq_run run e, he]
  decide +kernel

end Engine

end SiteEdit
