import SiteEdit.Proofs.Session.Refinement
/-!
# Sweeps do not show

A sweep drops sessions that no client can use any more.  So the manager of a run with sweeps is that of the run without
them, less some sessions whose time is over (`Purged`), and it stays so while the clock does not go back.  A client can
tell the two apart only where he comes across such a session: it is not found instead of over.  The managers are compared
as stacks, where what a session has goes with it.
-/
namespace SiteEdit.Session

open Audit (Audited)

/-- The clock does not go back. -/
def Actions.Ordered (acts : Actions) : Prop := acts.Pairwise fun a b => a.1 ≤ b.1

instance (acts : Actions) : Decidable acts.Ordered := inferInstanceAs (Decidable (acts.Pairwise fun a b => a.1 ≤ b.1))

/-- The actions but the sweeps. -/
def Actions.unswept (acts : Actions) : Actions := acts.filter fun a => a.2 ≠ .sweep

theorem Actions.unswept_cons_sweep (now : Millis) (acts : Actions) : unswept ((now, .sweep) :: acts) = unswept acts :=
  List.filter_cons_of_neg (by simp)

theorem Actions.unswept_cons {act : Action} (h : act ≠ .sweep) (now : Millis) (acts : Actions) :
    unswept ((now, act) :: acts) = (now, act) :: unswept acts :=
  List.filter_cons_of_pos (by simpa using h)

/-- Whether a client can ask for an action: he can start a session or go on with one. -/
def Action.isClient : Action → Bool
  | createOrGet _ _ _ _ | renew _ | createSnapshot _ _ _ _ | undo _ _ | reset _ => true
  | session _ | state _ | history _ => true
  | snapshot _ | stats | destroy _ | discardUnused _ | sweep => false

/-- The answers that clients get, of the answers to all actions. -/
def Actions.toClients (acts : Actions) (answers : List Answer) : List Answer :=
  ((acts.zip answers).filter fun a => a.1.2.isClient).map Prod.snd

theorem Actions.toClients_cons_of_pos {act : Action} (h : act.isClient = true) (now : Millis) (acts : Actions)
    (r : Answer) (answers : List Answer) :
    toClients ((now, act) :: acts) (r :: answers) = r :: acts.toClients answers := by
  unfold toClients
  rw [List.zip_cons_cons, List.filter_cons_of_pos (by exact h), List.map_cons]

theorem Actions.toClients_cons_of_neg {act : Action} (h : act.isClient = false) (now : Millis) (acts : Actions)
    (r : Answer) (answers : List Answer) :
    toClients ((now, act) :: acts) (r :: answers) = acts.toClients answers := by
  unfold toClients
  rw [List.zip_cons_cons, List.filter_cons_of_neg (by simpa using h)]

/-! ## Gone or over -/

/-- What is said of a session that is gone, if its time is over. -/
def Error.gone : Error → Error
  | .expired id => .notFound id
  | .notFound id => .notFound id

/-- What the answer would be if a session that it finds over were gone. -/
def Answer.gone : Answer → Answer
  | session r => session (r.mapError Error.gone)
  | snapshot r => snapshot (r.mapError Error.gone)
  | undone r => undone (r.mapError Error.gone)
  | state r => state (r.mapError Error.gone)
  | history r => history (r.mapError Error.gone)
  | r => r

/-- **Instead of an answer the same is given, or that a session is not found** where it was over. -/
def Answer.Admits (r r' : Answer) : Prop := r' = r ∨ r' = r.gone

/-! ## Sessions that are gone already -/

/-- **The second store is the first one, less some sessions whose time is over.** -/
def Thinned (now : Millis) (sessions sessions' : Store Stack) : Prop :=
  ∀ k, sessions'.get? k = sessions.get? k ∨
    sessions'.get? k = none ∧ ∀ s, sessions.get? k = some s → s.session.isExpired now = true

namespace Thinned

variable {sessions sessions' : Store Stack} {now t : Millis} {id : String} {s : Stack}

theorem refl (now : Millis) (sessions : Store Stack) : Thinned now sessions sessions := fun _ => .inl rfl

theorem mono (h : Thinned t sessions sessions') (ht : t ≤ now) : Thinned now sessions sessions' := fun k =>
  (h k).imp_right fun ⟨hn, he⟩ => ⟨hn, fun s hs => decide_eq_true (Int.le_trans (of_decide_eq_true (he s hs)) ht)⟩

theorem get?_none (h : Thinned now sessions sessions') (hn : sessions.get? id = none) : sessions'.get? id = none :=
  (h id).elim (fun he => he.trans hn) And.left

/-- A live session is in both. -/
theorem get?_live (h : Thinned now sessions sessions') (hs : sessions.get? id = some s)
    (hx : s.session.isExpired now = false) : sessions'.get? id = some s := by
  rcases h id with he | ⟨-, he⟩
  · exact he.trans hs
  · rw [he s hs] at hx
    cases hx

theorem erase (h : Thinned now sessions sessions') (id : String) :
    Thinned now (sessions.erase id) (sessions'.erase id) := fun k => by
  rw [Store.get?_erase, Store.get?_erase]
  split
  · exact .inl rfl
  · exact h k

/-- What is gone from the second may go from the first. -/
theorem erase_gone (h : Thinned now sessions sessions') (hn : sessions'.get? id = none) :
    Thinned now (sessions.erase id) sessions' :=
  Store.erase_of_get?_eq_none hn ▸ h.erase id

theorem insert (h : Thinned now sessions sessions') (id : String) (s : Stack) :
    Thinned now (sessions.insert id s) (sessions'.insert id s) := fun k => by
  rw [Store.get?_insert, Store.get?_insert]
  split
  · exact .inl rfl
  · exact h k

/-- A live session is replaced in both. -/
theorem replace (h : Thinned now sessions sessions') {s₀ : Stack} (hs : sessions.get? id = some s₀)
    (hx : s₀.session.isExpired now = false) (s : Stack) :
    Thinned now (sessions.adjust id fun _ => s) (sessions'.adjust id fun _ => s) := fun k => by
  rw [Store.get?_adjust, Store.get?_adjust]
  split
  · rename_i hk
    rw [hk, hs, h.get?_live hs hx]
    exact .inl rfl
  · exact h k

/-- A sweep of the second takes only what is over. -/
theorem sweep (h : Thinned now sessions sessions') :
    Thinned now sessions (sessions'.filter fun _ s => !s.session.isExpired now) := fun k => by
  rw [Store.get?_filter]
  rcases h k with he | ⟨hn, he⟩
  · rw [he]
    cases hs : sessions.get? k with
    | none => exact .inl rfl
    | some s =>
      rw [Option.filter_some]
      cases hx : s.session.isExpired now with
      | false => exact .inl rfl
      | true =>
        refine .inr ⟨rfl, fun s' hs' => ?_⟩
        rw [← Option.some.inj hs', hx]
  · rw [hn]
    exact .inr ⟨rfl, he⟩

end Thinned

namespace Stacks

variable {a : Stacks} {now : Millis} {id fresh ip userAgent : String} {s : Stack}

theorem answers_cons (a : Stacks) (now : Millis) (act : Action) (acts : Actions) :
    a.answers ((now, act) :: acts) = (a.perform now act).result :: (a.perform now act).state.answers acts := rfl

theorem createOrGet_of_none (h : a.sessions.get? id = none) :
    a.createOrGet now fresh (some id) ip userAgent = a.start now fresh ip userAgent := by
  simp only [createOrGet, h]

theorem createOrGet_of_over (h : a.Over now id s) :
    a.createOrGet now fresh (some id) ip userAgent = (a.expire id).start now fresh ip userAgent := by
  simp only [createOrGet, h.1, h.2, if_true]

theorem createOrGet_of_live (h : a.Live now id s) : a.createOrGet now fresh (some id) ip userAgent =
    if s.session.identity = identityHash ip userAgent then
      let quota := s.session.quota
      let used := s.withQuota { quota with requestCount := quota.requestCount + 1 }
      { result := used.session, state := a.put id used }
    else a.start now fresh ip userAgent := by
  simp only [createOrGet, h.1, h.2, Bool.false_eq_true, if_false]

end Stacks

/-- **The second manager is the first one, less some sessions whose time is over.** -/
structure Purged (a a' : Stacks) (now : Millis) : Prop where
  settings : a'.settings = a.settings
  sessions : Thinned now a.sessions a'.sessions

namespace Purged

variable {a a' : Stacks} {now t : Millis} {id : String}

theorem refl (a : Stacks) (now : Millis) : Purged a a now := ⟨rfl, .refl now _⟩

theorem mono (h : Purged a a' t) (ht : t ≤ now) : Purged a a' now := ⟨h.settings, h.sessions.mono ht⟩

theorem live (h : Purged a a' now) {s : Stack} (hl : a.Live now id s) : a'.Live now id s :=
  ⟨h.sessions.get?_live hl.1 hl.2, hl.2⟩

theorem expire (h : Purged a a' now) (id : String) : Purged (a.expire id) (a'.expire id) now :=
  ⟨h.settings, h.sessions.erase id⟩

theorem expire_gone (h : Purged a a' now) (hn : a'.sessions.get? id = none) : Purged (a.expire id) a' now :=
  ⟨h.settings, h.sessions.erase_gone hn⟩

/-! ## The same action on both -/

/-- What two managers return of an action on one session: the second says at most that a session is gone that the first
finds over, and stays purged. -/
structure Onward {α : Type} (x y : Audited Stacks (Except Error α)) (now : Millis) : Prop where
  result : y.result = x.result ∨ y.result = x.result.mapError Error.gone
  state : Purged x.state y.state now

theorem onLive {α : Type} (h : Purged a a' now) {f g : Stack → Audited Stacks α}
    (hfg : ∀ s, a.Live now id s → (g s).result = (f s).result ∧ Purged (f s).state (g s).state now) :
    Onward (a.onLive now id f) (a'.onLive now id g) now := by
  cases hs : a.sessions.get? id with
  | none =>
    rw [Stacks.onLive_of_none hs, Stacks.onLive_of_none (h.sessions.get?_none hs)]
    exact ⟨.inl rfl, h⟩
  | some s =>
    cases hx : s.session.isExpired now with
    | false =>
      have hl : a.Live now id s := ⟨hs, hx⟩
      rw [Stacks.onLive_of_live hl, Stacks.onLive_of_live (h.live hl)]
      exact ⟨.inl (congrArg Except.ok (hfg s hl).1), (hfg s hl).2⟩
    | true =>
      rw [Stacks.onLive_of_over ⟨hs, hx⟩]
      rcases h.sessions id with he | ⟨hn, -⟩
      · rw [Stacks.onLive_of_over ⟨he.trans hs, hx⟩]
        exact ⟨.inl rfl, h.expire id⟩
      · rw [Stacks.onLive_of_none hn]
        exact ⟨.inr rfl, h.expire_gone hn⟩

theorem view {α : Type} (h : Purged a a' now) (f : Stack → α) : Onward (a.view now id f) (a'.view now id f) now :=
  h.onLive fun _ _ => ⟨rfl, h⟩

theorem renew (h : Purged a a' now) : Onward (a.renew now id) (a'.renew now id) now := by
  unfold Stacks.renew
  rw [h.settings]
  exact h.onLive fun s hl => ⟨rfl, h.settings, h.sessions.replace hl.1 hl.2 _⟩

theorem record (h : Purged a a' now) (snapshot : Snapshot) :
    Onward (a.record now id snapshot) (a'.record now id snapshot) now := by
  unfold Stacks.record
  rw [h.settings]
  exact h.onLive fun s hl => ⟨rfl, h.settings, h.sessions.replace hl.1 hl.2 _⟩

theorem undo (h : Purged a a' now) (steps : Stack → Nat) : Onward (a.undo now id steps) (a'.undo now id steps) now := by
  unfold Stacks.undo
  rw [h.settings]
  exact h.onLive fun s hl => ⟨rfl, h.settings, h.sessions.replace hl.1 hl.2 _⟩

theorem start (h : Purged a a' now) (fresh ip userAgent : String) :
    (a'.start now fresh ip userAgent).result = (a.start now fresh ip userAgent).result ∧
      Purged (a.start now fresh ip userAgent).state (a'.start now fresh ip userAgent).state now := by
  unfold Stacks.start
  rw [h.settings]
  exact ⟨rfl, rfl, h.sessions.insert fresh _⟩

/-- Who presents a session whose time is over gets a new one, whether or not it is gone. -/
theorem createOrGet (h : Purged a a' now) (fresh : String) (presented : Option String) (ip userAgent : String) :
    (a'.createOrGet now fresh presented ip userAgent).result = (a.createOrGet now fresh presented ip userAgent).result ∧
      Purged (a.createOrGet now fresh presented ip userAgent).state
        (a'.createOrGet now fresh presented ip userAgent).state now := by
  cases presented with
  | none => exact h.start fresh ip userAgent
  | some id =>
    cases hs : a.sessions.get? id with
    | none =>
      rw [Stacks.createOrGet_of_none hs, Stacks.createOrGet_of_none (h.sessions.get?_none hs)]
      exact h.start fresh ip userAgent
    | some s =>
      cases hx : s.session.isExpired now with
      | true =>
        rw [Stacks.createOrGet_of_over ⟨hs, hx⟩]
        rcases h.sessions id with he | ⟨hn, -⟩
        · rw [Stacks.createOrGet_of_over ⟨he.trans hs, hx⟩]
          exact (h.expire id).start fresh ip userAgent
        · rw [Stacks.createOrGet_of_none hn]
          exact (h.expire_gone hn).start fresh ip userAgent
      | false =>
        have hl : a.Live now id s := ⟨hs, hx⟩
        rw [Stacks.createOrGet_of_live hl, Stacks.createOrGet_of_live (h.live hl)]
        split
        · exact ⟨rfl, h.settings, h.sessions.replace hs hx _⟩
        · exact h.start fresh ip userAgent

theorem destroy (h : Purged a a' now) : Purged (a.destroy id).state (a'.destroy id).state now := by
  unfold Stacks.destroy
  rcases h.sessions id with he | ⟨hn, -⟩
  · rw [he]
    split
    · exact ⟨h.settings, h.sessions.erase id⟩
    · exact h
  · rw [hn]
    split
    · exact ⟨h.settings, h.sessions.erase_gone hn⟩
    · exact h

theorem discardUnused (h : Purged a a' now) : Purged (a.discardUnused id).state (a'.discardUnused id).state now := by
  unfold Stacks.discardUnused
  rcases h.sessions id with he | ⟨hn, -⟩
  · rw [he]
    split
    · exact ⟨h.settings, h.sessions.erase id⟩
    · exact h
  · rw [hn]
    split
    · exact ⟨h.settings, h.sessions.erase_gone hn⟩
    · exact h

theorem sweep (h : Purged a a' now) : Purged a (a'.sweep now).state now := ⟨h.settings, h.sessions.sweep⟩

/-- **An action of a client has the same answer**, or one that says that a session is gone that was over. -/
theorem perform_answer (h : Purged a a' now) {act : Action} (hc : act.isClient = true) :
    (a.perform now act).result.Admits (a'.perform now act).result := by
  -- an answer with an error changes as its error does
  have lift {α : Type} {x y : Audited Stacks (Except Error α)} (ho : Onward x y now) (answer : Except Error α → Answer)
      (hg : ∀ r, answer (r.mapError Error.gone) = (answer r).gone) : (answer x.result).Admits (answer y.result) :=
    ho.result.imp (congrArg answer) fun he => (congrArg answer he).trans (hg _)
  cases act with
  | createOrGet fresh presented ip userAgent =>
    exact .inl (congrArg Answer.started (h.createOrGet fresh presented ip userAgent).1)
  | renew id => exact lift h.renew .session fun _ => rfl
  | createSnapshot fresh id document text => exact lift (h.record _) .snapshot fun _ => rfl
  | undo id steps => exact lift (h.undo _) .undone fun _ => rfl
  | reset id => exact lift (h.undo _) .undone fun _ => rfl
  | session id => exact lift (h.view Stack.session) .session fun _ => rfl
  | state id => exact lift (h.view _) .state fun _ => rfl
  | history id => exact lift (h.view Stack.active) .history fun _ => rfl
  | snapshot id => cases hc
  | stats => cases hc
  | destroy id => cases hc
  | discardUnused id => cases hc
  | sweep => cases hc

/-- An action but a sweep, done by both. -/
theorem perform (h : Purged a a' now) {act : Action} (hs : act ≠ .sweep) :
    Purged (a.perform now act).state (a'.perform now act).state now := by
  cases act with
  | createOrGet fresh presented ip userAgent => exact (h.createOrGet fresh presented ip userAgent).2
  | renew id => exact h.renew.state
  | createSnapshot fresh id document text => exact (h.record _).state
  | undo id steps => exact (h.undo _).state
  | reset id => exact (h.undo _).state
  | session id => exact (h.view Stack.session).state
  | state id => exact (h.view _).state
  | history id => exact (h.view Stack.active).state
  | snapshot id => exact h
  | stats => exact h
  | destroy id => exact h.destroy
  | discardUnused id => exact h.discardUnused
  | sweep => exact absurd rfl hs

/-! ## Runs -/

/-- A run of the first without sweeps, and one of the second with them. -/
theorem answers : ∀ (acts : Actions) {a a' : Stacks} {t : Millis}, Purged a a' t → acts.Ordered →
    (∀ b ∈ acts, t ≤ b.1) →
    List.Forall₂ Answer.Admits (acts.unswept.toClients (a.answers acts.unswept)) (acts.toClients (a'.answers acts))
  | [], _, _, _, _, _, _ => .nil
  | (now, act) :: acts, a, a', t, h, ho, ht => by
    obtain ⟨hlater, hrest⟩ := List.pairwise_cons.1 ho
    have hnow : Purged a a' now := h.mono (ht _ List.mem_cons_self)
    by_cases hs : act = .sweep
    · subst hs
      rw [Actions.unswept_cons_sweep]
      exact answers acts hnow.sweep hrest hlater
    · have ih := answers acts (hnow.perform hs) hrest hlater
      rw [Actions.unswept_cons hs, Stacks.answers_cons, Stacks.answers_cons]
      cases hc : act.isClient with
      | true =>
        rw [Actions.toClients_cons_of_pos hc, Actions.toClients_cons_of_pos hc]
        exact .cons (hnow.perform_answer hc) ih
      | false =>
        rw [Actions.toClients_cons_of_neg hc, Actions.toClients_cons_of_neg hc]
        exact ih

end Purged

theorem Actions.Ordered.exists_le {acts : Actions} (h : acts.Ordered) : ∃ t, ∀ a ∈ acts, t ≤ a.1 := by
  cases acts with
  | nil => exact ⟨0, fun _ ha => nomatch ha⟩
  | cons a acts =>
    refine ⟨a.1, fun b hb => ?_⟩
    rcases List.mem_cons.1 hb with rfl | hb
    · exact Int.le_refl _
    · exact (List.pairwise_cons.1 h).1 b hb

/-- Sweeps bring no ids. -/
theorem Actions.Fresh.unswept {acts : Actions} (h : acts.Fresh) : acts.unswept.Fresh :=
  ⟨h.sessions.sublist (List.filter_sublist.filterMap _), h.snapshots.sublist (List.filter_sublist.filterMap _)⟩

namespace Manager

/-- **Sweeps do not show.**  In every run in which no id is brought twice and the clock does not go back, the answers to
clients are those of the run without its sweeps, one by one, except that a session may be not found where it was over. -/
theorem sweeps_unseen (s : Settings) (acts : Actions) (hf : acts.Fresh) (ho : acts.Ordered) :
    List.Forall₂ Answer.Admits (acts.unswept.toClients ((empty s).answers acts.unswept))
      (acts.toClients ((empty s).answers acts)) := by
  obtain ⟨t, ht⟩ := ho.exists_le
  rw [answers_of_mirrors acts (mirrors_empty s) (sound_empty s) (free_empty s hf),
    answers_of_mirrors acts.unswept (mirrors_empty s) (sound_empty s) (free_empty s hf.unswept)]
  exact Purged.answers acts (.refl _ t) ho ht

/-- A session whose time is over is swept before its client asks for its history, and presents it. -/
def sweptRun : Actions :=
  [(0, .createOrGet "a" none "192.0.2.1" "agent"), (1, .createSnapshot "u" "a" (.ofChanges []) none), (500, .sweep),
    (1001, .sweep), (1001, .history "a"), (1002, .createOrGet "b" (some "a") "192.0.2.1" "agent"),
    (1003, .createSnapshot "v" "b" (.ofChanges []) none), (1500, .sweep), (2002, .history "b")]

theorem sweeps_unseen_swept :
    let m := empty { ttlSecs := 1 }
    sweptRun.Fresh ∧ sweptRun.Ordered ∧
      List.Forall₂ Answer.Admits (sweptRun.unswept.toClients (m.answers sweptRun.unswept))
        (sweptRun.toClients (m.answers sweptRun)) ∧
      (sweptRun.unswept.toClients (m.answers sweptRun.unswept))[2]? = some (.history (.error (.expired "a"))) ∧
      (sweptRun.toClients (m.answers sweptRun))[2]? = some (.history (.error (.notFound "a"))) ∧
      (sweptRun.toClients (m.answers sweptRun))[5]? =
        some (.history (.ok [.taken 1003 "v" "b" (.ofChanges []) none])) := by
  intro m
  have hf : sweptRun.Fresh := ⟨by decide, by decide⟩
  have ho : sweptRun.Ordered := by decide
  have hseen := sweeps_unseen { ttlSecs := 1 } sweptRun hf ho
  -- the answers are evaluated on stacks, whose sweep is a filter
  have heq : m.answers sweptRun = (Stacks.empty { ttlSecs := 1 }).answers sweptRun :=
    answers_of_mirrors sweptRun (mirrors_empty _) (sound_empty _) (free_empty _ hf)
  have heq' : m.answers sweptRun.unswept = (Stacks.empty { ttlSecs := 1 }).answers sweptRun.unswept :=
    answers_of_mirrors sweptRun.unswept (mirrors_empty _) (sound_empty _) (free_empty _ hf.unswept)
  refine ⟨hf, ho, hseen, ?_, ?_, ?_⟩
  · rw [heq']
    rfl
  · rw [heq]
    rfl
  · rw [heq]
    rfl

end Manager

end SiteEdit.Session
