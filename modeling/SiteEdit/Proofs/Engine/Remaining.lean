import SiteEdit.Proofs.Engine.Balance
import SiteEdit.Proofs.Engine.Outcome
import SiteEdit.Proofs.Limit.Budget
/-!
# The number of requests that are left

An accepted request is told how many more its client may send.  As long as the clock stands still and nothing else
happens, so many follow, whatever they ask for and whatever becomes of them, and every later one is refused for its
quota.
-/
namespace SiteEdit.Engine

open Audit (Audited)
open Session (Manager Entry)
open Limit (Limiter Key Decision maxCount)

/-! ## The session of a client -/

/-- The session `id` is live, and belongs to a client. -/
def Serves (m : Manager) (now : Millis) (id identity : String) : Prop :=
  ∃ e, m.Live now id e ∧ e.session.id = id ∧ e.session.identity = identity

namespace Serves

variable {m : Manager} {now : Millis} {id fresh identity ip userAgent : String}

/-- The session is given to its client again. -/
theorem createOrGet (h : Serves m now id (identityHash ip userAgent)) (fresh : String) :
    let c := m.createOrGet now fresh (some id) ip userAgent
    c.result.id = id ∧ Serves c.state now id (identityHash ip userAgent) ∧ c.state.settings = m.settings := by
  intro c
  obtain ⟨e, hl, hid, hi⟩ := h
  rcases m.createOrGet_cases now fresh (some id) ip userAgent with ⟨k, d, hk, hd, -, hc⟩ | ⟨hother, -, -⟩
  · obtain rfl := Option.some.inj hk
    obtain rfl := Option.some.inj (hl.1.symm.trans hd.1)
    have hresult : c.result = e.countRequest.session := congrArg Audited.result hc
    have hstate : c.state = { m with sessions := m.sessions.adjust id Entry.countRequest } := congrArg Audited.state hc
    rw [hresult, hstate]
    refine ⟨hid, ⟨e.countRequest, ⟨?_, hl.2⟩, hid, hi⟩, rfl⟩
    rw [Store.get?_adjust, if_pos rfl, hl.1]
    rfl
  · exact absurd hi (hother id e rfl hl)

/-- A request gets a session that is live and its client's own. -/
theorem of_createOrGet (hm : m.Sound) (hf : m.sessions.get? fresh = none) (ht : 0 < m.settings.ttl)
    (presented : Option String) :
    let c := m.createOrGet now fresh presented ip userAgent
    Serves c.state now c.result.id (identityHash ip userAgent) := by
  intro c
  rcases m.createOrGet_cases now fresh presented ip userAgent with ⟨id, e, rfl, hl, hi, -⟩ | ⟨-, hr, hs⟩
  · obtain ⟨hid, hserves, -⟩ := createOrGet ⟨e, hl, (hm.fits id e hl.1).id, hi⟩ fresh
    exact hid.symm ▸ hserves
  · have hid : c.result.id = fresh := congrArg Session.id hr
    have hstate : c.state = _ := hs
    have ho := @opened_started m now fresh ⟨"", ip, userAgent, presented⟩ hf ht (identityHash ip userAgent)
    rw [hid, hstate]
    exact ⟨_, ho.live, rfl, rfl⟩

/-- A snapshot of the session starts its time anew. -/
theorem createSnapshot (h : Serves m now id identity) (ht : 0 < m.settings.ttl) (fresh : String) (d : Document)
    (note : Option String) : Serves (m.createSnapshot now fresh id d note).state now id identity := by
  obtain ⟨e, hl, hid, hi⟩ := h
  rw [(Manager.createSnapshot_of_live hl d note).2]
  let pushed := (e.push fresh m.settings.maxHistory.toNat).1
  refine ⟨(pushed.slide now m.settings.ttl).countTransform, ⟨?_, ?_⟩, hid, hi⟩
  · rw [Store.get?_adjust, if_pos rfl, hl.1]
    rfl
  · exact decide_eq_false (Int.not_le.2 (Int.lt_add_of_pos_right now ht))

end Serves

/-! ## One request -/

/-- A quota refuses a request that one of the two decisions does not allow. -/
theorem Outcome.quota_iff {screen : Policy.Screen} {ip own : Decision} {text : String}
    {result : Except Refusal Accepted} (h : Outcome screen ip own text result) :
    (∃ denial, result = .error (.quota denial)) ↔ ip.isAllowed = false ∨ own.isAllowed = false := by
  simp only [h.quota]
  cases ip <;> cases own <;> simp [Decision.isAllowed]

namespace State

variable {s : State} {screen : Policy.Screen} {now : Millis} {ip userAgent id : String} {n : Nat}

/-- What is accepted tells the number that it is given, and its session. -/
theorem record_remaining {fresh session text : String} {d : Document} {a : Accepted}
    (h : (s.record screen now fresh session text d n).result = .ok a) : a.remaining = n ∧ a.sessionId = session := by
  unfold record onSessions Audited.next at h
  dsimp only at h
  split at h
  · cases h
  · obtain rfl := Except.ok.inj h
    exact ⟨rfl, rfl⟩

/-- A request is accepted when both quotas allow it, and tells the smaller of the two numbers that they leave. -/
theorem accepted_remaining {fresh : FreshIds} {r : Request} {a : Accepted}
    (ha : (s.transform screen now fresh r).result = .ok a) :
    let asked := s.limiter.check now (.ip r.ip)
    let c := s.sessions.createOrGet now fresh.session r.session r.ip r.userAgent
    ∃ i k, asked.result = .allow i ∧ (asked.state.check now (.session c.result.id)).result = .allow k ∧
      a.remaining = min i k ∧ a.sessionId = c.result.id := by
  intro asked c
  rw [transform_result] at ha
  dsimp only at ha
  split at ha
  · cases ha
  · next i hi =>
    rw [proceed_result] at ha
    dsimp only at ha
    split at ha
    · cases ha
    · next k hk =>
      split at ha
      · cases ha
      · exact ⟨i, k, hi, hk, record_remaining ha⟩

theorem proceed_limiter (s : State) (screen : Policy.Screen) (now : Millis) (fresh session text : String) (n : Nat) :
    (s.proceed screen now fresh session text n).state.limiter = (s.limiter.check now (.session session)).state := by
  rw [proceed_jobs, run_limiter]
  unfold proceedJobs
  dsimp only
  split <;> rfl

/-- A request is counted for its address, and if that allows it for the session that it gets. -/
theorem transform_limiter (s : State) (screen : Policy.Screen) (now : Millis) (fresh : FreshIds) (r : Request) :
    let ip := s.limiter.check now (.ip r.ip)
    let c := s.sessions.createOrGet now fresh.session r.session r.ip r.userAgent
    (s.transform screen now fresh r).state.limiter =
      if ip.result.isAllowed then (ip.state.check now (.session c.result.id)).state else ip.state := by
  intro ip c
  unfold transform onLimiter Audited.next
  dsimp only
  show _ = if (s.limiter.check now (.ip r.ip)).result.isAllowed then _ else _
  cases (s.limiter.check now (.ip r.ip)).result with
  | deny denial => rfl
  | allow n =>
    show _ = (ip.state.check now (.session c.result.id)).state
    have hproceed := proceed_limiter { limiter := ip.state, sessions := c.state } screen now fresh.snapshot
      c.result.id r.text n
    rw [← hproceed]
    dsimp only
    split
    · rfl
    · split <;> rfl

theorem transform_settings (s : State) (screen : Policy.Screen) (now : Millis) (fresh : FreshIds) (r : Request) :
    let t := s.transform screen now fresh r
    t.state.limiter.settings = s.limiter.settings ∧ t.state.sessions.settings = s.sessions.settings := by
  intro t
  rw [transform_jobs, run_limiter, run_sessions]
  exact ⟨Limiter.run_settings _ _, Manager.run_settings _ _⟩

/-- **A client has `n` requests left** for its session, which is live. -/
structure Left (s : State) (now : Millis) (ip userAgent id : String) (n : Nat) : Prop where
  budgets : ∃ a b, s.limiter.Budget now (.ip ip) a ∧ s.limiter.Budget now (.session id) b ∧ min a b = n
  ceilings : ∀ d, (s.limiter.settings.ceiling d).maxRequests.toNat < maxCount
  serves : Serves s.sessions now id (identityHash ip userAgent)
  ttl : 0 < s.sessions.settings.ttl

namespace Left

/-- The session of the client stays live. -/
theorem served (h : s.Left now ip userAgent id n) (fresh : FreshIds) (text : String) :
    Serves (s.transform screen now fresh ⟨text, ip, userAgent, some id⟩).state.sessions now id
      (identityHash ip userAgent) := by
  obtain ⟨hid, hserves, hset⟩ := h.serves.createOrGet fresh.session
  have hkept : ∀ m : Manager, withoutIssued (some id)
      (s.sessions.createOrGet now fresh.session (some id) ip userAgent).result.id m = m := fun m =>
    if_pos (congrArg some hid.symm)
  rcases s.transform_cases screen now fresh ⟨text, ip, userAgent, some id⟩ with
    ⟨-, -, ht | ht⟩ | ⟨d, note, ⟨-, -, -, ht⟩ | ⟨-, -, -, -, ht⟩⟩
  · rw [ht]
    exact h.serves
  · rw [ht, hkept]
    exact hserves
  · rw [ht, hkept, hid]
    exact hserves.createSnapshot (hset ▸ h.ttl) fresh.snapshot d note
  · rw [ht, hid]
    exact hserves.createSnapshot (hset ▸ h.ttl) fresh.snapshot d note

/-- **A request of the client takes one** from those that it has left, whatever becomes of it.  It is refused for its
quota if none was left, and for no other reason of that kind. -/
theorem transform (h : s.Left now ip userAgent id n) (screen : Policy.Screen) (fresh : FreshIds) (text : String) :
    let t := s.transform screen now fresh ⟨text, ip, userAgent, some id⟩
    ((∃ denial, t.result = .error (.quota denial)) ↔ n = 0) ∧ t.state.Left now ip userAgent id (n - 1) := by
  intro t
  obtain ⟨a, b, ha, hb, hmin⟩ := h.budgets
  obtain ⟨hid, ⟨e, hlive, -⟩, -⟩ := h.serves.createOrGet fresh.session
  let asked := s.limiter.check now (.ip ip)
  let own := asked.state.check now (.session id)
  have hne : Key.ip ip ≠ Key.session id := nofun
  -- the address is asked first, and the session only if the address allows the request
  obtain ⟨hasked, ha'⟩ : asked.result.isAllowed = decide (0 < a) ∧ asked.state.Budget now (.ip ip) (a - 1) :=
    ha.check (h.ceilings .ip)
  have hb' : asked.state.Budget now (.session id) b := hb.check_other hne
  have hceiling : (asked.state.settings.ceiling .session).maxRequests.toNat < maxCount := by
    rw [Limiter.check_settings]
    exact h.ceilings .session
  obtain ⟨hown, hb''⟩ : own.result.isAllowed = decide (0 < b) ∧ own.state.Budget now (.session id) (b - 1) :=
    hb'.check hceiling
  have hopened : let c := s.sessions.createOrGet now fresh.session (some id) ip userAgent
      c.state.Live now c.result.id e := by
    dsimp only
    rwa [hid]
  have houtcome : Outcome screen asked.result own.result text t.result := by
    simpa only [hid] using s.transform_outcome_of_live screen now fresh ⟨text, ip, userAgent, some id⟩ hopened
  have hlimiter : t.state.limiter = if asked.result.isAllowed then own.state else asked.state := by
    simpa only [hid] using s.transform_limiter screen now fresh ⟨text, ip, userAgent, some id⟩
  obtain ⟨hset, httl⟩ := s.transform_settings screen now fresh ⟨text, ip, userAgent, some id⟩
  refine ⟨?_, ?_, ?_, h.served fresh text, httl ▸ h.ttl⟩
  · rw [houtcome.quota_iff, hasked, hown, decide_eq_false_iff_not, decide_eq_false_iff_not]
    omega
  · by_cases hpos : 0 < a
    · rw [hlimiter, if_pos (hasked.trans (decide_eq_true hpos))]
      exact ⟨a - 1, b - 1, ha'.check_other hne.symm, hb'', by omega⟩
    · rw [hlimiter, hasked, decide_eq_false hpos]
      exact ⟨a - 1, b, ha', hb', by omega⟩
  · rw [hset]
    exact h.ceilings

/-- As many requests of the client take as many. -/
theorem run : ∀ (pre : List (FreshIds × String)) {e : Engine} {n : Nat}, e.state.Left now ip userAgent id n →
    (e.after (pre.map fun p => (now, .transform p.1 ⟨p.2, ip, userAgent, some id⟩))).state.Left now ip userAgent id
      (n - pre.length)
  | [], _, _, h => h
  | (fresh, text) :: pre, e, n, h => by
    have hstep : (e.transform now fresh ⟨text, ip, userAgent, some id⟩).1.state.Left now ip userAgent id (n - 1) :=
      (h.transform e.screen fresh text).2
    have hrun := run pre hstep
    rwa [Nat.sub_sub, Nat.add_comm] at hrun

/-- An accepted request tells the number that it leaves. -/
theorem of_accepted {r : Request} {fresh : FreshIds} {a : Accepted} (hm : s.sessions.Sound)
    (hf : s.sessions.sessions.get? fresh.session = none) (ht : 0 < s.sessions.settings.ttl)
    (hwindow : ∀ d, 0 < (s.limiter.settings.ceiling d).window)
    (hceilings : ∀ d, (s.limiter.settings.ceiling d).maxRequests.toNat < maxCount)
    (ha : (s.transform screen now fresh r).result = .ok a) :
    (s.transform screen now fresh r).state.Left now r.ip r.userAgent a.sessionId a.remaining := by
  let asked := s.limiter.check now (.ip r.ip)
  let c := s.sessions.createOrGet now fresh.session r.session r.ip r.userAgent
  let own := asked.state.check now (.session c.result.id)
  obtain ⟨i, k, hi, hk, hleft, hid⟩ : ∃ i k, asked.result = .allow i ∧ own.result = .allow k ∧
      a.remaining = min i k ∧ a.sessionId = c.result.id := accepted_remaining ha
  have hlimiter : (s.transform screen now fresh r).state.limiter = own.state := by
    rw [transform_limiter]
    exact if_pos (congrArg Decision.isAllowed hi)
  obtain ⟨hset, httl⟩ := s.transform_settings screen now fresh r
  have hserved : Serves (s.transform screen now fresh r).state.sessions now c.result.id
      (identityHash r.ip r.userAgent) := by
    have hc : Serves c.state now c.result.id (identityHash r.ip r.userAgent) := .of_createOrGet hm hf ht r.session
    have hcset : c.state.settings = s.sessions.settings :=
      s.sessions.perform_settings now (.createOrGet fresh.session r.session r.ip r.userAgent)
    rcases s.transform_cases screen now fresh r with
      ⟨_, hr, -⟩ | ⟨d, note, ⟨_, -, hr, -⟩ | ⟨-, -, -, -, hs⟩⟩
    · rw [ha] at hr
      cases hr
    · rw [ha] at hr
      cases hr
    · rw [hs]
      exact hc.createSnapshot (hcset ▸ ht) fresh.snapshot d note
  have hne : Key.ip r.ip ≠ Key.session c.result.id := nofun
  have hip : asked.state.Budget now (.ip r.ip) i := Limiter.budget_of_allow (hwindow .ip) hi
  have hown : own.state.Budget now (.session c.result.id) k := by
    refine Limiter.budget_of_allow ?_ hk
    rw [Limiter.check_settings]
    exact hwindow .session
  rw [hid, hleft]
  refine ⟨⟨i, k, ?_, ?_, rfl⟩, ?_, hserved, httl ▸ ht⟩
  · rw [hlimiter]
    exact hip.check_other hne.symm
  · rwa [hlimiter]
  · rwa [hset]

end Left

end State

/-! ## Requests of a run -/

theorem window_pos {s : Settings} (h : s.fault? = none) (d : Limit.Dimension) : 0 < (s.limits.ceiling d).window := by
  have hvoid : Settings.isVoid (s.limits.ceiling d) = false := has_eq_false h (.ceiling d)
  rw [Settings.isVoid, Bool.or_eq_false_iff] at hvoid
  exact seconds_pos (ne_of_beq_false hvoid.2)

/-- The limiter of an engine keeps its settings. -/
theorem limits_after {s : Settings} {e : Engine} (h : start s = .ok e) (acts : Actions) :
    (e.after acts).state.limiter.settings = s.limits := by
  rw [limiter_after h, Limiter.run_settings]
  rfl

/-- **The number of requests that are left is true.**  After every run of an engine whose ceilings are below the largest
count, a client whose request is accepted is told a number.  While the clock stands still and nothing else happens, as
many requests that come after from the same address and user agent, and present the session, are not refused for their
quota, whatever they say and whatever becomes of them, and all later ones are.  This is so as long as no sum of times
overflows: then the session that is presented stays live, and the full time that a request gives it ends in range. -/
theorem remaining_exact (s : Settings) (e : Engine) (hstart : start s = .ok e)
    (hmax : ∀ d, (s.limits.ceiling d).maxRequests.toNat < maxCount) (acts : Actions) (now : Millis) (fresh : FreshIds)
    (r : Request) (hf : Actions.Fresh (acts ++ [(now, .transform fresh r)])) (a : Accepted)
    (ha : ((e.after acts).transform now fresh r).2 = .ok a) (pre : List (FreshIds × String))
    (next : FreshIds × String) :
    let follow := fun p : FreshIds × String => Action.transform p.1 ⟨p.2, r.ip, r.userAgent, some a.sessionId⟩
    let asked := acts ++ (now, .transform fresh r) :: pre.map fun p => (now, follow p)
    let later := e.after asked
    e.StaysInRange (asked ++ [(now, follow next)]) →
      ((∃ denial, (later.transform now next.1 ⟨next.2, r.ip, r.userAgent, some a.sessionId⟩).2
          = .error (.quota denial)) ↔ a.remaining ≤ pre.length) ∧
        (∃ entry, later.state.sessions.Live now a.sessionId entry) ∧ InRange (now + s.sessions.ttl) := by
  intro follow asked later hrange
  obtain ⟨hm, hset, hs, -⟩ := sound_after hstart hf
  have hfault := (of_start hstart).1
  have hlimits := limits_after hstart acts
  have hasked : asked = (acts ++ [(now, .transform fresh r)]) ++ pre.map fun p => (now, follow p) :=
    List.append_cons _ _ _
  have hfirst : ((e.after acts).transform now fresh r).1.state.Left now r.ip r.userAgent a.sessionId a.remaining :=
    .of_accepted hm (hs fresh.session (List.mem_singleton.2 rfl)) (hset ▸ ttl_pos hfault)
      (hlimits ▸ window_pos hfault) (hlimits ▸ hmax) ha
  have hlater : later.state.Left now r.ip r.userAgent a.sessionId (a.remaining - pre.length) := by
    show (e.after (acts ++ _)).state.Left now _ _ _ _
    rw [after_append]
    exact hfirst.run pre
  have hnext := (hlater.transform later.screen next.1 next.2).1
  rw [Nat.sub_eq_zero_iff_le] at hnext
  obtain ⟨entry, hlive, -⟩ := hlater.serves
  rw [hasked, List.append_assoc, staysInRange_append] at hrange
  obtain ⟨-, -, -, -, -, hend, -⟩ := (recorded_of_accepted hstart hf hrange.1 ha).session
  exact ⟨hnext, ⟨entry, hlive⟩, hend⟩

/-- Three requests in a minute. -/
def tightSettings : Settings :=
  { limits := { ip := { maxRequests := 3, windowSecs := 60 }, session := { maxRequests := 3, windowSecs := 60 } } }

theorem tightSettings_isShort : tightSettings.IsShort :=
  ⟨by decide, fun d => by cases d <;> decide, by decide⟩

theorem remaining_exact_tight :
    let follow := Action.transform ⟨"b", "v"⟩ ⟨"make it nice", "192.0.2.1", "agent", some "a"⟩
    let first := (0, Action.transform ⟨"a", "u"⟩ ⟨"hide the banner", "192.0.2.1", "agent", none⟩)
    let r : Request := ⟨"hide the banner", "192.0.2.1", "agent", some "a"⟩
    ∃ e a, start tightSettings = .ok e ∧
      (e.transform 0 ⟨"a", "u"⟩ ⟨"hide the banner", "192.0.2.1", "agent", none⟩).2 = .ok a ∧ a.remaining = 2 ∧
      e.StaysInRange [first, (0, follow), (0, follow), (0, .transform ⟨"c", "w"⟩ r)] ∧
      (¬ ∃ denial, ((e.after [first, (0, follow)]).transform 0 ⟨"c", "w"⟩ r).2 = .error (.quota denial)) ∧
      ∃ denial, ((e.after [first, (0, follow), (0, follow)]).transform 0 ⟨"c", "w"⟩ r).2 = .error (.quota denial) := by
  intro follow first r
  obtain ⟨e, he⟩ := exists_start (s := tightSettings) (by decide)
  have hrun : (((lenientEngine tightSettings).transform 0 ⟨"a", "u"⟩
      ⟨"hide the banner", "192.0.2.1", "agent", none⟩).2.toOption.any
        fun a => a.sessionId == "a" && a.remaining == 2) = true := by decide +kernel
  obtain ⟨a, ha, hrun⟩ := Policy.exists_ok hrun
  have ha := (transform_lenient he rfl [] nofun 0 ⟨"a", "u"⟩ (by decide)).trans ha
  rw [Bool.and_eq_true, beq_iff_eq, beq_iff_eq] at hrun
  obtain ⟨hid, hleft⟩ := hrun
  have hmax : ∀ d, (tightSettings.limits.ceiling d).maxRequests.toNat < maxCount := fun d => by
    cases d <;> decide
  have hrange : ∀ acts : Actions, (∀ a ∈ acts, ∃ fresh r, a = (0, .transform fresh r)) → e.StaysInRange acts :=
    fun acts hacts => staysInRange_of_isNear he tightSettings_isShort fun a ha => by
      obtain ⟨fresh, r, rfl⟩ := hacts a ha
      exact ⟨(by decide : IsNear 0), nofun⟩
  have hexact := fun pre => remaining_exact tightSettings e he hmax [] 0 ⟨"a", "u"⟩
    ⟨"hide the banner", "192.0.2.1", "agent", none⟩ ⟨by decide, by decide⟩ a ha pre (⟨"c", "w"⟩, "hide the banner")
    (hrange _ fun x hx => by
      simp only [List.nil_append, List.cons_append, List.mem_cons, List.mem_append, List.mem_map, List.not_mem_nil,
        or_false] at hx
      rcases hx with rfl | ⟨p, -, rfl⟩ | rfl <;> exact ⟨_, _, rfl⟩)
  rw [hid, hleft] at hexact
  refine ⟨e, a, he, ha, hleft, hrange _ (by simp [first, follow]), fun hq => ?_, ?_⟩
  · exact absurd ((hexact [(⟨"b", "v"⟩, "make it nice")]).1.1 hq) (by decide)
  · exact (hexact [(⟨"b", "v"⟩, "make it nice"), (⟨"b", "v"⟩, "make it nice")]).1.2 (by decide)

end SiteEdit.Engine
