import SiteEdit.Proofs.Limit.Budget
import SiteEdit.Proofs.Limit.Enforcement
/-!
# The times of windows and bans

Windows start and bans for violations end at times that are made of the times of the run (`Dated.run`), so no sum
overflows if they and the durations are small enough (`staysInRange_of_isNear`).  Where a ceiling can be passed at all, a
key that keeps asking passes it and is banned, without any time going by (`exists_provoked`).
-/
namespace SiteEdit.Limit

/-- Counts stop at the largest one, so no request goes past a ceiling as high as that. -/
def Ceiling.IsPassable (c : Ceiling) : Prop := c.maxRequests.toNat < maxCount

/-- Windows and bans for violations are short. -/
structure Settings.IsShort (s : Settings) : Prop where
  window : ∀ d, IsNear (s.ceiling d).window
  ban : IsNear s.banDuration

namespace Limiter

variable {l : Limiter} {now : Millis} {key : Key} {k : String} {b : Ban} {r : Record} {n : Nat}

/-! ## Times of a run -/

/-- Windows started, requests were counted and bans for violations were placed at certain times. -/
structure Dated (times : Millis → Prop) (l : Limiter) : Prop where
  windows : ∀ key r, l.record? key = some r → times r.windowStart
  seen : ∀ k r, l.records.get? k = some r → times r.lastSeen
  bans : ∀ k b, l.bans.get? k = some b → b.source = .automatic →
    ∃ t d, times t ∧ (l.settings.ceiling d).IsPassable ∧ b.expiresAt = some (t + l.settings.banDuration)

theorem windowStart_nextRecord (l : Limiter) (now : Millis) (key : Key) :
    (l.nextRecord now key).windowStart = now ∨
      ∃ r, l.record? key = some r ∧ (l.nextRecord now key).windowStart = r.windowStart := by
  unfold nextRecord Record.next
  cases l.record? key with
  | none => exact .inl rfl
  | some r =>
    dsimp only
    unfold Record.hit
    split_ifs
    · exact .inr ⟨r, rfl, rfl⟩
    · exact .inl rfl

theorem isPassable_of_exceeds
    (h : (l.settings.ceiling key.dimension).maxRequests.toNat < (l.nextRecord now key).count) :
    (l.settings.ceiling key.dimension).IsPassable := by
  have hone : 1 ≤ maxCount := by decide
  refine h.trans_le ?_
  unfold nextRecord Record.next
  cases l.record? key with
  | none => exact hone
  | some r =>
    dsimp only
    unfold Record.hit
    split_ifs
    · exact countUp_le _
    · exact hone

/-- A window starts now, or it is the one of the record before. -/
theorem windowStart_perform {act : Action} (h : (l.perform now act).state.record? key = some r) :
    r.windowStart = now ∨ ∃ r', l.record? key = some r' ∧ r.windowStart = r'.windowStart := by
  by_cases hreset : act = .reset key
  · subst hreset
    have hnone : (l.perform now (.reset key)).state.record? key = none :=
      (Store.get?_erase _ _ _).trans (if_pos rfl)
    rw [hnone] at h
    cases h
  · have hmoves := l.moves now key hreset
    rw [h] at hmoves
    generalize l.record? key = before at hmoves ⊢
    generalize l.counted? now key act = counted at hmoves
    cases hmoves with
    | stay => exact .inr ⟨r, rfl, rfl⟩
    | go r' => exact .inr ⟨r', rfl, rfl⟩
    | start => exact .inl rfl

theorem lastSeen_nextRecord (l : Limiter) (now : Millis) (key : Key) : (l.nextRecord now key).lastSeen = now := by
  unfold nextRecord Record.next
  cases l.record? key with
  | none => rfl
  | some r =>
    dsimp only
    unfold Record.hit
    split_ifs <;> rfl

/-- A record is of a request that is counted now, or it was there before. -/
theorem lastSeen_perform {act : Action} (h : (l.perform now act).state.records.get? k = some r) :
    r.lastSeen = now ∨ l.records.get? k = some r := by
  cases act with
  | check key =>
    have h : (l.check now key).state.records.get? k = some r := h
    cases hb : l.activeBan? now key with
    | some ban =>
      rw [check_of_banned hb] at h
      exact .inr h
    | none =>
      obtain ⟨-, v, hstate⟩ := check_of_not_banned hb
      rw [hstate] at h
      split at h
      · rw [← Option.some.inj h]
        exact .inl (l.lastSeen_nextRecord now key)
      · exact .inr h
  | unban key =>
    have h : (l.unban key).state.records.get? k = some r := h
    rw [unban_state] at h
    exact .inr h
  | reset key =>
    have h : (l.records.erase key.text).get? k = some r := h
    rw [Store.get?_erase] at h
    split at h
    · cases h
    · exact .inr h
  | sweep =>
    have h : (l.records.filter (l.keeps now)).get? k = some r := h
    rw [Store.get?_filter] at h
    exact .inr (Option.filter_eq_some_iff.1 h).1
  | ban => exact .inr h
  | ban? => exact .inr h
  | bans => exact .inr h
  | record => exact .inr h
  | stats => exact .inr h

/-- A ban is placed now, by an operator or for violations, or it was there before. -/
theorem ban_perform {act : Action} (h : (l.perform now act).state.bans.get? k = some b) :
    l.bans.get? k = some b ∨ b.source = .admin ∨
      (∃ d, (l.settings.ceiling d).IsPassable) ∧ b.expiresAt = some (now + l.settings.banDuration) := by
  cases act with
  | check key =>
    have h : (l.check now key).state.bans.get? k = some b := h
    cases hb : l.activeBan? now key with
    | some ban =>
      rw [check_of_banned hb] at h
      exact .inl h
    | none =>
      rw [check_bans_of_not_banned hb] at h
      split at h
      · have hpassable := isPassable_of_exceeds (past_of_provoked h)
        exact .inr (.inr ⟨⟨key.dimension, hpassable⟩, (provoked?_eq_some h).2⟩)
      · exact .inl h
  | ban key reason duration =>
    have h : (l.bans.insert key.text _).get? k = some b := h
    rw [Store.get?_insert] at h
    split at h
    · rw [← Option.some.inj h]
      exact .inr (.inl rfl)
    · exact .inl h
  | unban key =>
    have h : (l.unban key).state.bans.get? k = some b := h
    rw [unban_state, Store.get?_erase] at h
    split at h
    · cases h
    · exact .inl h
  | sweep =>
    have h : (l.bans.filter fun _ ban => ban.isActive now).get? k = some b := h
    rw [Store.get?_filter] at h
    exact .inl (Option.filter_eq_some_iff.1 h).1
  | ban? => exact .inl h
  | bans => exact .inl h
  | record => exact .inl h
  | reset => exact .inl h
  | stats => exact .inl h

variable {times : Millis → Prop}

theorem dated_empty (s : Settings) (times : Millis → Prop) : (empty s).Dated times where
  windows := nofun
  seen := nofun
  bans := nofun

theorem Dated.perform (h : l.Dated times) (hnow : times now) (act : Action) :
    (l.perform now act).state.Dated times where
  windows key r hr := by
    rcases windowStart_perform hr with hstart | ⟨r', hr', hstart⟩
    · rwa [hstart]
    · rw [hstart]
      exact h.windows key r' hr'
  seen k r hr := by
    rcases lastSeen_perform hr with hseen | hr
    · rwa [hseen]
    · exact h.seen k r hr
  bans k b hb hsource := by
    rw [perform_settings]
    rcases ban_perform hb with hb | hadmin | ⟨⟨d, hd⟩, hends⟩
    · exact h.bans k b hb hsource
    · rw [hadmin] at hsource
      cases hsource
    · exact ⟨now, d, hnow, hd, hends⟩

theorem Dated.run : ∀ (acts : Actions) {l : Limiter}, l.Dated times → (∀ a ∈ acts, times a.1) →
    (l.run acts).Dated times
  | [], _, h, _ => h
  | (now, act) :: acts, _, h, ht => by
    rw [List.forall_mem_cons] at ht
    exact Dated.run acts (h.perform ht.1 act) ht.2

/-! ## Sums of small times -/

theorem inRange_countSums (h : l.Dated IsNear) (hs : l.settings.IsShort) (hnow : IsNear now) (key : Key) :
    ∀ t ∈ l.countSums now key, InRange t := by
  have hwindow := hs.window key.dimension
  have hstart : IsNear (l.nextRecord now key).windowStart := by
    rcases l.windowStart_nextRecord now key with hw | ⟨r, hr, hw⟩
    · rwa [hw]
    · rw [hw]
      exact h.windows key r hr
  have hwait : InRange ((l.nextRecord now key).windowStart + (l.settings.ceiling key.dimension).window - now) ∧
      InRange ((l.nextRecord now key).untilWindowEnd now (l.settings.ceiling key.dimension).window + 999) := by
    rw [← IsNear.iff] at hnow hwindow hstart
    unfold Record.untilWindowEnd InRange
    omega
  refine List.forall_mem_append.2 ⟨fun t ht => ?_, ?_⟩
  · obtain ⟨r, hr, rfl⟩ := List.mem_map.1 ht
    exact hnow.inRange_sub (h.windows key r (Option.mem_toList.1 hr))
  · split_ifs
    · simp only [List.forall_mem_cons]
      exact ⟨hstart.inRange_add hwindow, hwait.1, hnow.inRange_add hs.ban, nofun⟩
    · simp only [List.forall_mem_cons]
      exact ⟨hstart.inRange_add hwindow, hwait.1, hwait.2, nofun⟩
    · simp

theorem inRange_sums {act : Action} (h : l.Dated IsNear) (hs : l.settings.IsShort) (hnow : IsNear now)
    (hact : ∀ d ∈ act.duration?, IsNear d) : ∀ t ∈ l.sums now act, InRange t := by
  cases act with
  | check key =>
    show ∀ t ∈ if (l.activeBan? now key).isSome then [] else l.countSums now key, InRange t
    split_ifs
    · simp
    · exact inRange_countSums h hs hnow key
  | ban key reason duration =>
    intro t ht
    obtain ⟨d, hd, rfl⟩ := List.mem_map.1 ht
    exact hnow.inRange_add (hact d (Option.mem_toList.1 hd))
  | sweep =>
    intro t ht
    obtain ⟨⟨k, r⟩, hr, rfl⟩ := List.mem_map.1 ht
    exact hnow.inRange_sub (h.seen k r (Store.get?_eq_some_iff.2 hr))
  | _ => nofun

/-- No sum overflows if the times of a run are small and the durations short. -/
theorem staysInRange_of_isNear : ∀ (acts : Actions) {l : Limiter}, l.Dated IsNear → l.settings.IsShort →
    (∀ a ∈ acts, IsNear a.1 ∧ ∀ d ∈ a.2.duration?, IsNear d) → l.StaysInRange acts
  | [], _, _, _, _ => nofun
  | (now, act) :: acts, l, h, hs, ha => by
    rw [List.forall_mem_cons] at ha
    have hrest := staysInRange_of_isNear acts (h.perform ha.1.1 act) ((l.perform_settings now act) ▸ hs) ha.2
    exact List.forall_mem_append.2 ⟨inRange_sums h hs ha.1.1 ha.1.2, hrest⟩

/-! ## A key that keeps asking -/

/-- The same request, again and again, while the clock stands still. -/
def keepAsking (now : Millis) (key : Key) (n : Nat) : Actions := List.replicate n (now, .check key)

section Asking

variable {c : Ceiling}

/-- When the budget is used up, the next request is past the ceiling. -/
theorem Budget.exists_exceeds (hmax : c.IsPassable) : ∀ {n : Nat} {l : Limiter},
    l.settings.ceiling key.dimension = c → l.Budget now key n → l.activeBan? now key = none →
      ∃ k, Turn.Exceeds key ⟨l.run (keepAsking now key k), now, .check key⟩
  | 0, l, hc, hbudget, hfree => by
    obtain ⟨-, -, hallowed, -⟩ := hbudget.nextRecord (hc ▸ hmax)
    exact ⟨0, rfl, hfree, Nat.not_le.1 fun hle => absurd (hallowed.1 hle) (Nat.lt_irrefl 0)⟩
  | n + 1, l, hc, hbudget, hfree => by
    obtain ⟨-, -, hallowed, -⟩ := hbudget.nextRecord (hc ▸ hmax)
    have hc' : (l.check now key).state.settings.ceiling key.dimension = c := by rwa [check_settings]
    obtain ⟨k, hk⟩ := Budget.exists_exceeds hmax hc' (hbudget.check (hc ▸ hmax)).2
      (activeBan?_check hfree (hallowed.2 (Nat.succ_pos n)))
    exact ⟨k + 1, hk⟩

/-- Each request past the ceiling is a violation, until one of them leads to a ban. -/
theorem exists_provoked_of_exceeds (hw : 0 < c.window) : ∀ (n : Nat) {l : Limiter},
    l.settings.ceiling key.dimension = c → Turn.Exceeds key ⟨l, now, .check key⟩ →
      l.settings.banThreshold.toNat ≤ l.violations key + n →
      ∃ k, let l' := l.run (keepAsking now key k)
        l'.activeBan? now key = none ∧ (l'.provoked? now key).isSome = true
  | n, l, hc, h, hn => by
    have hthreshold := l.settings.banThreshold.toNat_lt
    by_cases hp : (l.provoked? now key).isSome = true
    · exact ⟨0, h.2.1, hp⟩
    · have hlow := mt (provoked?_isSome_iff h).2 hp
      unfold countUp maxCount at hlow
      obtain ⟨n, rfl⟩ : ∃ m, n = m + 1 := ⟨n - 1, by omega⟩
      have hnone := Option.not_isSome_iff_eq_none.1 hp
      have hfree : (l.check now key).state.activeBan? now key = none := by
        rw [activeBan?, check_bans_of_not_banned h.2.1, if_pos rfl, hnone]
        rfl
      have hc' : (l.check now key).state.settings.ceiling key.dimension = c := by rwa [check_settings]
      obtain ⟨k, hk⟩ := exists_provoked_of_exceeds hw n hc' ⟨rfl, hfree, nextRecord_exceeds_again (hc ▸ hw) h⟩ (by
        rw [check_settings, (check_of_violation h hnone).2]
        unfold countUp maxCount
        omega)
      exact ⟨k + 1, hk⟩

/-- The first request of a key leaves a budget. -/
theorem budget_first (s : Settings) (now : Millis) (key : Key) (hw : 0 < (s.ceiling key.dimension).window)
    (hm : 1 ≤ (s.ceiling key.dimension).maxRequests.toNat) :
    ((empty s).check now key).state.Budget now key ((s.ceiling key.dimension).maxRequests.toNat - 1) ∧
      ((empty s).check now key).state.activeBan? now key = none := by
  have hfree : (empty s).activeBan? now key = none := rfl
  have hcount : ((empty s).nextRecord now key).count = 1 := rfl
  have hwithin : ((empty s).nextRecord now key).count ≤ (s.ceiling key.dimension).maxRequests.toNat := by
    rw [hcount]
    exact hm
  refine ⟨budget_of_allow hw ?_, activeBan?_check hfree hwithin⟩
  rw [check_result_of_not_banned hfree, count_of_within hwithin]
  rfl

theorem exists_exceeds (s : Settings) (now : Millis) (key : Key) (hw : 0 < (s.ceiling key.dimension).window)
    (hm : 1 ≤ (s.ceiling key.dimension).maxRequests.toNat)
    (hmax : (s.ceiling key.dimension).IsPassable) :
    ∃ k, Turn.Exceeds key ⟨(empty s).run (keepAsking now key k), now, .check key⟩ := by
  obtain ⟨hbudget, hfree⟩ := budget_first s now key hw hm
  obtain ⟨k, hk⟩ := hbudget.exists_exceeds hmax (congrArg (·.ceiling key.dimension) ((empty s).check_settings now key))
    hfree
  exact ⟨k + 1, hk⟩

/-- **A key that keeps asking is banned** at last, if its ceiling can be passed. -/
theorem exists_provoked (s : Settings) (now : Millis) (key : Key) (hw : 0 < (s.ceiling key.dimension).window)
    (hm : 1 ≤ (s.ceiling key.dimension).maxRequests.toNat)
    (hmax : (s.ceiling key.dimension).IsPassable) :
    ∃ k, let l := (empty s).run (keepAsking now key k)
      l.activeBan? now key = none ∧ (l.provoked? now key).isSome = true := by
  obtain ⟨k, hk⟩ := exists_exceeds s now key hw hm hmax
  obtain ⟨k', hk'⟩ := exists_provoked_of_exceeds hw _ (congrArg (·.ceiling key.dimension) (run_settings _ _)) hk
    (Nat.le_add_left _ _)
  rw [← run_append, keepAsking, keepAsking, List.replicate_append_replicate] at hk'
  exact ⟨k + k', hk'⟩

end Asking

end Limiter

end SiteEdit.Limit
