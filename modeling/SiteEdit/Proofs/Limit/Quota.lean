import SiteEdit.Proofs.Limit.Effects
import Mathlib.Data.List.Pairwise
import Mathlib.Tactic.Linarith
/-!
# How many requests are allowed

A request that is counted belongs to a window.  The windows of a key do not overlap, and of the requests of one window
no more are allowed than the ceiling says; a record that was dropped had been idle for so long that its window was over.
A stretch of time as long as a window meets two windows at most.
-/
namespace SiteEdit.Limit

/-- A request that was counted: the start of its window, its time, and whether it was allowed. -/
structure Counted where
  start : Millis
  time : Millis
  allowed : Bool
  deriving DecidableEq, Repr

/-! ## Steps of a record -/

/-- What an action does to the record of a key, and which request it counts. -/
inductive Moves (c : Ceiling) (now : Millis) : Option Record → Option Record → Option Counted → Prop where
  | stay (r? : Option Record) : Moves c now r? r? none
  | drop (r? : Option Record) (h : ∀ r ∈ r?, c.window ≤ now - r.lastSeen) : Moves c now r? none none
  | go (r : Record) (v : Nat) (h : now - r.windowStart < c.window) :
    Moves c now (some r)
      (some { count := countUp r.count, windowStart := r.windowStart, violations := v, lastSeen := now })
      (some { start := r.windowStart, time := now, allowed := decide (countUp r.count ≤ c.maxRequests.toNat) })
  | start (r? : Option Record) (v : Nat) (h : ∀ r ∈ r?, c.window ≤ now - r.windowStart) :
    Moves c now r? (some { count := 1, windowStart := now, violations := v, lastSeen := now })
      (some { start := now, time := now, allowed := decide (1 ≤ c.maxRequests.toNat) })

/-- A record of requests that are no later than a time. -/
def Seen (r? : Option Record) (t : Millis) : Prop :=
  ∀ r ∈ r?, r.windowStart ≤ r.lastSeen ∧ r.lastSeen ≤ t ∧ 1 ≤ r.count

/-- The window that started at `p` is the one of the record, or it was over before that one started. -/
def Follows (window p : Millis) (r? : Option Record) (t : Millis) : Prop :=
  match r? with
  | none => p + window ≤ t
  | some r => p = r.windowStart ∨ p + window ≤ r.windowStart

/-- How many more requests are allowed in the window that started at `p`. -/
def left (most : Nat) (p : Millis) : Option Record → Nat
  | none => 0
  | some r => if r.windowStart = p then most - r.count else 0

variable {c : Ceiling} {t now p : Millis} {r? r?' : Option Record} {q : Option Counted}

/-- When a new window starts, the earlier ones are over. -/
theorem Follows.ended {window : Millis} (hp : Follows window p r? t) (hs : Seen r? t) (ht : t ≤ now)
    (h : ∀ r ∈ r?, window ≤ now - r.windowStart) : p + window ≤ now := by
  cases r? with
  | none => exact Int.le_trans hp ht
  | some r =>
    have hstart := h r rfl
    obtain ⟨h1, h2, -⟩ := hs r rfl
    rcases hp with rfl | hp
    · linarith
    · linarith

namespace Moves

theorem seen (h : Moves c now r? r?' q) (hs : Seen r? t) (ht : t ≤ now) : Seen r?' now := by
  cases h with
  | stay =>
    intro r hr
    obtain ⟨h1, h2, h3⟩ := hs r hr
    exact ⟨h1, Int.le_trans h2 ht, h3⟩
  | drop _ h => exact fun r hr => nomatch hr
  | go r v h =>
    intro r' hr'
    obtain rfl := Option.some.inj hr'
    obtain ⟨h1, h2, h3⟩ := hs r rfl
    refine ⟨Int.le_trans h1 (Int.le_trans h2 ht), Int.le_refl now, ?_⟩
    show 1 ≤ countUp r.count
    unfold countUp maxCount
    omega
  | start _ v h =>
    intro r' hr'
    obtain rfl := Option.some.inj hr'
    exact ⟨Int.le_refl now, Int.le_refl now, Nat.le_refl 1⟩

theorem within (h : Moves c now r? r?' q) (hs : Seen r? t) (ht : t ≤ now) (hw : 0 < c.window) :
    ∀ x ∈ q, x.start ≤ x.time ∧ x.time < x.start + c.window := by
  intro x hx
  cases h with
  | stay => cases hx
  | drop _ h => cases hx
  | go r v h =>
    obtain rfl := Option.some.inj hx
    obtain ⟨h1, h2, -⟩ := hs r rfl
    exact ⟨Int.le_trans h1 (Int.le_trans h2 ht), by linarith⟩
  | start _ v h =>
    obtain rfl := Option.some.inj hx
    exact ⟨Int.le_refl now, by linarith⟩

/-- A window that is over stays so, and a request that is counted belongs to a window that it has not met. -/
theorem follows (h : Moves c now r? r?' q) (hs : Seen r? t) (ht : t ≤ now) (hp : Follows c.window p r? t) :
    Follows c.window p r?' now ∧ ∀ x ∈ q, p = x.start ∨ p + c.window ≤ x.start := by
  cases h with
  | stay =>
    refine ⟨?_, fun x hx => nomatch hx⟩
    cases r? with
    | none => exact Int.le_trans hp ht
    | some r => exact hp
  | drop _ h =>
    refine ⟨?_, fun x hx => nomatch hx⟩
    cases r? with
    | none => exact Int.le_trans hp ht
    | some r =>
      have hidle := h r rfl
      obtain ⟨h1, h2, -⟩ := hs r rfl
      show p + c.window ≤ now
      rcases hp with rfl | hp
      · linarith
      · linarith
  | go r v h =>
    refine ⟨hp, fun x hx => ?_⟩
    obtain rfl := Option.some.inj hx
    exact hp
  | start _ v h =>
    have hn := hp.ended hs ht h
    refine ⟨.inr hn, fun x hx => ?_⟩
    obtain rfl := Option.some.inj hx
    exact .inr hn

theorem follows_start (h : Moves c now r? r?' q) : ∀ x ∈ q, Follows c.window x.start r?' now := by
  intro x hx
  cases h with
  | stay => cases hx
  | drop _ h => cases hx
  | go r v h =>
    obtain rfl := Option.some.inj hx
    exact .inl rfl
  | start _ v h =>
    obtain rfl := Option.some.inj hx
    exact .inl rfl

/-- A request that is allowed in a window leaves one less for it. -/
theorem left_le (h : Moves c now r? r?' q) (hs : Seen r? t) (ht : t ≤ now) (hw : 0 < c.window)
    (hm : c.maxRequests.toNat < maxCount) (hp : Follows c.window p r? t) :
    q.toList.countP (fun x => x.start = p ∧ x.allowed) + left c.maxRequests.toNat p r?'
      ≤ left c.maxRequests.toNat p r? := by
  cases h with
  | stay => simp
  | drop _ h => simp [left]
  | go r v h =>
    by_cases hr : r.windowStart = p
    · by_cases hc : countUp r.count ≤ c.maxRequests.toNat
      · simp [left, hr, hc]
        unfold countUp at *
        omega
      · simp [left, hr, hc]
        unfold countUp at *
        omega
    · simp [left, hr]
  | start _ v h =>
    have hn : now ≠ p := by
      have := hp.ended hs ht h
      rintro rfl
      linarith
    simp [left, hn]

/-- A request that is counted leaves less than the ceiling for its window, if it is allowed. -/
theorem left_le_most (h : Moves c now r? r?' q) : ∀ x ∈ q,
    [x].countP (fun x => x.allowed) + left c.maxRequests.toNat x.start r?' ≤ c.maxRequests.toNat := by
  intro x hx
  cases h with
  | stay => cases hx
  | drop _ h => cases hx
  | go r v h =>
    obtain rfl := Option.some.inj hx
    by_cases hc : countUp r.count ≤ c.maxRequests.toNat
    · simp [left, hc]
      unfold countUp maxCount at *
      omega
    · simp [left, hc]
  | start _ v h =>
    obtain rfl := Option.some.inj hx
    by_cases hc : 1 ≤ c.maxRequests.toNat
    · simp [left, hc]
    · simp [left, hc]

end Moves

/-! ## Requests of a run -/

namespace Limiter

/-- The request of a key that an action counts. -/
def counted? (l : Limiter) (now : Millis) (key : Key) (act : Action) : Option Counted :=
  if act = .check key ∧ l.activeBan? now key = none then
    some
      { start := (l.nextRecord now key).windowStart
        time := now
        allowed := (l.check now key).result.isAllowed }
  else none

/-- The requests of a key that are counted. -/
def counted (l : Limiter) (key : Key) : Actions → List Counted
  | [] => []
  | (now, act) :: acts => (l.counted? now key act).toList ++ (l.perform now act).state.counted key acts

theorem moves (l : Limiter) (now : Millis) (key : Key) {act : Action} (hr : act ≠ .reset key) :
    Moves (l.settings.ceiling key.dimension) now (l.record? key) ((l.perform now act).state.record? key)
      (l.counted? now key act) := by
  by_cases h : act = .check key ∧ l.activeBan? now key = none
  · obtain ⟨ha, v, hs⟩ := check_of_not_banned h.2
    have hrec : (l.perform now act).state.record? key = some { l.nextRecord now key with violations := v } := by
      rw [h.1]
      exact (hs key.text).trans (if_pos rfl)
    unfold counted?
    rw [if_pos h, hrec, ha]
    unfold nextRecord
    cases hp : l.record? key with
    | none => exact .start none v fun r hr => nomatch hr
    | some r =>
      unfold Record.next Record.hit
      dsimp only
      split
      · rename_i hw
        exact .go r v hw
      · rename_i hw
        refine .start (some r) v fun r' hr' => ?_
        obtain rfl := Option.some.inj hr'
        exact Int.not_lt.1 hw
  · unfold counted?
    rw [if_neg h]
    rcases record?_of_not_counts h with hs | ⟨hn, hx⟩
    · rw [hs]
      exact .stay _
    · rw [hn]
      exact .drop _ (hx.resolve_left hr).2

/-- The limiter before actions that are no earlier than `t` and do not reset the key. -/
structure Ready (l : Limiter) (key : Key) (c : Ceiling) (t : Millis) (acts : Actions) : Prop where
  ceiling : l.settings.ceiling key.dimension = c
  seen : Seen (l.record? key) t
  ordered : acts.Ordered
  later : ∀ a ∈ acts, t ≤ a.1
  kept : ∀ a ∈ acts, a.2 ≠ .reset key

variable {l : Limiter} {c : Ceiling} {t p now : Millis} {key : Key} {act : Action} {acts : Actions}

namespace Ready

theorem moves (h : l.Ready key c t ((now, act) :: acts)) :
    Moves c now (l.record? key) ((l.perform now act).state.record? key) (l.counted? now key act) :=
  h.ceiling ▸ l.moves now key (h.kept _ List.mem_cons_self)

theorem le (h : l.Ready key c t ((now, act) :: acts)) : t ≤ now := h.later _ List.mem_cons_self

theorem perform (h : l.Ready key c t ((now, act) :: acts)) : (l.perform now act).state.Ready key c now acts where
  ceiling := by rw [perform_settings, h.ceiling]
  seen := h.moves.seen h.seen h.le
  ordered := (List.pairwise_cons.1 h.ordered).2
  later := (List.pairwise_cons.1 h.ordered).1
  kept a ha := h.kept a (List.mem_cons_of_mem _ ha)

theorem within (hw : 0 < c.window) : ∀ (acts : Actions) {l : Limiter} {t : Millis}, l.Ready key c t acts →
    ∀ x ∈ l.counted key acts, x.start ≤ x.time ∧ x.time < x.start + c.window
  | [], _, _, _, _, hx => nomatch hx
  | (now, act) :: acts, l, t, h, x, hx => by
    rcases List.mem_append.1 hx with hx | hx
    · exact h.moves.within h.seen h.le hw x (Option.mem_toList.1 hx)
    · exact within hw acts h.perform x hx

theorem follows : ∀ (acts : Actions) {l : Limiter} {t : Millis}, l.Ready key c t acts →
    Follows c.window p (l.record? key) t → ∀ x ∈ l.counted key acts, p = x.start ∨ p + c.window ≤ x.start
  | [], _, _, _, _, _, hx => nomatch hx
  | (now, act) :: acts, l, t, h, hp, x, hx => by
    obtain ⟨hn, hq⟩ := h.moves.follows h.seen h.le hp
    rcases List.mem_append.1 hx with hx | hx
    · exact hq x (Option.mem_toList.1 hx)
    · exact follows acts h.perform hn x hx

/-- The windows of two requests are the same or do not overlap. -/
theorem pairwise : ∀ (acts : Actions) {l : Limiter} {t : Millis}, l.Ready key c t acts →
    (l.counted key acts).Pairwise fun x y => x.start = y.start ∨ x.start + c.window ≤ y.start
  | [], _, _, _ => List.Pairwise.nil
  | (now, act) :: acts, l, t, h => by
    refine List.pairwise_append.2 ⟨?_, pairwise acts h.perform, fun x hx y hy => ?_⟩
    · cases l.counted? now key act with
      | none => exact List.Pairwise.nil
      | some x => exact List.pairwise_singleton _ x
    · exact follows acts h.perform (h.moves.follows_start x (Option.mem_toList.1 hx)) y hy

theorem countP_le_left (hw : 0 < c.window) (hm : c.maxRequests.toNat < maxCount) :
    ∀ (acts : Actions) {l : Limiter} {t : Millis}, l.Ready key c t acts → Follows c.window p (l.record? key) t →
      (l.counted key acts).countP (fun x => x.start = p ∧ x.allowed) ≤ left c.maxRequests.toNat p (l.record? key)
  | [], _, _, _, _ => Nat.zero_le _
  | (now, act) :: acts, l, t, h, hp => by
    have ih := countP_le_left hw hm acts h.perform (h.moves.follows h.seen h.le hp).1
    have hs := h.moves.left_le h.seen h.le hw hm hp
    unfold counted
    rw [List.countP_append]
    omega

/-- Of the requests of one window no more are allowed than the ceiling says. -/
theorem countP_le (hw : 0 < c.window) (hm : c.maxRequests.toNat < maxCount) :
    ∀ (acts : Actions) {l : Limiter} {t : Millis}, l.Ready key c t acts →
      (l.counted key acts).countP (fun x => x.start = p ∧ x.allowed) ≤ c.maxRequests.toNat
  | [], _, _, _ => Nat.zero_le _
  | (now, act) :: acts, l, t, h => by
    have ih := countP_le hw hm acts h.perform
    unfold counted
    rw [List.countP_append]
    cases hq : l.counted? now key act with
    | none => exact (Nat.zero_add _).trans_le ih
    | some x =>
      have hx : x ∈ l.counted? now key act := hq
      by_cases hp : x.start = p
      · have hl := h.moves.left_le_most x hx
        have hr := countP_le_left hw hm acts h.perform (h.moves.follows_start x hx)
        simp only [hp, Option.toList_some, List.countP_singleton] at hl hr ⊢
        simp only [true_and, decide_eq_true_eq] at hl hr ⊢
        omega
      · simpa [List.countP_cons, hp] using ih

end Ready

/-! ## Allowed requests -/

/-- Whether an action is a request of a key that is allowed. -/
def allows (l : Limiter) (now : Millis) (key : Key) (act : Action) : Bool :=
  act == .check key && (l.check now key).result.isAllowed

/-- The times at which requests of a key are allowed. -/
def allowedAt (l : Limiter) (key : Key) : Actions → List Millis
  | [] => []
  | (now, act) :: acts =>
    let rest := (l.perform now act).state.allowedAt key acts
    if l.allows now key act then now :: rest else rest

/-- Whether a request of a key would start a window: it would be counted, and the window before it is over. -/
def StartsWindow (l : Limiter) (now : Millis) (key : Key) : Prop :=
  l.activeBan? now key = none ∧
    ∀ r ∈ l.record? key, (l.settings.ceiling key.dimension).window ≤ now - r.windowStart

theorem ready_empty (s : Settings) (key : Key) {acts : Actions} (ho : acts.Ordered)
    (hr : ∀ a ∈ acts, a.2 ≠ .reset key) :
    ∃ t, (empty s).Ready key (s.ceiling key.dimension) t acts := by
  cases acts with
  | nil => exact ⟨0, rfl, fun _ h => (nomatch h), ho, fun _ h => (nomatch h), hr⟩
  | cons a acts =>
    refine ⟨a.1, rfl, fun _ h => (nomatch h), ho, fun b hb => ?_, hr⟩
    rcases List.mem_cons.1 hb with rfl | hb
    · exact Int.le_refl _
    · exact (List.pairwise_cons.1 ho).1 b hb

/-- A request is allowed only if it is counted. -/
theorem allows_eq (l : Limiter) (now : Millis) (key : Key) (act : Action) :
    l.allows now key act = (l.counted? now key act).any Counted.allowed := by
  unfold allows counted?
  by_cases ha : act = .check key
  · cases hb : l.activeBan? now key with
    | none => simp [ha]
    | some ban => simp [ha, check_of_banned hb, refuseBanned, Decision.isAllowed]
  · simp [ha]

theorem allowedAt_eq (key : Key) : ∀ (acts : Actions) (l : Limiter),
    l.allowedAt key acts = ((l.counted key acts).filter Counted.allowed).map Counted.time
  | [], _ => rfl
  | (now, act) :: acts, l => by
    have ih := allowedAt_eq key acts (l.perform now act).state
    unfold allowedAt counted
    rw [allows_eq, ih, List.filter_append, List.map_append]
    unfold counted?
    by_cases h : act = .check key ∧ l.activeBan? now key = none
    · rw [if_pos h]
      cases (l.check now key).result.isAllowed with
      | true => simp
      | false => simp
    · rw [if_neg h]
      rfl

theorem counted_append (key : Key) (post : Actions) : ∀ (pre : Actions) (l : Limiter),
    l.counted key (pre ++ post) = l.counted key pre ++ (l.run pre).counted key post
  | [], _ => rfl
  | (now, act) :: pre, l => by
    have ih := counted_append key post pre (l.perform now act).state
    show (l.counted? now key act).toList ++ (l.perform now act).state.counted key (pre ++ post) = _
    rw [ih, ← List.append_assoc]
    rfl

theorem counted?_of_startsWindow (h : l.StartsWindow now key) :
    ∃ x ∈ l.counted? now key (.check key), x.start = now := by
  unfold counted?
  rw [if_pos ⟨rfl, h.1⟩]
  refine ⟨_, rfl, ?_⟩
  show (l.nextRecord now key).windowStart = now
  unfold nextRecord Record.next
  cases hr : l.record? key with
  | none => rfl
  | some r =>
    unfold Record.hit
    dsimp only
    rw [if_neg (Int.not_lt.2 (h.2 r hr))]

/-- How many requests are allowed in a stretch of time, by what is counted. -/
theorem countP_allowedAt (l : Limiter) (key : Key) (acts : Actions) (a b : Millis) :
    (l.allowedAt key acts).countP (fun t => a ≤ t ∧ t < b)
      = (l.counted key acts).countP (fun x => (a ≤ x.time ∧ x.time < b) ∧ x.allowed) := by
  rw [allowedAt_eq, List.countP_map, List.countP_filter]
  congr 1
  funext x
  simp

/-! ## Bounds -/

namespace Ready

theorem apart (h : l.Ready key c t acts) : ∀ x ∈ l.counted key acts, ∀ y ∈ l.counted key acts,
    x.start = y.start ∨ x.start + c.window ≤ y.start ∨ y.start + c.window ≤ x.start := by
  intro x hx y hy
  have hp := pairwise acts h
  refine List.Pairwise.forall_of_forall_of_flip (l := l.counted key acts)
    (R := fun x y => x.start = y.start ∨ x.start + c.window ≤ y.start ∨ y.start + c.window ≤ x.start)
    (fun x _ => .inl rfl) (hp.imp fun h => h.imp_right .inl) (hp.imp fun h => ?_) hx hy
  rcases h with h | h
  · exact .inl h.symm
  · exact .inr (.inr h)

/-- Of requests that all belong to one window no more are allowed than the ceiling says. -/
theorem countP_one_window (h : l.Ready key c t acts) (hw : 0 < c.window) (hm : c.maxRequests.toNat < maxCount)
    (P : Counted → Prop) [DecidablePred P]
    (hP : ∀ x ∈ l.counted key acts, ∀ y ∈ l.counted key acts, P x → P y → x.start = y.start) :
    (l.counted key acts).countP (fun x => P x ∧ x.allowed) ≤ c.maxRequests.toNat := by
  by_cases hx : ∃ x ∈ l.counted key acts, P x
  · obtain ⟨x, hx, hpx⟩ := hx
    refine Nat.le_trans (List.countP_mono_left fun y hy hpy => ?_) (countP_le (p := x.start) hw hm acts h)
    simp only [decide_eq_true_eq] at hpy ⊢
    exact ⟨hP y hy x hx hpy.1 hpx, hpy.2⟩
  · rw [List.countP_eq_zero.2]
    · exact Nat.zero_le _
    · intro y hy hpy
      simp only [decide_eq_true_eq] at hpy
      exact hx ⟨y, hy, hpy.1⟩

/-- From the start of a window until its end. -/
theorem allowed_in_window (h : l.Ready key c t acts) (hw : 0 < c.window) (hm : c.maxRequests.toNat < maxCount)
    {w : Counted} (hmem : w ∈ l.counted key acts) :
    (l.allowedAt key acts).countP (fun t => w.start ≤ t ∧ t < w.start + c.window) ≤ c.maxRequests.toNat := by
  have hin := within hw acts h
  -- a request at such a time belongs to the window that was started
  have hsame : ∀ x ∈ l.counted key acts, w.start ≤ x.time ∧ x.time < w.start + c.window → x.start = w.start := by
    rintro x hx ⟨h1, h2⟩
    obtain ⟨h3, h4⟩ := hin x hx
    rcases h.apart x hx w hmem with h5 | h5 | h5
    · exact h5
    · linarith
    · linarith
  rw [countP_allowedAt]
  exact h.countP_one_window hw hm (fun x => w.start ≤ x.time ∧ x.time < w.start + c.window)
    fun x hx y hy hpx hpy => (hsame x hx hpx).trans (hsame y hy hpy).symm

/-- In a stretch of time as long as a window.  The windows of its requests start before it, or in it. -/
theorem allowed_in_stretch (h : l.Ready key c t acts) (hw : 0 < c.window) (hm : c.maxRequests.toNat < maxCount)
    (a : Millis) :
    (l.allowedAt key acts).countP (fun t => a ≤ t ∧ t < a + c.window) ≤ 2 * c.maxRequests.toNat := by
  have hin := within hw acts h
  have hbefore := h.countP_one_window hw hm (fun x => (a ≤ x.time ∧ x.time < a + c.window) ∧ x.start ≤ a) (by
    rintro x hx y hy ⟨⟨h1, -⟩, h2⟩ ⟨⟨h3, -⟩, h4⟩
    have h5 := (hin x hx).2
    have h6 := (hin y hy).2
    rcases h.apart x hx y hy with h7 | h7 | h7
    · exact h7
    · linarith
    · linarith)
  have hinside := h.countP_one_window hw hm (fun x => (a ≤ x.time ∧ x.time < a + c.window) ∧ ¬ x.start ≤ a) (by
    rintro x hx y hy ⟨⟨-, h1⟩, h2⟩ ⟨⟨-, h3⟩, h4⟩
    have h5 := (hin x hx).1
    have h6 := (hin y hy).1
    rcases h.apart x hx y hy with h7 | h7 | h7
    · exact h7
    · linarith
    · linarith)
  rw [countP_allowedAt, List.countP_eq_length_filter,
    List.length_eq_countP_add_countP fun x : Counted => decide (x.start ≤ a), List.countP_filter, List.countP_filter,
    Nat.two_mul]
  refine Nat.add_le_add (Nat.le_trans ?_ hbefore) (Nat.le_trans ?_ hinside)
  · refine List.countP_mono_left fun x _ hx => ?_
    simpa [and_comm, and_left_comm, and_assoc] using hx
  · refine List.countP_mono_left fun x _ hx => ?_
    simpa [and_comm, and_left_comm, and_assoc] using hx

end Ready

/-- **No more requests are allowed than the ceiling says.**  In an ordered run that does not reset a key, whatever bans,
other keys and sweeps there are: from the start of a window until its end at most as many requests of the key are
allowed as the ceiling has, and in any stretch of time as long as a window at most twice as many. -/
theorem allowed_le (s : Settings) (key : Key) (acts : Actions)
    (hm : (s.ceiling key.dimension).maxRequests.toNat < maxCount) (ho : acts.Ordered)
    (hr : ∀ a ∈ acts, a.2 ≠ .reset key) :
    let times := (empty s).allowedAt key acts
    let c := s.ceiling key.dimension
    (∀ pre post W, acts = pre ++ (W, .check key) :: post → ((empty s).run pre).StartsWindow W key →
      times.countP (fun t => W ≤ t ∧ t < W + c.window) ≤ c.maxRequests.toNat) ∧
      ∀ a, times.countP (fun t => a ≤ t ∧ t < a + c.window) ≤ 2 * c.maxRequests.toNat := by
  intro times c
  obtain ⟨t, h⟩ := ready_empty s key ho hr
  by_cases hw : 0 < c.window
  · refine ⟨fun pre post W hacts hstart => ?_, fun a => h.allowed_in_stretch hw hm a⟩
    obtain ⟨w, hw', rfl⟩ := counted?_of_startsWindow hstart
    refine h.allowed_in_window hw hm ?_
    rw [hacts, counted_append]
    exact List.mem_append_right _ (List.mem_append_left _ (Option.mem_toList.2 hw'))
  · have hnone : ∀ a, times.countP (fun t => a ≤ t ∧ t < a + c.window) = 0 := by
      intro a
      rw [List.countP_eq_zero]
      intro t _ ht
      simp only [decide_eq_true_eq] at ht
      obtain ⟨h1, h2⟩ := ht
      linarith
    refine ⟨fun _ _ W _ _ => ?_, fun a => ?_⟩
    · rw [hnone W]
      exact Nat.zero_le _
    · rw [hnone a]
      exact Nat.zero_le _

/-- Requests around the end of a window, with a sweep between them and another key. -/
def busyRun : Actions :=
  [(0, .check (.ip "192.0.2.1")), (998, .check (.session "192.0.2.1")), (999, .check (.ip "192.0.2.1")), (999, .sweep),
    (999, .check (.ip "192.0.2.1")), (1000, .check (.ip "192.0.2.1")), (1001, .check (.ip "192.0.2.1")),
    (1001, .ban (.ip "192.0.2.1") "abuse" (some 10)), (1002, .check (.ip "192.0.2.1")), (5000, .sweep),
    (5000, .check (.ip "192.0.2.1"))]

theorem allowed_le_busy :
    let s : Settings := { idleRecordTtlSecs := 0, ip := { maxRequests := 2, windowSecs := 1 } }
    let times := (empty s).allowedAt (.ip "192.0.2.1") busyRun
    (s.ceiling .ip).maxRequests.toNat < maxCount ∧ busyRun.Ordered ∧
      (∀ a ∈ busyRun, a.2 ≠ .reset (.ip "192.0.2.1")) ∧ times = [0, 999, 1000, 1001, 5000] ∧
      times.countP (fun t => 0 ≤ t ∧ t < 0 + (s.ceiling .ip).window) ≤ 2 ∧
      times.countP (fun t => 999 ≤ t ∧ t < 999 + (s.ceiling .ip).window) ≤ 2 * 2 := by
  intro s times
  have hm : (s.ceiling .ip).maxRequests.toNat < maxCount := by decide
  have ho : busyRun.Ordered := by decide
  have hr : ∀ a ∈ busyRun, a.2 ≠ .reset (.ip "192.0.2.1") := by decide
  have h := allowed_le s (.ip "192.0.2.1") busyRun hm ho hr
  exact ⟨hm, ho, hr, by decide +kernel, h.1 [] _ 0 rfl ⟨rfl, fun _ h => nomatch h⟩, h.2 999⟩

end Limiter

end SiteEdit.Limit
