import SiteEdit.Proofs.Limit.Effects
import Mathlib.Data.List.Nodup
/-!
# Bans hold until they end

The ban that stands for a key is the one that was placed last, by an operator or for violations, and not lifted since
(`standing`).  Ended bans are dropped late, by the next request or a sweep, and a new ban takes the place of an old one;
none of that shows: what the limiter knows of a key at a time is the standing ban, if it has not ended by then
(`Shows.run`).
-/
namespace SiteEdit.Limit

namespace Ban

variable {b : Ban} {now t : Millis}

theorem isActive_iff : b.isActive now = true ↔ ∀ e ∈ b.expiresAt, now < e := by
  unfold isActive
  cases b.expiresAt <;> simp

theorem isActive_eq_false_iff : b.isActive now = false ↔ ∃ e ∈ b.expiresAt, e ≤ now := by
  rw [← Bool.not_eq_true, isActive_iff]
  simp

/-- A ban that has ended stays so. -/
theorem isActive_of_le (h : t ≤ now) (hb : b.isActive now = true) : b.isActive t = true :=
  isActive_iff.2 fun e he => Int.lt_of_le_of_lt h (isActive_iff.1 hb e he)

end Ban

namespace Limiter

variable {l : Limiter} {now t : Millis} {key : Key} {act : Action} {b : Ban} {ban? : Option Ban}

/-! ## What the actions do to the bans -/

/-- The ban that the next request of a key brings on it, if it is counted and past the ceiling too often. -/
def provoked? (l : Limiter) (now : Millis) (key : Key) : Option Ban :=
  let violations := (l.nextRecord now key).violate.violations
  if (l.settings.ceiling key.dimension).maxRequests.toNat < (l.nextRecord now key).count ∧
      l.settings.banThreshold.toNat ≤ violations then
    some
      { reason := toString violations ++ " rate-limit violations"
        bannedAt := now
        expiresAt := some (now + l.settings.banDuration)
        source := .automatic }
  else none

theorem past_of_provoked (h : l.provoked? now key = some b) :
    (l.settings.ceiling key.dimension).maxRequests.toNat < (l.nextRecord now key).count := by
  unfold provoked? at h
  dsimp only at h
  split_ifs at h with hp
  exact hp.1

/-- The answer to a request that a ban refuses. -/
def bannedDecision (key : Key) (ban : Ban) : Decision :=
  .deny { key := key.text, kind := .banned ban.expiresAt, reason := ban.message }

theorem count_of_provoked (h : l.provoked? now key = some b) :
    (l.count now key).result = bannedDecision key b ∧
      (l.count now key).state.bans = l.bans.insert key.text b := by
  unfold provoked? at h
  dsimp only at h
  split at h
  · rename_i hp
    obtain rfl := Option.some.inj h
    rw [count_of_exceeded hp.1]
    dsimp only
    rw [if_pos hp.2]
    exact ⟨rfl, rfl⟩
  · cases h

theorem count_of_not_provoked (h : l.provoked? now key = none) : (l.count now key).state.bans = l.bans := by
  unfold provoked? at h
  dsimp only at h
  split at h
  · cases h
  · rename_i hp
    by_cases hc : (l.settings.ceiling key.dimension).maxRequests.toNat < (l.nextRecord now key).count
    · rw [count_of_exceeded hc]
      dsimp only
      rw [if_neg fun hv => hp ⟨hc, hv⟩]
      rfl
    · rw [count_of_within (Nat.not_lt.1 hc)]

/-- The decision on a request that is counted does not depend on the bans. -/
theorem count_with_bans (l : Limiter) (now : Millis) (key : Key) (bans : Store Ban) :
    (({ l with bans := bans } : Limiter).count now key).result = (l.count now key).result := by
  unfold count
  dsimp only
  split
  · rfl
  · split <;> rfl

theorem dropEnded_state (l : Limiter) (key : Key) :
    (l.dropEnded key).state = { l with bans := l.bans.erase key.text } := by
  unfold dropEnded
  split
  · rename_i h
    rw [Store.erase_of_get?_eq_none h]
  · rfl

/-- The decision on a request of a key that is not banned is the one of counting it. -/
theorem check_result_of_not_banned (h : l.activeBan? now key = none) :
    (l.check now key).result = (l.count now key).result := by
  unfold check
  rw [h]
  show ((l.dropEnded key).state.count now key).result = _
  rw [dropEnded_state, count_with_bans]

/-- The bans after a request of a key that is not banned. -/
theorem check_bans_of_not_banned (h : l.activeBan? now key = none) (k : String) :
    (l.check now key).state.bans.get? k = if k = key.text then l.provoked? now key else l.bans.get? k := by
  have hdropped : (l.dropEnded key).state.provoked? now key = l.provoked? now key := by rw [dropEnded_state]; rfl
  unfold check
  rw [h]
  show ((l.dropEnded key).state.count now key).state.bans.get? k = _
  cases hp : l.provoked? now key with
  | some ban =>
    rw [(count_of_provoked (hdropped.trans hp)).2, Store.get?_insert, dropEnded_state, Store.get?_erase]
    split <;> rfl
  | none => rw [count_of_not_provoked (hdropped.trans hp), dropEnded_state, Store.get?_erase]

theorem unban_state (l : Limiter) (key : Key) : (l.unban key).state = { l with bans := l.bans.erase key.text } := by
  unfold unban
  split
  · rename_i h
    rw [Store.erase_of_get?_eq_none h]
  · rfl

/-- An action that is about another key, or only looks, leaves the ban and the record of a key as they are. -/
theorem perform_frame (hk : act.key? ≠ some key) (hs : act ≠ .sweep) :
    (l.perform now act).state.bans.get? key.text = l.bans.get? key.text ∧
      (l.perform now act).state.record? key = l.record? key := by
  have htext : ∀ {k : Key}, some k ≠ some key → key.text ≠ k.text := fun hne h => hne (congrArg some (Key.text_inj.1 h).symm)
  cases act with
  | check k =>
    show (l.check now k).state.bans.get? key.text = _ ∧ (l.check now k).state.records.get? key.text = _
    cases hb : l.activeBan? now k with
    | some b =>
      rw [check_of_banned hb]
      exact ⟨rfl, rfl⟩
    | none =>
      obtain ⟨-, v, hr⟩ := check_of_not_banned hb
      rw [check_bans_of_not_banned hb, hr, if_neg (htext hk), if_neg (htext hk)]
      exact ⟨rfl, rfl⟩
  | ban k reason duration => exact ⟨(Store.get?_insert _ _ _ _).trans (if_neg (htext hk)), rfl⟩
  | unban k =>
    show (l.unban k).state.bans.get? key.text = _ ∧ (l.unban k).state.records.get? key.text = _
    rw [unban_state]
    exact ⟨(Store.get?_erase _ _ _).trans (if_neg (htext hk)), rfl⟩
  | reset k => exact ⟨rfl, (Store.get?_erase _ _ _).trans (if_neg (htext hk))⟩
  | sweep => exact absurd rfl hs
  | ban? k => exact ⟨rfl, rfl⟩
  | bans => exact ⟨rfl, rfl⟩
  | record k => exact ⟨rfl, rfl⟩
  | stats => exact ⟨rfl, rfl⟩

/-! ## The ban that stands -/

/-- The ban that an action places on a key. -/
def placed? (l : Limiter) (now : Millis) (key : Key) : Action → Option Ban
  | .check k => if k = key ∧ l.activeBan? now key = none then l.provoked? now key else none
  | .ban k reason duration => if k = key then some (l.ban now key reason duration).result else none
  | _ => none

/-- The ban that stands for a key after an action, if `before` stood before it. -/
def stands (l : Limiter) (now : Millis) (key : Key) (act : Action) (before : Option Ban) : Option Ban :=
  (l.placed? now key act).or (if act = .unban key then none else before)

theorem stands_of_ne (hk : act.key? ≠ some key) (before : Option Ban) : l.stands now key act before = before := by
  unfold stands
  have hun : act ≠ .unban key := fun h => hk (congrArg Action.key? h)
  have hplaced : l.placed? now key act = none := by
    cases act with
    | check k => exact if_neg fun h => hk (congrArg some h.1)
    | ban k reason duration => exact if_neg fun h => hk (congrArg some h)
    | _ => rfl
  rw [hplaced, if_neg hun]
  rfl

/-- **The ban that stands for a key**: the last that was placed on it and not lifted since. -/
def standing (l : Limiter) (key : Key) (before : Option Ban) : Actions → Option Ban
  | [] => before
  | (now, act) :: acts => (l.perform now act).state.standing key (l.stands now key act before) acts

/-- From a time on a ban is all that the limiter knows of the bans of a key. -/
def Shows (l : Limiter) (key : Key) (ban? : Option Ban) (t : Millis) : Prop :=
  ∀ now, t ≤ now → l.activeBan? now key = ban?.filter fun ban => ban.isActive now

theorem activeBan?_congr {l' : Limiter} (h : l'.bans.get? key.text = l.bans.get? key.text) (now : Millis) :
    l'.activeBan? now key = l.activeBan? now key := by
  unfold activeBan?
  rw [h]

namespace Shows

theorem mono (h : l.Shows key ban? t) (ht : t ≤ now) : l.Shows key ban? now := fun _ hn => h _ (Int.le_trans ht hn)

/-- A limiter that has the same ban of a key shows the same. -/
theorem congr {l' : Limiter} (h : l.Shows key ban? t) (ht : t ≤ now) (hl : l'.bans.get? key.text = l.bans.get? key.text) :
    l'.Shows key ban? now := fun _ hn => (activeBan?_congr hl _).trans (h.mono ht _ hn)

theorem of_get? (h : l.bans.get? key.text = ban?) (t : Millis) : l.Shows key ban? t := fun now _ => by
  unfold activeBan?
  rw [h]

/-- A ban that has ended counts as none. -/
theorem none_of_ended (h : l.Shows key ban? t) (hn : l.activeBan? t key = none) {l' : Limiter}
    (hl : l'.bans.get? key.text = none) : l'.Shows key ban? t := by
  intro now ht
  have hended : ban?.filter (fun ban => ban.isActive t) = none := (h t (Int.le_refl t)).symm.trans hn
  unfold activeBan?
  rw [hl, Option.filter_none, eq_comm, Option.filter_eq_none_iff]
  rw [Option.filter_eq_none_iff] at hended
  exact fun ban hb ha => hended ban hb (Ban.isActive_of_le ht ha)

theorem check (h : l.Shows key ban? t) (ht : t ≤ now) :
    (l.check now key).state.Shows key (l.stands now key (.check key) ban?) now := by
  have hstands : l.stands now key (.check key) ban?
      = (if key = key ∧ l.activeBan? now key = none then l.provoked? now key else none).or ban? := rfl
  rw [hstands]
  cases hb : l.activeBan? now key with
  | some b =>
    rw [if_neg (by simp), Option.none_or, check_of_banned hb]
    exact h.mono ht
  | none =>
    rw [if_pos ⟨rfl, rfl⟩]
    have hstate := check_bans_of_not_banned hb key.text
    rw [if_pos rfl] at hstate
    cases hp : l.provoked? now key with
    | some b => exact .of_get? (hstate.trans hp) now
    | none => exact (h.mono ht).none_of_ended hb (hstate.trans hp)

theorem sweep (h : l.Shows key ban? t) (ht : t ≤ now) : (l.sweep now).state.Shows key ban? now := by
  have hstate : (l.sweep now).state.bans.get? key.text = l.activeBan? now key := Store.get?_filter _ _ _
  cases hb : l.activeBan? now key with
  | none => exact (h.mono ht).none_of_ended hb (hstate.trans hb)
  | some b =>
    refine h.congr ht (hstate.trans ?_)
    unfold activeBan? at hb ⊢
    rw [hb]
    exact (Option.filter_eq_some_iff.1 hb).1.symm

theorem perform (h : l.Shows key ban? t) (ht : t ≤ now) (act : Action) :
    (l.perform now act).state.Shows key (l.stands now key act ban?) now := by
  by_cases hs : act = .sweep
  · subst hs
    exact h.sweep ht
  by_cases hk : act.key? = some key
  · cases act with
    | check k =>
      obtain rfl := Option.some.inj hk
      exact h.check ht
    | ban k reason duration =>
      obtain rfl := Option.some.inj hk
      have hplaced : l.placed? now k (.ban k reason duration) = some (l.ban now k reason duration).result := if_pos rfl
      unfold stands
      rw [hplaced]
      exact .of_get? ((Store.get?_insert _ _ _ _).trans (if_pos rfl)) now
    | unban k =>
      obtain rfl := Option.some.inj hk
      have hstands : l.stands now k (.unban k) ban? = none := if_pos rfl
      rw [hstands]
      refine .of_get? ?_ now
      show (l.unban k).state.bans.get? k.text = none
      rw [unban_state]
      exact (Store.get?_erase _ _ _).trans (if_pos rfl)
    | ban? k => exact h.mono ht
    | record k => exact h.mono ht
    | reset k => exact h.mono ht
    | bans => cases hk
    | stats => cases hk
    | sweep => cases hk
  · rw [stands_of_ne hk]
    exact h.congr ht (perform_frame hk hs).1

/-- After a run that ends before a time, the ban that stands is all that the limiter shows. -/
theorem run : ∀ (acts : Actions) {l : Limiter} {ban? : Option Ban} {t : Millis}, l.Shows key ban? t → acts.Since t →
    ∀ t', t ≤ t' → (∀ a ∈ acts, a.1 ≤ t') → (l.run acts).Shows key (l.standing key ban? acts) t'
  | [], _, _, _, h, _, _, ht, _ => h.mono ht
  | (_, act) :: acts, _, _, _, h, hs, t', _, hl =>
    run acts (h.perform hs.le act) hs.tail t' (hl _ List.mem_cons_self) fun a ha => hl a (List.mem_cons_of_mem _ ha)

end Shows

/-! ## What is shown of a ban -/

theorem mem_activeBans {k : String} : (k, b) ∈ l.activeBans t ↔ l.bans.get? k = some b ∧ b.isActive t = true := by
  unfold activeBans
  rw [List.mem_filter, Store.mem_toSorted, Store.get?_eq_some_iff]

theorem activeBans_keys_lt (l : Limiter) (t : Millis) : ((l.activeBans t).map Prod.fst).Pairwise (· < ·) :=
  l.bans.toSorted_keys_lt.sublist (List.filter_sublist.map Prod.fst)

theorem count_activeBans (h : l.activeBan? t key = some b) : (l.activeBans t).count (key.text, b) = 1 := by
  have hmem : (key.text, b) ∈ l.activeBans t := mem_activeBans.2 (Option.filter_eq_some_iff.1 h)
  have hnodup : (l.activeBans t).Nodup := by
    refine (List.pairwise_map.1 (l.activeBans_keys_lt t)).imp fun hlt heq => ?_
    rw [heq] at hlt
    exact String.lt_irrefl _ hlt
  exact List.count_eq_one_of_mem hnodup hmem

theorem notMem_activeBans (h : l.activeBan? t key = none) : key.text ∉ (l.activeBans t).map Prod.fst := by
  intro hk
  obtain ⟨⟨_, b⟩, hb, rfl⟩ := List.mem_map.1 hk
  obtain ⟨hget, hactive⟩ := mem_activeBans.1 hb
  exact Option.filter_eq_none_iff.1 h b hget hactive

/-- **A ban is enforced until it ends, and not longer.**  After an ordered run, at every time that is no earlier: the
ban that stands for a key refuses its requests without counting them, and is shown and listed once, in a list with
strictly ascending keys.  When it has ended, a request is decided as if the key had no ban, and none is shown. -/
theorem ban_enforced (s : Settings) (key : Key) (acts : Actions) (t : Millis) (b : Ban) (ho : acts.Ordered)
    (ht : ∀ a ∈ acts, a.1 ≤ t) (hb : (empty s).standing key none acts = some b) :
    let l := (empty s).run acts
    ((∀ e ∈ b.expiresAt, t < e) →
      (l.check t key).result = .deny { key := key.text, kind := .banned b.expiresAt, reason := b.message } ∧
        (l.check t key).state.record? key = l.record? key ∧
        l.activeBan? t key = some b ∧
        (l.activeBans t).count (key.text, b) = 1) ∧
      ((∃ e ∈ b.expiresAt, e ≤ t) →
        (∀ bans : Store Ban, bans.get? key.text = none →
          (l.check t key).result = (({ l with bans := bans } : Limiter).check t key).result) ∧
        l.activeBan? t key = none ∧
        key.text ∉ (l.activeBans t).map Prod.fst) ∧
      ((l.activeBans t).map Prod.fst).Pairwise (· < ·) := by
  intro l
  obtain ⟨t₀, hs⟩ := ho.exists_since
  -- nothing is known of the time before the run, so the run is entered at the earlier of its start and `t`
  have hshows : l.Shows key (some b) t :=
    hb ▸ Shows.run acts (.of_get? rfl (min t₀ t)) ⟨hs.ordered, fun a ha => Int.le_trans (Int.min_le_left _ _)
      (hs.later a ha)⟩ t (Int.min_le_right _ _) ht
  have hknown := hshows t (Int.le_refl t)
  refine ⟨fun hactive => ?_, fun hended => ?_, l.activeBans_keys_lt t⟩
  · rw [Option.filter_some, if_pos (Ban.isActive_iff.2 hactive)] at hknown
    rw [check_of_banned hknown]
    exact ⟨rfl, rfl, hknown, count_activeBans hknown⟩
  · rw [Option.filter_some, Ban.isActive_eq_false_iff.2 hended, if_neg Bool.false_ne_true] at hknown
    refine ⟨fun bans hbans => ?_, hknown, notMem_activeBans hknown⟩
    have hfree : ({ l with bans := bans } : Limiter).activeBan? t key = none := by
      unfold activeBan?
      rw [hbans]
      rfl
    rw [check_result_of_not_banned hknown, check_result_of_not_banned hfree]
    exact (count_with_bans l t key bans).symm

/-- A key that is banned for its violations, then for longer by an operator; a sweep, and a ban that is lifted. -/
def bannedRun : Actions :=
  [(0, .check (.ip "192.0.2.1")), (0, .ban (.session "a") "abuse" none), (10, .check (.ip "192.0.2.1")),
    (20, .ban (.ip "192.0.2.1") "abuse" (some 5000)), (30, .unban (.session "a")), (3000, .sweep)]

theorem ban_enforced_replaced :
    let s : Settings := { banThreshold := 1, banDurationSecs := 2, ip := { maxRequests := 1, windowSecs := 1 } }
    let b : Ban := { reason := "abuse", bannedAt := 20, expiresAt := some 5020, source := .admin }
    bannedRun.Ordered ∧ (∀ a ∈ bannedRun, a.1 ≤ 5019) ∧
      (empty s).standing (.ip "192.0.2.1") none bannedRun = some b ∧ (∀ e ∈ b.expiresAt, (5019 : Millis) < e) ∧
      ((empty s).run bannedRun).activeBan? 5019 (.ip "192.0.2.1") = some b ∧
      (∃ e ∈ b.expiresAt, e ≤ (5020 : Millis)) ∧
      ((empty s).run bannedRun).activeBan? 5020 (.ip "192.0.2.1") = none := by
  intro s b
  have ho : bannedRun.Ordered := by decide
  have ht : ∀ t : Millis, 5019 ≤ t → ∀ a ∈ bannedRun, a.1 ≤ t := fun t ht a ha =>
    Int.le_trans ((by decide : ∀ a ∈ bannedRun, a.1 ≤ 5019) a ha) ht
  have hb : (empty s).standing (.ip "192.0.2.1") none bannedRun = some b := by decide +kernel
  have hactive : ∀ e ∈ b.expiresAt, (5019 : Millis) < e := by decide
  have hended : ∃ e ∈ b.expiresAt, e ≤ (5020 : Millis) := ⟨5020, rfl, by decide⟩
  have hat := ban_enforced s (.ip "192.0.2.1") bannedRun 5019 b ho (ht 5019 (by decide)) hb
  have hafter := ban_enforced s (.ip "192.0.2.1") bannedRun 5020 b ho (ht 5020 (by decide)) hb
  exact ⟨ho, ht 5019 (by decide), hb, hactive, (hat.1 hactive).2.2.1, hended, (hafter.2.1 hended).2.1⟩

end Limiter

end SiteEdit.Limit
