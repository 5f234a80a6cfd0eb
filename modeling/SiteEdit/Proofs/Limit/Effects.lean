import SiteEdit.Proofs.Limit.Run
import SiteEdit.Proofs.Store
/-!
# What the actions do to the record of a key

An action counts a request of the key, or it leaves the record of the key as it is, or it drops the record because it
has been idle (`record?_perform`).  Bans decide only which of the requests are counted.
-/
namespace SiteEdit.Limit

open Audit (Audited)

/-! ## Keys -/

namespace Key

theorem splitFirst?_text (k : Key) :
    Text.splitFirst? ':' k.text.toList = some (k.dimension.name.toList, k.value.toList) := by
  have hcolon : ':' ∉ k.dimension.name.toList := by cases k.dimension <;> decide
  rw [text, String.toList_append, String.toList_append, List.append_assoc]
  exact Text.splitFirst?_append hcolon k.value.toList

theorem text_inj {k k' : Key} : k.text = k'.text ↔ k = k' := by
  constructor
  · intro h
    have hs := splitFirst?_text k
    rw [h, splitFirst?_text k', Option.some.injEq, Prod.mk.injEq, String.toList_inj, String.toList_inj] at hs
    have hd := congrArg Dimension.ofName? hs.1
    rw [Dimension.ofName?_name, Dimension.ofName?_name, Option.some.injEq] at hd
    cases k
    cases k'
    rw [Key.mk.injEq]
    exact ⟨hd.symm, hs.2.symm⟩
  · rintro rfl
    rfl

theorem dimensionOf_text (k : Key) : dimensionOf k.text = k.dimension := by
  unfold dimensionOf
  rw [splitFirst?_text]
  cases k.dimension with
  | ip => exact if_neg (by decide)
  | session => exact if_pos rfl

end Key

/-! ## Windows -/

/-- The record of a key with one more request. -/
def Record.next (r? : Option Record) (now window : Millis) : Record :=
  match r? with
  | some r => r.hit now window
  | none => .first now

theorem step_of_within {r? : Option Record} {now : Millis} {c : Ceiling}
    (h : (Record.next r? now c.window).count ≤ c.maxRequests.toNat) : step r? now c =
      (.next r? now c.window, .within (c.maxRequests.toNat - (Record.next r? now c.window).count)) := by
  unfold step
  exact if_neg (Nat.not_lt.2 h)

theorem step_of_exceeded {r? : Option Record} {now : Millis} {c : Ceiling}
    (h : c.maxRequests.toNat < (Record.next r? now c.window).count) : step r? now c =
      ((Record.next r? now c.window).violate,
        .exceeded ((Record.next r? now c.window).untilWindowEnd now c.window)) := by
  unfold step
  exact if_pos h

/-- Whether a request is allowed. -/
def Decision.isAllowed : Decision → Bool
  | .allow _ => true
  | .deny _ => false

namespace Limiter

variable {l : Limiter} {now : Millis} {key k : Key}

/-! ## Checks -/

/-- The record that the next request of a key makes, if it is counted. -/
def nextRecord (l : Limiter) (now : Millis) (key : Key) : Record :=
  .next (l.record? key) now (l.settings.ceiling key.dimension).window

/-- A request within the ceiling is allowed. -/
theorem count_of_within (h : (l.nextRecord now key).count ≤ (l.settings.ceiling key.dimension).maxRequests.toNat) :
    l.count now key =
      { result := .allow ((l.settings.ceiling key.dimension).maxRequests.toNat - (l.nextRecord now key).count)
        state :=
          { l with records := l.records.insert key.text (l.nextRecord now key), allowed := l.allowed + 1 } } := by
  have hs := step_of_within h
  unfold record? at hs
  unfold count
  rw [hs]
  rfl

/-- A request past the ceiling is refused, and its key is banned if that happened too often. -/
theorem count_of_exceeded (h : (l.settings.ceiling key.dimension).maxRequests.toNat < (l.nextRecord now key).count) :
    l.count now key =
      let record := (l.nextRecord now key).violate
      let counted := { l with records := l.records.insert key.text record }
      if l.settings.banThreshold.toNat ≤ record.violations then counted.escalate now key record.violations
      else counted.refuseExceeded key record.violations
        ((l.nextRecord now key).untilWindowEnd now (l.settings.ceiling key.dimension).window) := by
  have hs := step_of_exceeded h
  unfold record? at hs
  unfold count
  rw [hs]
  rfl

/-- A request that is counted changes the record of its key.  It is allowed if the count is within the ceiling. -/
theorem count_spec (l : Limiter) (now : Millis) (key : Key) :
    (l.count now key).result.isAllowed
        = decide ((l.nextRecord now key).count ≤ (l.settings.ceiling key.dimension).maxRequests.toNat) ∧
      ∃ v, ∀ k : String, (l.count now key).state.records.get? k
        = if k = key.text then some { l.nextRecord now key with violations := v } else l.records.get? k := by
  by_cases h : (l.nextRecord now key).count ≤ (l.settings.ceiling key.dimension).maxRequests.toNat
  · have hs := step_of_within h
    unfold record? at hs
    unfold count
    rw [hs]
    refine ⟨(decide_eq_true h).symm, (l.nextRecord now key).violations, fun k => ?_⟩
    exact Store.get?_insert l.records key.text k _
  · have hs := step_of_exceeded (Nat.not_le.1 h)
    unfold record? at hs
    rw [decide_eq_false h]
    unfold count
    rw [hs]
    dsimp only
    split
    · refine ⟨rfl, 0, fun k => ?_⟩
      unfold escalate
      dsimp only
      rw [Store.get?_adjust, Store.get?_insert]
      by_cases hk : k = key.text
      · rw [if_pos hk, if_pos hk, if_pos hk]
        rfl
      · rw [if_neg hk, if_neg hk, if_neg hk]
    · refine ⟨rfl, (l.nextRecord now key).violate.violations, fun k => ?_⟩
      exact Store.get?_insert l.records key.text k _

theorem dropEnded_records (l : Limiter) (key : Key) : (l.dropEnded key).state.records = l.records := by
  unfold dropEnded
  split <;> rfl

theorem dropEnded_settings (l : Limiter) (key : Key) : (l.dropEnded key).state.settings = l.settings := by
  unfold dropEnded
  split <;> rfl

/-- A request of a banned key is refused and not counted. -/
theorem check_of_banned {ban : Ban} (h : l.activeBan? now key = some ban) :
    l.check now key = l.refuseBanned key ban := by
  unfold check
  rw [h]

/-- A request of a key that is not banned is counted. -/
theorem check_of_not_banned (h : l.activeBan? now key = none) :
    (l.check now key).result.isAllowed
        = decide ((l.nextRecord now key).count ≤ (l.settings.ceiling key.dimension).maxRequests.toNat) ∧
      ∃ v, ∀ k : String, (l.check now key).state.records.get? k
        = if k = key.text then some { l.nextRecord now key with violations := v } else l.records.get? k := by
  have hc := (l.dropEnded key).state.count_spec now key
  unfold nextRecord record? at hc
  rw [dropEnded_records, dropEnded_settings] at hc
  unfold check
  rw [h]
  exact hc

/-! ## Settings -/

theorem count_settings (l : Limiter) (now : Millis) (key : Key) : (l.count now key).state.settings = l.settings := by
  unfold count
  dsimp only
  split
  · rfl
  · split <;> rfl

theorem check_settings (l : Limiter) (now : Millis) (key : Key) : (l.check now key).state.settings = l.settings := by
  unfold check
  split
  · rfl
  · exact (count_settings _ now key).trans (l.dropEnded_settings key)

theorem perform_settings (l : Limiter) (now : Millis) (act : Action) :
    (l.perform now act).state.settings = l.settings := by
  cases act with
  | check key => exact l.check_settings now key
  | unban key =>
    show (l.unban key).state.settings = l.settings
    unfold unban
    split <;> rfl
  | ban key reason duration => rfl
  | ban? key => rfl
  | bans => rfl
  | record key => rfl
  | reset key => rfl
  | stats => rfl
  | sweep => rfl

theorem run_settings : ∀ (acts : Actions) (l : Limiter), (l.run acts).settings = l.settings
  | [], _ => rfl
  | (now, act) :: acts, l => (run_settings acts _).trans (l.perform_settings now act)

/-! ## Actions -/

/-- Whether an action is a request of a key that is counted. -/
def Counts (l : Limiter) (now : Millis) (key : Key) (act : Action) : Prop :=
  act = .check key ∧ l.activeBan? now key = none

/-- An action that does not count a request of a key leaves the record of the key as it is, or sweeps it away when it
has been idle for a whole window, or resets it. -/
theorem record?_of_not_counts {act : Action} (h : ¬ l.Counts now key act) :
    (l.perform now act).state.record? key = l.record? key ∨
      (l.perform now act).state.record? key = none ∧
        (act = .reset key ∨
          act = .sweep ∧ ∀ r ∈ l.record? key, (l.settings.ceiling key.dimension).window ≤ now - r.lastSeen) := by
  unfold record?
  cases act with
  | check k =>
    left
    show (l.check now k).state.records.get? key.text = l.records.get? key.text
    cases hb : l.activeBan? now k with
    | some ban =>
      rw [check_of_banned hb]
      rfl
    | none =>
      obtain ⟨-, v, hr⟩ := check_of_not_banned hb
      rw [hr, if_neg]
      intro hk
      rw [Key.text_inj] at hk
      subst hk
      exact h ⟨rfl, hb⟩
  | unban k =>
    left
    show (l.unban k).state.records.get? key.text = l.records.get? key.text
    unfold unban
    split <;> rfl
  | reset k =>
    show (l.records.erase k.text).get? key.text = _ ∨ (l.records.erase k.text).get? key.text = _ ∧ _
    rw [Store.get?_erase]
    by_cases hk : key.text = k.text
    · rw [if_pos hk]
      rw [Key.text_inj] at hk
      exact .inr ⟨rfl, .inl (by rw [hk])⟩
    · rw [if_neg hk]
      exact .inl rfl
  | sweep =>
    show (l.records.filter (l.keeps now)).get? key.text = _ ∨ (l.records.filter (l.keeps now)).get? key.text = _ ∧ _
    rw [Store.get?_filter]
    cases hr : l.records.get? key.text with
    | none => exact .inl rfl
    | some r =>
      cases hk : l.keeps now key.text r with
      | true => exact .inl (by simp [hk])
      | false =>
        refine .inr ⟨by simp [hk], .inr ⟨rfl, fun r' hr' => ?_⟩⟩
        obtain rfl := Option.some.inj hr'
        unfold keeps at hk
        rw [decide_eq_false_iff_not, Key.dimensionOf_text, Int.not_lt] at hk
        exact Int.le_trans (Int.le_max_right _ _) hk
  | ban k reason duration => exact .inl rfl
  | ban? k => exact .inl rfl
  | bans => exact .inl rfl
  | record k => exact .inl rfl
  | stats => exact .inl rfl

end Limiter

end SiteEdit.Limit
