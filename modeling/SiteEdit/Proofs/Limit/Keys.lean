import SiteEdit.Proofs.Limit.Sweeping
/-!
# Keys and their texts

A key is read back from its text, unless it has no value (`Key.ofText?_text`).  The limiter stores nothing but under the
texts of keys (`Keyed.run`), so what it lists is listed under the text of a key, and to lift the ban of that key takes
just this one from the list (`unban_of_mem_activeBans`).
-/
namespace SiteEdit.Limit

/-- A key that has a value is read back from its text. -/
theorem Key.ofText?_text (k : Key) : ofText? k.text = if k.value = "" then none else some k := by
  unfold ofText?
  rw [splitFirst?_text]
  show (Dimension.ofName? (String.ofList k.dimension.name.toList)).bind _ = _
  rw [String.ofList_toList, Dimension.ofName?_name]
  by_cases h : k.value = "" <;> simp [h]

namespace Limiter

variable {l : Limiter} {now : Millis} {k : String} {b : Ban}

/-- Nothing is stored but under the texts of keys. -/
structure Keyed (l : Limiter) : Prop where
  bans : ∀ k, (∀ key : Key, key.text ≠ k) → l.bans.get? k = none
  records : ∀ k, (∀ key : Key, key.text ≠ k) → l.records.get? k = none

namespace Keyed

theorem exists_of_ban (h : l.Keyed) (hb : l.bans.get? k = some b) : ∃ key : Key, key.text = k := by
  by_contra hk
  rw [h.bans k (not_exists.1 hk)] at hb
  cases hb

theorem exists_of_record {r : Record} (h : l.Keyed) (hr : l.records.get? k = some r) : ∃ key : Key, key.text = k := by
  by_contra hk
  rw [h.records k (not_exists.1 hk)] at hr
  cases hr

theorem check (h : l.Keyed) (now : Millis) (key : Key) : (l.check now key).state.Keyed := by
  cases hb : l.activeBan? now key with
  | some b =>
    rw [check_of_banned hb]
    exact ⟨h.bans, h.records⟩
  | none =>
    constructor
    · intro k hk
      rw [check_bans_of_not_banned hb, if_neg (hk key).symm]
      exact h.bans k hk
    · intro k hk
      rw [check_records_of_not_banned hb, if_neg (hk key).symm]
      exact h.records k hk

theorem perform (h : l.Keyed) (now : Millis) (act : Action) : (l.perform now act).state.Keyed := by
  cases act with
  | check key => exact h.check now key
  | ban key reason duration =>
    refine ⟨fun k hk => ?_, h.records⟩
    exact (Store.get?_insert _ _ _ _).trans ((if_neg (hk key).symm).trans (h.bans k hk))
  | unban key =>
    show (l.unban key).state.Keyed
    rw [unban_state]
    refine ⟨fun k hk => ?_, h.records⟩
    exact (Store.get?_erase _ _ _).trans ((if_neg (hk key).symm).trans (h.bans k hk))
  | reset key =>
    refine ⟨h.bans, fun k hk => ?_⟩
    exact (Store.get?_erase _ _ _).trans ((if_neg (hk key).symm).trans (h.records k hk))
  | sweep =>
    constructor
    · intro k hk
      exact (Store.get?_filter _ _ _).trans (by rw [h.bans k hk]; rfl)
    · intro k hk
      exact (Store.get?_filter _ _ _).trans (by rw [h.records k hk]; rfl)
  | ban? key => exact h
  | bans => exact h
  | record key => exact h
  | stats => exact h

theorem run : ∀ (acts : Actions) {l : Limiter}, l.Keyed → (l.run acts).Keyed
  | [], _, h => h
  | (now, act) :: acts, _, h => run acts (h.perform now act)

theorem empty (s : Settings) : (Limiter.empty s).Keyed := ⟨fun _ _ => rfl, fun _ _ => rfl⟩

end Keyed

theorem activeBans_unban (l : Limiter) (key : Key) (t : Millis) :
    (l.unban key).state.activeBans t = (l.activeBans t).filter fun e => e.1 ≠ key.text := by
  rw [unban_state]
  show ((l.bans.erase key.text).toSorted).filter _ = _
  unfold Store.erase activeBans
  rw [Store.toSorted_filter, List.filter_comm]
  refine List.filter_congr fun e _ => ?_
  by_cases h : e.1 = key.text <;> simp [h]

/-- A ban that is listed is stored under the text of a key, and is lifted by that key alone. -/
theorem unban_of_mem_activeBans (h : l.Keyed) (hb : (k, b) ∈ l.activeBans now) : ∃ key : Key, key.text = k ∧
    (l.unban key).result = true ∧ (l.unban key).state = { l with bans := l.bans.erase k } := by
  obtain ⟨hget, -⟩ := mem_activeBans.1 hb
  obtain ⟨key, rfl⟩ := h.exists_of_ban hget
  refine ⟨key, rfl, ?_, l.unban_state key⟩
  unfold unban
  rw [hget]

end Limiter

end SiteEdit.Limit
