import SiteEdit.Proofs.Limit.Sweeping
/-!
# Keys do not interfere

Two limiters that hold the same under the text of a key answer the same about it and report the same (`HoldsSame.reply?`),
and every action keeps them so.  An action about another key writes under another text (`perform_holdsSame`), so a run
can be cut down to what is about one key, with the sweeps, and nothing shows (`replies_about`).
-/
namespace SiteEdit.Limit

open Audit (Event)

/-- Whether an action is about no other key. -/
def Action.isAbout (key : Key) (act : Action) : Bool := act.key?.all (· == key)

theorem Action.isAbout_iff {key : Key} {act : Action} : act.isAbout key = true ↔ ∀ k ∈ act.key?, k = key := by
  simp [isAbout, Option.all_eq_true]

theorem Action.isAbout_eq_false_iff {key : Key} {act : Action} :
    act.isAbout key = false ↔ ∃ k, act.key? = some k ∧ k ≠ key := by
  rw [← Bool.not_eq_true, isAbout_iff]
  simp

/-- The actions without those about other keys. -/
def Actions.about (key : Key) (acts : Actions) : Actions := acts.filter fun a => a.2.isAbout key

theorem Actions.about_cons_of_pos {key : Key} {act : Action} (h : act.isAbout key = true) (now : Millis)
    (acts : Actions) : about key ((now, act) :: acts) = (now, act) :: about key acts := List.filter_cons_of_pos h

theorem Actions.about_cons_of_neg {key : Key} {act : Action} (h : act.isAbout key = false) (now : Millis)
    (acts : Actions) : about key ((now, act) :: acts) = about key acts :=
  List.filter_cons_of_neg (h ▸ Bool.false_ne_true)

namespace Limiter

variable {l l' l'' : Limiter} {now : Millis} {key : Key} {act : Action}

/-- What the limiter answers to an action about a key, and what it reports of it. -/
def reply? (l : Limiter) (now : Millis) (key : Key) (act : Action) : Option (Answer × List Event) :=
  if act.key? = some key then some ((l.perform now act).result, (l.perform now act).events) else none

/-- The replies to the actions of a run that are about a key. -/
def replies (l : Limiter) (key : Key) : Actions → List (Answer × List Event)
  | [] => []
  | (now, act) :: acts => (l.reply? now key act).toList ++ (l.perform now act).state.replies key acts

/-- **The limiters hold the same of a key**, under the same settings. -/
structure HoldsSame (l l' : Limiter) (key : Key) : Prop where
  settings : l.settings = l'.settings
  ban : l.bans.get? key.text = l'.bans.get? key.text
  record : l.record? key = l'.record? key

/-- An action about another key writes nothing under the text of this one. -/
theorem perform_holdsSame (l : Limiter) (now : Millis) {k : Key} (ha : act.key? = some k) (hk : k ≠ key) :
    HoldsSame (l.perform now act).state l key := by
  have hne : act.key? ≠ some key := fun h => hk (Option.some.inj (ha.symm.trans h))
  have hsweep : act ≠ .sweep := by
    rintro rfl
    cases ha
  have hframe : (l.perform now act).state.bans.get? key.text = l.bans.get? key.text ∧
      (l.perform now act).state.record? key = l.record? key := perform_frame hne hsweep
  exact ⟨l.perform_settings now act, hframe.1, hframe.2⟩

namespace HoldsSame

theorem refl (l : Limiter) (key : Key) : HoldsSame l l key := ⟨rfl, rfl, rfl⟩

theorem trans (h : HoldsSame l l' key) (h' : HoldsSame l' l'' key) : HoldsSame l l'' key :=
  ⟨h.settings.trans h'.settings, h.ban.trans h'.ban, h.record.trans h'.record⟩

theorem activeBan? (h : HoldsSame l l' key) (now : Millis) : l.activeBan? now key = l'.activeBan? now key :=
  activeBan?_congr h.ban now

theorem nextRecord (h : HoldsSame l l' key) (now : Millis) : l.nextRecord now key = l'.nextRecord now key := by
  unfold Limiter.nextRecord
  rw [h.record, h.settings]

/-! ## What an action about the key returns -/

theorem count_events (h : HoldsSame l l' key) (now : Millis) :
    (l.count now key).events = (l'.count now key).events := by
  have hs := h.settings
  have hr := h.nextRecord now
  by_cases hc : (l.settings.ceiling key.dimension).maxRequests.toNat < (l.nextRecord now key).count
  · have hc' := hc
    rw [hs, hr] at hc'
    rw [count_of_exceeded hc, count_of_exceeded hc', hs, hr]
    dsimp only
    split
    · rfl
    · rfl
  · have hc' := hc
    rw [hs, hr] at hc'
    rw [count_of_within (Nat.not_lt.1 hc), count_of_within (Nat.not_lt.1 hc')]

/-- A ban that has ended is dropped from both. -/
theorem dropEnded (h : HoldsSame l l' key) : (l.dropEnded key).events = (l'.dropEnded key).events ∧
    HoldsSame (l.dropEnded key).state (l'.dropEnded key).state key := by
  refine ⟨?_, ?_⟩
  · unfold Limiter.dropEnded
    rw [h.ban]
    split <;> rfl
  · rw [dropEnded_state, dropEnded_state]
    refine ⟨h.settings, ?_, h.record⟩
    exact ((Store.get?_erase _ _ _).trans (if_pos rfl)).trans ((Store.get?_erase _ _ _).trans (if_pos rfl)).symm

theorem check_reply (h : HoldsSame l l' key) (now : Millis) :
    (l.check now key).result = (l'.check now key).result ∧ (l.check now key).events = (l'.check now key).events := by
  cases hb : l.activeBan? now key with
  | some ban =>
    rw [check_of_banned hb, check_of_banned ((h.activeBan? now).symm.trans hb)]
    exact ⟨rfl, rfl⟩
  | none =>
    have hb' := (h.activeBan? now).symm.trans hb
    obtain ⟨hended, hdropped⟩ := h.dropEnded
    refine ⟨?_, ?_⟩
    · rw [check_result_of_not_banned hb, check_result_of_not_banned hb']
      exact (count_congr h.settings (h.nextRecord now)).1
    · unfold Limiter.check
      rw [hb, hb']
      exact congrArg₂ (· ++ ·) hended (hdropped.count_events now)

theorem unban_reply (h : HoldsSame l l' key) :
    (l.unban key).result = (l'.unban key).result ∧ (l.unban key).events = (l'.unban key).events := by
  unfold unban
  rw [h.ban]
  split
  · exact ⟨rfl, rfl⟩
  · exact ⟨rfl, rfl⟩

/-- **An action about the key has the same answer and the same report.** -/
theorem perform_reply (h : HoldsSame l l' key) (now : Millis) (ha : act.key? = some key) :
    (l.perform now act).result = (l'.perform now act).result ∧
      (l.perform now act).events = (l'.perform now act).events := by
  cases act with
  | check k =>
    obtain rfl := Option.some.inj ha
    exact (h.check_reply now).imp_left (congrArg Answer.decision)
  | unban k =>
    obtain rfl := Option.some.inj ha
    exact h.unban_reply.imp_left (congrArg Answer.lifted)
  | ban? k =>
    obtain rfl := Option.some.inj ha
    exact ⟨congrArg Answer.ban (h.activeBan? now), rfl⟩
  | record k =>
    obtain rfl := Option.some.inj ha
    exact ⟨congrArg Answer.record h.record, rfl⟩
  | ban k reason duration => exact ⟨rfl, rfl⟩
  | reset k => exact ⟨rfl, rfl⟩
  | bans => cases ha
  | stats => cases ha
  | sweep => cases ha

theorem reply? (h : HoldsSame l l' key) (now : Millis) (act : Action) :
    l.reply? now key act = l'.reply? now key act := by
  unfold Limiter.reply?
  split
  · rename_i ha
    rw [(h.perform_reply now ha).1, (h.perform_reply now ha).2]
  · rfl

/-! ## What the actions leave -/

theorem check (h : HoldsSame l l' key) (now : Millis) :
    HoldsSame (l.check now key).state (l'.check now key).state key := by
  cases hb : l.activeBan? now key with
  | some ban =>
    rw [check_of_banned hb, check_of_banned ((h.activeBan? now).symm.trans hb)]
    exact ⟨h.settings, h.ban, h.record⟩
  | none =>
    have hb' := (h.activeBan? now).symm.trans hb
    obtain ⟨-, hsettled, hprovoked⟩ := count_congr h.settings (h.nextRecord now)
    refine ⟨?_, ?_, ?_⟩
    · rw [check_settings, check_settings, h.settings]
    · rw [check_bans_of_not_banned hb, check_bans_of_not_banned hb', hprovoked, if_pos rfl, if_pos rfl]
    · unfold record?
      rw [check_records_of_not_banned hb, check_records_of_not_banned hb', hsettled, if_pos rfl, if_pos rfl]

/-- A sweep judges what is stored under the text of the key by itself. -/
theorem sweep (h : HoldsSame l l' key) (now : Millis) :
    HoldsSame (l.sweep now).state (l'.sweep now).state key where
  settings := h.settings
  ban := by
    show (l.bans.filter _).get? key.text = (l'.bans.filter _).get? key.text
    rw [Store.get?_filter, Store.get?_filter, h.ban]
  record := by
    have hr : l.records.get? key.text = l'.records.get? key.text := h.record
    show (l.records.filter (l.keeps now)).get? key.text = (l'.records.filter (l'.keeps now)).get? key.text
    rw [Store.get?_filter, Store.get?_filter, hr]
    unfold keeps
    rw [h.settings]

/-- What two limiters hold of a key stays the same under every action that is not about another one. -/
theorem perform (h : HoldsSame l l' key) (now : Millis) (ha : ∀ k ∈ act.key?, k = key) :
    HoldsSame (l.perform now act).state (l'.perform now act).state key := by
  cases act with
  | check k =>
    obtain rfl := ha k rfl
    exact h.check now
  | ban k reason duration =>
    obtain rfl := ha k rfl
    refine ⟨h.settings, ?_, h.record⟩
    exact ((Store.get?_insert _ _ _ _).trans (if_pos rfl)).trans ((Store.get?_insert _ _ _ _).trans (if_pos rfl)).symm
  | unban k =>
    obtain rfl := ha k rfl
    show HoldsSame (l.unban k).state (l'.unban k).state k
    rw [unban_state, unban_state]
    refine ⟨h.settings, ?_, h.record⟩
    exact ((Store.get?_erase _ _ _).trans (if_pos rfl)).trans ((Store.get?_erase _ _ _).trans (if_pos rfl)).symm
  | reset k =>
    obtain rfl := ha k rfl
    refine ⟨h.settings, h.ban, ?_⟩
    exact ((Store.get?_erase _ _ _).trans (if_pos rfl)).trans ((Store.get?_erase _ _ _).trans (if_pos rfl)).symm
  | sweep => exact h.sweep now
  | ban? k => exact h
  | bans => exact h
  | record k => exact h
  | stats => exact h

/-! ## Runs -/

/-- What holds the same of a key replies alike to a run and to what is left of it about the key. -/
theorem replies : ∀ (acts : Actions) {l l' : Limiter}, HoldsSame l l' key →
    l.replies key acts = l'.replies key (acts.about key)
  | [], _, _, _ => rfl
  | (now, act) :: acts, l, l', h => by
    have hcons : Limiter.replies l key ((now, act) :: acts)
        = (l.reply? now key act).toList ++ (l.perform now act).state.replies key acts := rfl
    rw [hcons]
    cases hb : act.isAbout key with
    | true =>
      rw [Actions.about_cons_of_pos hb, h.reply? now act, replies acts (h.perform now (Action.isAbout_iff.1 hb))]
      rfl
    | false =>
      -- the action is left out, and `l` holds of the key what it held
      obtain ⟨k, hk, hne⟩ := Action.isAbout_eq_false_iff.1 hb
      have hnone : l.reply? now key act = none := if_neg fun h => hne (Option.some.inj (hk.symm.trans h))
      rw [Actions.about_cons_of_neg hb, hnone]
      exact replies acts ((l.perform_holdsSame now hk hne).trans h)

end HoldsSame

/-- **Keys do not interfere.**  From whatever a limiter holds, at whatever times, every action about a key is answered in
a run as in what is left of the run without the actions about other keys, and reported the same. -/
theorem replies_about (l : Limiter) (key : Key) (acts : Actions) :
    l.replies key acts = l.replies key (acts.about key) := HoldsSame.replies acts (.refl l key)

end Limiter

end SiteEdit.Limit
