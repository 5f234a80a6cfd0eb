import SiteEdit.Proofs.Limit.Bans
/-!
# The counters of the limiter balance

A request is allowed, refused by a ban, refused as one too many, or answered by a new ban, and counted once.  A ban is
placed for violations or by an operator (`run_balances`).
-/
namespace SiteEdit.Limit

/-- Whether an action is a request that is decided on. -/
def Action.isCheck : Action → Bool
  | .check _ => true
  | _ => false

/-- How many requests are decided on. -/
def Actions.checks (acts : Actions) : Nat := acts.countP fun a => a.2.isCheck

/-- How many bans have a source. -/
def bansBy (source : BanSource) (bans : List Ban) : Nat := bans.countP fun b => b.source = source

theorem bansBy_append (source : BanSource) (bans bans' : List Ban) :
    bansBy source (bans ++ bans') = bansBy source bans + bansBy source bans' := List.countP_append

namespace Limiter

variable {l l' l'' : Limiter} {now : Millis} {key : Key}

/-- The ban that an action places: what stands for its key after a request that no ban refused, or after an order to
ban it. -/
def newBan? (l : Limiter) (now : Millis) : Action → Option Ban
  | .check key => if (l.activeBan? now key).isSome then none else (l.check now key).state.bans.get? key.text
  | .ban key reason duration => (l.ban now key reason duration).state.bans.get? key.text
  | _ => none

/-- The bans that a run places, in their order. -/
def newBans (l : Limiter) : Actions → List Ban
  | [] => []
  | (now, act) :: acts => (l.newBan? now act).toList ++ (l.perform now act).state.newBans acts

/-- From one state to another the counters change by the requests and by the bans that were placed. -/
structure Balances (l l' : Limiter) (checks : Nat) (bans : List Ban) : Prop where
  checks : l'.allowed + l'.rateLimited + l'.bannedRejections + bansBy .automatic bans =
    l.allowed + l.rateLimited + l.bannedRejections + checks
  bans : l'.bansCreated = l.bansCreated + (bansBy .automatic bans + bansBy .admin bans)

theorem Balances.refl (l : Limiter) : Balances l l 0 [] := ⟨rfl, rfl⟩

theorem Balances.trans {n k : Nat} {bans bans' : List Ban} (h : Balances l l' n bans) (h' : Balances l' l'' k bans') :
    Balances l l'' (n + k) (bans ++ bans') := by
  have hchecks := h.checks
  have hchecks' := h'.checks
  have hbans := h.bans
  have hbans' := h'.bans
  constructor
  · rw [bansBy_append]
    omega
  · rw [bansBy_append, bansBy_append]
    omega

/-- A request that is counted is allowed or refused, or it provokes a ban. -/
theorem count_balances (l : Limiter) (now : Millis) (key : Key) :
    Balances l (l.count now key).state 1 (l.provoked? now key).toList := by
  unfold provoked?
  dsimp only
  by_cases hc : (l.settings.ceiling key.dimension).maxRequests.toNat < (l.nextRecord now key).count
  · rw [count_of_exceeded hc]
    dsimp only
    by_cases hv : l.settings.banThreshold.toNat ≤ (l.nextRecord now key).violate.violations
    · rw [if_pos hv, if_pos ⟨hc, hv⟩]
      exact ⟨rfl, rfl⟩
    · rw [if_neg hv, if_neg fun h => hv h.2]
      constructor
      · simp only [refuseExceeded, Option.toList_none, bansBy, List.countP_nil]
        omega
      · rfl
  · rw [count_of_within (Nat.not_lt.1 hc), if_neg fun h => hc h.1]
    constructor
    · simp only [Option.toList_none, bansBy, List.countP_nil]
      omega
    · rfl

theorem check_balances (l : Limiter) (now : Millis) (key : Key) :
    Balances l (l.check now key).state 1 (l.newBan? now (.check key)).toList := by
  cases hb : l.activeBan? now key with
  | some ban =>
    have hban : l.newBan? now (.check key) = none := by rw [newBan?, hb, Option.isSome_some, if_pos rfl]
    rw [hban, check_of_banned hb]
    exact ⟨rfl, rfl⟩
  | none =>
    have hcheck : (l.check now key).state = ((l.dropEnded key).state.count now key).state := by
      unfold check
      rw [hb]
      rfl
    have hban : l.newBan? now (.check key) = (l.dropEnded key).state.provoked? now key := by
      rw [newBan?, hb, Option.isSome_none, if_neg Bool.false_ne_true, check_bans_of_not_banned hb, if_pos rfl,
        dropEnded_state]
      rfl
    have hcounted := (l.dropEnded key).state.count_balances now key
    rw [hban, hcheck]
    rw [dropEnded_state] at hcounted ⊢
    exact ⟨hcounted.checks, hcounted.bans⟩

theorem perform_balances (l : Limiter) (now : Millis) (act : Action) :
    Balances l (l.perform now act).state (if act.isCheck then 1 else 0) (l.newBan? now act).toList := by
  cases act with
  | check key => exact l.check_balances now key
  | ban key reason duration =>
    have hban : l.newBan? now (.ban key reason duration) = some (l.ban now key reason duration).result :=
      (Store.get?_insert _ _ _ _).trans (if_pos rfl)
    rw [hban]
    exact ⟨rfl, rfl⟩
  | unban key =>
    show Balances l (l.unban key).state 0 []
    rw [unban_state]
    exact ⟨rfl, rfl⟩
  | ban? key => exact .refl l
  | bans => exact .refl l
  | record key => exact .refl l
  | reset key => exact ⟨rfl, rfl⟩
  | stats => exact .refl l
  | sweep => exact ⟨rfl, rfl⟩

theorem run_balances : ∀ (acts : Actions) (l : Limiter), Balances l (l.run acts) acts.checks (l.newBans acts)
  | [], l => .refl l
  | (now, act) :: acts, l => by
    have hrun := (l.perform_balances now act).trans (run_balances acts (l.perform now act).state)
    rw [Nat.add_comm] at hrun
    rw [Actions.checks, List.countP_cons]
    exact hrun

end Limiter

end SiteEdit.Limit
