import Mathlib.Data.List.Forall2
import SiteEdit.Proofs.Pattern.Traits
/-!
# Patterns as lists of classes

More traits of patterns: how long a match is at least, which characters it has to have, and, for what is written without
choices, one class for each character of it.
-/
namespace SiteEdit

/-- The characters of a text lie in the classes of a list, one each. -/
def FitsClasses (ks : List CharClass) (w : List Char) : Prop := List.Forall₂ (fun s c => s.has c = true) ks w

theorem FitsClasses.append {ks ls : List CharClass} {u v : List Char} (hu : FitsClasses ks u)
    (hv : FitsClasses ls v) : FitsClasses (ks ++ ls) (u ++ v) := List.rel_append hu hv

theorem FitsClasses.split {ks ls : List CharClass} {w : List Char} (h : FitsClasses (ks ++ ls) w) :
    ∃ u v, w = u ++ v ∧ FitsClasses ks u ∧ FitsClasses ls v := by
  have hu := List.forall₂_take ks.length h
  have hv := List.forall₂_drop ks.length h
  rw [List.take_left] at hu
  rw [List.drop_left] at hv
  exact ⟨_, _, (List.take_append_drop ks.length w).symm, hu, hv⟩

theorem fitsClasses_replicate {s : CharClass} {w : List Char} (h : ∀ c ∈ w, s.has c = true) :
    FitsClasses (List.replicate w.length s) w := by
  rw [← List.map_const', FitsClasses, List.forall₂_map_left_iff, List.forall₂_same]
  exact h

namespace Pattern

variable {p q : Pattern} {b a : Option Char} {w : List Char}

/-- Every match has a character that is not in the list. -/
def leaves (cs : List Char) : Pattern → Bool
  | .one s => cs.all fun c => !s.has c
  | .seq p q => p.leaves cs || q.leaves cs
  | .alt p q => p.leaves cs && q.leaves cs
  | _ => false

theorem Spans.exists_notMem {cs : List Char} (h : p.Spans b w a) (hp : p.leaves cs = true) : ∃ c ∈ w, c ∉ cs := by
  induction h with
  | empty | wordEdge | textStart | textEnd | never | done | once | turn => cases hp
  | @one s c b a hc =>
    refine ⟨c, List.mem_singleton_self c, fun hmem => ?_⟩
    have hno := List.all_eq_true.1 hp c hmem
    rw [hc] at hno
    cases hno
  | seq _ _ ihp ihq =>
    rw [leaves, Bool.or_eq_true] at hp
    rcases hp with hp | hq
    · obtain ⟨c, hc, hcs⟩ := ihp hp
      exact ⟨c, List.mem_append_left _ hc, hcs⟩
    · obtain ⟨c, hc, hcs⟩ := ihq hq
      exact ⟨c, List.mem_append_right _ hc, hcs⟩
  | left _ ih =>
    rw [leaves, Bool.and_eq_true] at hp
    exact ih hp.1
  | right _ ih =>
    rw [leaves, Bool.and_eq_true] at hp
    exact ih hp.2

/-- A match has at least so many characters. -/
def minLength : Pattern → Nat
  | .one _ => 1
  | .seq p q => p.minLength + q.minLength
  | .alt p q => min p.minLength q.minLength
  | _ => 0

theorem Spans.minLength_le (h : p.Spans b w a) : p.minLength ≤ w.length := by
  induction h with
  | empty | wordEdge | textStart | textEnd | never | done | once | turn => exact Nat.zero_le _
  | one => exact Nat.le_refl _
  | seq _ _ ihp ihq =>
    rw [minLength, List.length_append]
    exact Nat.add_le_add ihp ihq
  | left _ ih => exact Nat.le_trans (Nat.min_le_left _ _) ih
  | right _ ih => exact Nat.le_trans (Nat.min_le_right _ _) ih

/-- The classes of a match that takes the left of two ways and no turn that it need not. -/
def shortest : Pattern → List CharClass
  | .one s => [s]
  | .seq p q => p.shortest ++ q.shortest
  | .alt p _ => p.shortest
  | _ => []

/-- What fits the shortest way can be matched anywhere, if the pattern does not look at its surroundings. -/
theorem spans_of_shortest (hu : p.unanchored = true) (he : p.edgeless = true) (hw : FitsClasses p.shortest w) :
    p.Spans b w a := by
  induction p generalizing b a w with
  | empty =>
    cases hw
    exact .empty
  | one s =>
    obtain ⟨c, v, hc, hv, rfl⟩ := List.forall₂_cons_left_iff.1 hw
    cases hv
    exact .one hc
  | wordEdge => cases he
  | textStart | textEnd => cases hu
  | seq p q ihp ihq =>
    rw [unanchored, Bool.and_eq_true] at hu
    rw [edgeless, Bool.and_eq_true] at he
    obtain ⟨u, v, rfl, hfu, hfv⟩ := hw.split
    exact .seq (ihp hu.1 he.1 hfu) (ihq hu.2 he.2 hfv)
  | alt p q ihp _ =>
    rw [unanchored, Bool.and_eq_true] at hu
    rw [edgeless, Bool.and_eq_true] at he
    exact .left (ihp hu.1 he.1 hw)
  | maybe =>
    cases hw
    exact .never
  | loop =>
    cases hw
    exact .done

/-- There is only one way: one class after the other. -/
def rigid : Pattern → Bool
  | .empty | .one _ => true
  | .seq p q => p.rigid && q.rigid
  | _ => false

theorem Spans.fitsClasses (h : p.Spans b w a) (hp : p.rigid = true) : FitsClasses p.shortest w := by
  induction h with
  | empty => exact .nil
  | one hc => exact .cons hc .nil
  | seq _ _ ihp ihq =>
    rw [rigid, Bool.and_eq_true] at hp
    exact (ihp hp.1).append (ihq hp.2)
  | _ => cases hp

/-- A match ends with characters of the classes of a list, one each. -/
def endsWith (ks : List CharClass) : Pattern → Bool
  | .seq _ q => q.rigid && q.shortest == ks
  | _ => false

theorem Spans.exists_suffix {ks : List CharClass} (h : p.Spans b w a) (hp : p.endsWith ks = true) :
    ∃ u v, w = u ++ v ∧ FitsClasses ks v := by
  cases h with
  | @seq p q _ _ u v _ hq =>
    rw [endsWith, Bool.and_eq_true, beq_iff_eq] at hp
    exact ⟨u, v, rfl, hp.2 ▸ hq.fitsClasses hp.1⟩
  | _ => cases hp

end Pattern

end SiteEdit
