import SiteEdit.Proofs.Request.Offsets
import Mathlib.Data.List.Pairwise
import Mathlib.Data.List.TakeWhile
import Mathlib.Order.Monotone.Defs
/-!
# The table of offsets

The table ascends: strictly by the bytes of the lower case, weakly by the bytes of the text, as one character of the
text may have several of the lower case.  So a later byte of the lower case never comes from an earlier one of the text.
-/
namespace SiteEdit.Request

open Text (byteLength byteLength_append lowerChar lowerEach)

variable {cs p q : List Char} {c : Char} {s t i : Nat} {o : Nat × Nat}

/-- The order of two offsets of a table. -/
def Follows (o o' : Nat × Nat) : Prop := o.1 < o'.1 ∧ o.2 ≤ o'.2

theorem source_of_mem_offsetsFrom : ∀ {s t : Nat} {cs : List Char}, o ∈ offsetsFrom s t cs →
    s ≤ o.2 ∧ o.2 < s + byteLength cs
  | s, t, c :: cs, h => by
    have hpos := c.utf8Size_pos
    rw [offsetsFrom, List.mem_append] at h
    rw [byteLength]
    rcases h with h | h
    · have hs := (mem_offsetsOfChar h).2.2
      exact ⟨by omega, by omega⟩
    · obtain ⟨hle, hlt⟩ := source_of_mem_offsetsFrom h
      exact ⟨by omega, by omega⟩

theorem pairwise_offsetsOfChar (s : Nat) : ∀ (t : Nat) (ls : List Char), (offsetsOfChar s t ls).Pairwise Follows
  | _, [] => .nil
  | t, l :: ls => by
    have hpos := l.utf8Size_pos
    refine .cons (fun o ho => ?_) (pairwise_offsetsOfChar s _ ls)
    obtain ⟨hle, -, hs⟩ := mem_offsetsOfChar ho
    exact ⟨by dsimp only; omega, hs.ge⟩

/-- **The table ascends.** -/
theorem pairwise_offsetsFrom : ∀ (s t : Nat) (cs : List Char), (offsetsFrom s t cs).Pairwise Follows
  | _, _, [] => .nil
  | s, t, c :: cs => by
    rw [offsetsFrom, List.pairwise_append]
    refine ⟨pairwise_offsetsOfChar s t _, pairwise_offsetsFrom _ _ cs, fun o ho o' ho' => ?_⟩
    obtain ⟨-, hlt, hs⟩ := mem_offsetsOfChar ho
    exact ⟨hlt.trans_le (mem_offsetsFrom ho').1, by have := (source_of_mem_offsetsFrom ho').1; omega⟩

/-! ## From byte to byte -/

theorem toTrimmed_eq (n : Normalized) (h : ¬ byteLength n.lower ≤ i) :
    n.toTrimmed i = (((n.offsets.takeWhile fun o => o.1 ≤ i).getLast?).map Prod.snd).getD 0 := by
  unfold Normalized.toTrimmed
  rw [if_neg h]
  cases (n.offsets.takeWhile fun o => o.1 ≤ i).getLast? <;> rfl

theorem toTrimmed_le (text : List Char) (i : Nat) :
    (normalize text).toTrimmed i ≤ byteLength (normalize text).trimmed := by
  by_cases h : byteLength (normalize text).lower ≤ i
  · exact (if_pos h).le
  · rw [toTrimmed_eq _ h]
    cases hlast : ((normalize text).offsets.takeWhile fun o => o.1 ≤ i).getLast? with
    | none => exact Nat.zero_le _
    | some o =>
      have ho : o ∈ offsetsFrom 0 0 (Text.trim text) :=
        (List.takeWhile_prefix _).mem (List.mem_of_getLast? hlast)
      have := (source_of_mem_offsetsFrom ho).2
      rw [Nat.zero_add] at this
      exact this.le

/-- The offsets up to a byte are the first of those up to a later one. -/
theorem takeWhile_extends {table : List (Nat × Nat)} {i i' : Nat} (hi : i ≤ i') :
    (table.takeWhile fun o => o.1 ≤ i) <+: table.takeWhile fun o => o.1 ≤ i' := by
  have hboth : (table.takeWhile fun o => o.1 ≤ i) = (table.takeWhile fun o => o.1 ≤ i').takeWhile fun o => o.1 ≤ i := by
    rw [List.takeWhile_takeWhile]
    congr 1
    funext o
    exact decide_eq_decide.2 ⟨fun h => ⟨by simpa using h, by simpa using h.trans hi⟩, fun h => by simpa using h.1⟩
  rw [hboth]
  exact List.takeWhile_prefix _

/-- A later byte of the lower case does not come from an earlier one of the text. -/
theorem monotone_toTrimmed (text : List Char) : Monotone (normalize text).toTrimmed := by
  intro i i' hi
  by_cases hend : byteLength (normalize text).lower ≤ i'
  · exact (toTrimmed_le text i).trans (if_pos hend).ge
  rw [toTrimmed_eq _ hend, toTrimmed_eq _ fun h => hend (h.trans hi)]
  cases hlast : ((normalize text).offsets.takeWhile fun o => o.1 ≤ i).getLast? with
  | none => exact Nat.zero_le _
  | some o =>
    have ho := (takeWhile_extends hi).mem (List.mem_of_getLast? hlast)
    have hsources : ((normalize text).offsets.takeWhile fun o => o.1 ≤ i').Pairwise fun o o' => o.2 ≤ o'.2 :=
      ((pairwise_offsetsFrom 0 0 _).sublist (List.takeWhile_sublist _)).imp fun h => h.2
    rw [List.getLast?_eq_some_getLast (List.ne_nil_of_mem ho)]
    exact hsources.rel_getLast_of_rel_getLast_getLast ho (Nat.le_refl _)

/-- **The table of offsets is exact**: it takes a place of the text back from its lower case, keeps the order of the
bytes, and takes a place within the lower case of one character to where that starts. -/
theorem toTrimmed_exact (text : List Char) :
    (∀ a b, Text.trim text = a ++ b → (normalize text).toTrimmed (byteLength (lowerEach a)) = byteLength a) ∧
      Monotone (normalize text).toTrimmed ∧
      ∀ a c b p q, Text.trim text = a ++ c :: b → lowerChar c = p ++ q → q ≠ [] →
        (normalize text).toTrimmed (byteLength (lowerEach a ++ p)) = byteLength a := by
  refine ⟨fun a b => toTrimmed_place, monotone_toTrimmed text, fun a c b p q h hc hq => ?_⟩
  obtain ⟨l, q, rfl⟩ := List.exists_cons_of_ne_nil hq
  have hpos := l.utf8Size_pos
  refine toTrimmed_within h ?_ ?_
  · rw [byteLength_append]
    exact Nat.le_add_right _ _
  · rw [lowerEach_append, lowerEach_cons, hc]
    simp only [byteLength_append, byteLength, show lowerEach [] = [] from rfl]
    omega

/-- The place within the lower case of a dotted capital I. -/
theorem toTrimmed_dotted_capital : (normalize " xİy ".toList).toTrimmed 2 = 1 :=
  (toTrimmed_exact " xİy ".toList).2.2 ['x'] 'İ' ['y'] ['i'] [Char.ofNat 0x307] (by decide) (by decide) (by decide)

end SiteEdit.Request
