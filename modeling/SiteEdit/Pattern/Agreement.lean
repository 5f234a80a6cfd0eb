import SiteEdit.Pattern.Search
/-!
# The search finds what matching finds

`lengths_eq`: for each place of a text the search from its end gives the length of the match that starts there.  The
search is ready at a place if each class keeps what comes next finds one place further on (`Ready`); then it finds what
`Pattern.run` finds, and is ready one place further to the start (`find_eq_run`, `ready_advance`).
-/
namespace SiteEdit.Pattern

/-! ## Matching -/

/-- What is found does not depend on what comes next at places further to the start. -/
def Matching.Forward (turn : Matching) : Prop :=
  ∀ (c : Place) (next next' : Place → Option Nat),
    (∀ d, d.rest.length ≤ c.rest.length → next d = next' d) → turn c next = turn c next'

theorem atMost_forward {turn : Matching} (hturn : turn.Forward) : ∀ n : Nat, Matching.Forward (atMost turn n)
  | 0, c, _, _, h => h c (Nat.le_refl _)
  | n + 1, c, next, next', h => by
    rw [atMost, atMost, h c (Nat.le_refl _)]
    congr 1
    refine hturn _ _ _ fun d _ => ?_
    split
    · rename_i hd
      exact atMost_forward hturn n _ _ _ fun e he => h e (by omega)
    · rfl

theorem run_forward (p : Pattern) : p.run.Forward := by
  intro c next next' h
  induction p generalizing c next next' with
  | empty => exact h c (Nat.le_refl _)
  | one s =>
    simp only [run]
    split
    · rfl
    · rename_i x rest hr
      rw [h ⟨some x, rest⟩ (by simp [hr])]
  | wordEdge => simp only [run, h c (Nat.le_refl _)]
  | textStart => simp only [run, h c (Nat.le_refl _)]
  | textEnd => simp only [run, h c (Nat.le_refl _)]
  | seq p q ihp ihq =>
    simp only [run]
    exact ihp _ _ _ fun d hd => ihq _ _ _ fun e he => h e (by omega)
  | alt p q ihp ihq => simp only [run, ihp _ _ _ h, ihq _ _ _ h]
  | maybe p q ihp ihq =>
    simp only [run, h c (Nat.le_refl _)]
    congr 1
    refine ihp _ _ _ fun d _ => ?_
    split
    · rename_i hd
      exact ihq _ _ _ fun e he => h e (by omega)
    · rfl
  | loop p ih => exact atMost_forward ih _ _ _ _ h

/-- More turns than there are characters left change nothing. -/
theorem atMost_eq {turn : Matching} (hturn : turn.Forward) :
    ∀ (n m : Nat) (c : Place) (next : Place → Option Nat), c.rest.length < n → c.rest.length < m →
      atMost turn n c next = atMost turn m c next
  | 0, _, _, _, hn, _ => by omega
  | _, 0, _, _, _, hm => by omega
  | n + 1, m + 1, c, next, hn, hm => by
    rw [atMost, atMost]
    congr 1
    refine hturn _ _ _ fun d _ => ?_
    split
    · rename_i hd
      exact atMost_eq hturn n m d next (by omega) (by omega)
    · rfl

/-- A loop is a turn that goes somewhere and the loop again, or nothing. -/
theorem run_loop (p : Pattern) (c : Place) (next : Place → Option Nat) :
    (loop p).run c next =
      (p.run c fun d => if d.rest.length < c.rest.length then (loop p).run d next else none).or (next c) := by
  rw [run, atMost]
  congr 1
  refine run_forward p _ _ _ fun d _ => ?_
  split
  · rename_i hd
    exact atMost_eq (run_forward p) _ _ d next (by omega) (by omega)
  · rfl

/-! ## Ready searches -/

namespace Search

/-- A search is ready at a place if each class keeps what comes next finds one place further on. -/
def Ready : Pattern → Search → Place → (Place → Option Nat) → Prop
  | .empty, .empty, _, _ => True
  | .one s, .one t found, c, next => s = t ∧ ∀ x rest, c.rest = x :: rest → found = next ⟨some x, rest⟩
  | .wordEdge, .wordEdge, _, _ => True
  | .textStart, .textStart, _, _ => True
  | .textEnd, .textEnd, _, _ => True
  | .seq p q, .seq u v, c, next => Ready p u c (fun d => q.run d next) ∧ Ready q v c next
  | .alt p q, .alt u v, c, next => Ready p u c next ∧ Ready q v c next
  | .maybe p q, .maybe u v, c, next => Ready p u c (fun d => q.run d next) ∧ Ready q v c next
  | .loop p, .loop u, c, next => Ready p u c (fun d => (Pattern.loop p).run d next)
  | _, _, _, _ => False

/-- At the end of a text a search is ready as it starts. -/
theorem ready_ofPattern (p : Pattern) (before : Option Char) (next : Place → Option Nat) :
    Ready p (ofPattern p) ⟨before, []⟩ next := by
  induction p generalizing next with
  | empty | wordEdge | textStart | textEnd => trivial
  | one s => exact ⟨rfl, fun _ _ h => nomatch h⟩
  | seq p q ihp ihq | maybe p q ihp ihq => exact ⟨ihp _, ihq _⟩
  | alt p q ihp ihq => exact ⟨ihp _, ihq _⟩
  | loop p ih => exact ih _

/-- A ready search finds what matching finds, also if at the place itself something else comes next. -/
theorem find_eq_run {p : Pattern} {u : Search} {c : Place} {k l : Place → Option Nat}
    (hu : Ready p u c l) (h : ∀ d, d.rest.length < c.rest.length → k d = l d) :
    u.find c.gap (k c) = p.run c k := by
  induction p generalizing u k l with
  | empty =>
    cases u <;> try exact hu.elim
    rfl
  | one s =>
    cases u <;> try exact hu.elim
    rename_i t found
    obtain ⟨rfl, hf⟩ := hu
    obtain ⟨before, rest⟩ := c
    cases rest with
    | nil => cases found <;> rfl
    | cons x rest =>
      have : found = k ⟨some x, rest⟩ := (hf x rest rfl).trans (h ⟨some x, rest⟩ (by simp)).symm
      subst this
      simp only [run, find, Place.gap, List.head?_cons]
      cases k ⟨some x, rest⟩ <;> simp
  | wordEdge =>
    cases u <;> try exact hu.elim
    simp only [run, find]
    cases k c <;> simp
  | textStart =>
    cases u <;> try exact hu.elim
    rfl
  | textEnd =>
    cases u <;> try exact hu.elim
    obtain ⟨before, rest⟩ := c
    cases rest <;> rfl
  | seq p q ihp ihq =>
    cases u <;> try exact hu.elim
    simp only [run, find]
    rw [ihq hu.2 h]
    exact ihp (k := fun d => q.run d k) hu.1 fun d hd => run_forward q _ _ _ fun e he => h e (by omega)
  | alt p q ihp ihq =>
    cases u <;> try exact hu.elim
    simp only [run, find, ihp hu.1 h, ihq hu.2 h]
  | maybe p q ihp ihq =>
    cases u <;> try exact hu.elim
    simp only [run, find]
    congr 1
    have hn := ihp (k := fun d => if d.rest.length < c.rest.length then q.run d k else none) hu.1
      fun d hd => by
        simp only [hd, ↓reduceIte]
        exact run_forward q _ _ _ fun e he => h e (by omega)
    simpa using hn
  | loop p ih =>
    cases u <;> try exact hu.elim
    rw [run_loop]
    simp only [find]
    congr 1
    have hn := ih (k := fun d => if d.rest.length < c.rest.length then (Pattern.loop p).run d k else none) hu
      fun d hd => by
        simp only [hd, ↓reduceIte]
        exact run_forward (.loop p) _ _ _ fun e he => h e (by omega)
    simpa using hn

theorem find_of_ready {p : Pattern} {u : Search} {c : Place} {next : Place → Option Nat} (hu : Ready p u c next) :
    u.find c.gap (next c) = p.run c next := find_eq_run hu fun _ _ => rfl

/-- A step to the start finds what matching finds. -/
theorem advance_fst (g : Gap) (u : Search) (next : Option Nat) : (u.advance g next).1 = u.find g next := by
  induction u generalizing next with
  | seq p q ihp ihq => simp only [advance, find, ihp, ihq]
  | alt p q ihp ihq => simp only [advance, find, ihp, ihq]
  | _ => rfl

/-- A step to the start makes a search ready there. -/
theorem ready_advance {p : Pattern} {u : Search} {x : Char} {before : Option Char} {rest : List Char}
    {k : Place → Option Nat} (hu : Ready p u ⟨some x, rest⟩ k) :
    Ready p (u.advance (Place.gap ⟨some x, rest⟩) (k ⟨some x, rest⟩)).2 ⟨before, x :: rest⟩ k := by
  induction p generalizing u k with
  | empty | wordEdge | textStart | textEnd =>
    cases u <;> try exact hu.elim
    trivial
  | one s =>
    cases u <;> try exact hu.elim
    refine ⟨hu.1, fun y ys h => ?_⟩
    obtain ⟨rfl, rfl⟩ := List.cons.inj h
    rfl
  | seq p q ihp ihq =>
    cases u <;> try exact hu.elim
    simp only [advance, advance_fst, find_of_ready hu.2]
    exact ⟨ihp hu.1, ihq hu.2⟩
  | alt p q ihp ihq =>
    cases u <;> try exact hu.elim
    exact ⟨ihp hu.1, ihq hu.2⟩
  | maybe p q ihp ihq =>
    cases u <;> try exact hu.elim
    simp only [advance, advance_fst, find_of_ready hu.2]
    exact ⟨ihp hu.1, ihq hu.2⟩
  | loop p ih =>
    cases u <;> try exact hu.elim
    rename_i u
    have hv := find_of_ready (u := .loop u) (p := .loop p) hu
    simp only [find] at hv
    simp only [advance, hv]
    exact ih (k := fun d => (Pattern.loop p).run d k) hu

/-! ## Lengths -/

/-- The places of a text whose start is given from its end back, up to those found before. -/
theorem lengthsUpTo_eq {p : Pattern} {u : Search} (before rest : List Char) (found : List (Option Nat))
    (hu : Ready p u ⟨before.head?, rest⟩ fun _ => some 0)
    (hf : (placesFrom before.head? rest).map p.matchLength? = p.matchLength? ⟨before.head?, rest⟩ :: found) :
    u.lengthsUpTo rest.head? found before = (placesFrom none (before.reverse ++ rest)).map p.matchLength? := by
  induction before generalizing u rest found with
  | nil =>
    rw [lengthsUpTo, advance_fst]
    exact (congrArg (· :: found) (find_of_ready hu)).trans hf.symm
  | cons x before ih =>
    rw [lengthsUpTo, List.reverse_cons, List.append_assoc]
    have hfind : (u.advance ⟨some x, rest.head?⟩ (some 0)).1 = p.matchLength? ⟨some x, rest⟩ :=
      (advance_fst _ _ _).trans (find_of_ready hu)
    simp only [hfind]
    refine ih (x :: rest) _ (ready_advance hu) ?_
    simp only [placesFrom, List.map_cons]
    exact congrArg _ hf

end Search

/-- **The search finds what matching finds**: for each place of a text the length of the match that starts there. -/
theorem lengths_eq (p : Pattern) (text : List Char) :
    p.lengths text = (placesFrom none text).map p.matchLength? := by
  have h := Search.lengthsUpTo_eq (p := p) (u := .ofPattern p) text.reverse [] []
    (Search.ready_ofPattern p _ _) rfl
  simpa [lengths] using h

end SiteEdit.Pattern
