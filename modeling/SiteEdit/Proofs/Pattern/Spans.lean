import SiteEdit.Pattern.Agreement
/-!
# What a pattern can match

`Spans p before w after`: the pattern can match the text `w` where it stands between these two characters.  Nothing is
said about the order in which the ways of matching are tried.  What `Pattern.run` finds is such a text (`spans_of_run`),
and if there is one it finds something (`run_of_spans`).  So a search finds nothing exactly if no part of the text can
be matched (`occursIn_eq_false_iff`).
-/
namespace SiteEdit.Pattern

/-! ## Neighbours -/

/-- The character before the place behind a text. -/
def lastOf (before : Option Char) : List Char → Option Char
  | [] => before
  | c :: w => lastOf (some c) w

/-- The character after the place in front of a text. -/
def headOf (after : Option Char) : List Char → Option Char
  | [] => after
  | c :: _ => some c

theorem lastOf_append : ∀ (b : Option Char) (u v : List Char), lastOf b (u ++ v) = lastOf (lastOf b u) v
  | _, [], _ => rfl
  | _, c :: u, v => lastOf_append (some c) u v

theorem headOf_append (a : Option Char) (u v : List Char) : headOf a (u ++ v) = headOf (headOf a v) u := by
  cases u <;> rfl

theorem head?_append_eq (u v : List Char) : (u ++ v).head? = headOf v.head? u := by
  cases u <;> rfl

/-- Behind a text that is not empty it does not matter what stands before. -/
theorem lastOf_of_ne_nil {w : List Char} (h : w ≠ []) (b b' : Option Char) : lastOf b w = lastOf b' w := by
  cases w with
  | nil => exact absurd rfl h
  | cons c w => rfl

theorem headOf_of_ne_nil {w : List Char} (h : w ≠ []) (a a' : Option Char) : headOf a w = headOf a' w := by
  cases w with
  | nil => exact absurd rfl h
  | cons c w => rfl

/-- A text uses up something exactly if it is not empty. -/
theorem length_lt_append {u rest : List Char} : rest.length < (u ++ rest).length ↔ u ≠ [] := by
  rw [List.length_append, ← List.length_pos_iff]
  omega

/-! ## Spans -/

/-- A pattern can match the text where it stands between these two characters. -/
inductive Spans : Pattern → Option Char → List Char → Option Char → Prop where
  | empty {b a : Option Char} : Spans .empty b [] a
  | one {s : CharClass} {c : Char} {b a : Option Char} (h : s.has c = true) : Spans (.one s) b [c] a
  | wordEdge {b a : Option Char} (h : (Gap.mk b a).isWordEdge = true) : Spans .wordEdge b [] a
  | textStart {a : Option Char} : Spans .textStart none [] a
  | textEnd {b : Option Char} : Spans .textEnd b [] none
  | seq {p q : Pattern} {b a : Option Char} {u v : List Char} (hp : Spans p b u (headOf a v))
    (hq : Spans q (lastOf b u) v a) : Spans (.seq p q) b (u ++ v) a
  | left {p q : Pattern} {b a : Option Char} {w : List Char} (h : Spans p b w a) : Spans (.alt p q) b w a
  | right {p q : Pattern} {b a : Option Char} {w : List Char} (h : Spans q b w a) : Spans (.alt p q) b w a
  | once {p q : Pattern} {b a : Option Char} {u v : List Char} (hu : u ≠ []) (hp : Spans p b u (headOf a v))
    (hq : Spans q (lastOf b u) v a) : Spans (.maybe p q) b (u ++ v) a
  | never {p q : Pattern} {b a : Option Char} : Spans (.maybe p q) b [] a
  | turn {p : Pattern} {b a : Option Char} {u v : List Char} (hu : u ≠ []) (hp : Spans p b u (headOf a v))
    (hq : Spans (.loop p) (lastOf b u) v a) : Spans (.loop p) b (u ++ v) a
  | done {p : Pattern} {b a : Option Char} : Spans (.loop p) b [] a

/-! ## Matching finds spans -/

/-- From the place `c` on, `n` characters were found by going through `w` and handing the place behind it on. -/
structure Through (c : Place) (next : Place → Option Nat) (n : Nat) (w rest : List Char) (m : Nat) : Prop where
  text : c.rest = w ++ rest
  found : next ⟨lastOf c.before w, rest⟩ = some m
  count : n = w.length + m

namespace Through

variable {c : Place} {next next' : Place → Option Nat} {n k m : Nat} {u v rest rest' : List Char}

theorem nil (h : next c = some n) : Through c next n [] c.rest n := ⟨rfl, h, (Nat.zero_add n).symm⟩

theorem append (h : Through c next n u rest k) (h' : Through ⟨lastOf c.before u, rest⟩ next' k v rest' m) :
    Through c next' n (u ++ v) rest' m where
  text := by
    have hr : rest = v ++ rest' := h'.text
    rw [h.text, hr, List.append_assoc]
  found := by
    rw [lastOf_append]
    exact h'.found
  count := by rw [h.count, h'.count, List.length_append, Nat.add_assoc]

/-- A turn that goes somewhere goes through a text that is not empty. -/
theorem of_turn (h : Through c (fun d => if d.rest.length < c.rest.length then next d else none) n u rest k) :
    u ≠ [] ∧ Through c next n u rest k := by
  have hf := h.found
  dsimp only at hf
  split at hf
  · rename_i hlt
    rw [h.text] at hlt
    exact ⟨length_lt_append.1 hlt, h.text, hf, h.count⟩
  · cases hf

end Through

/-- What is found from a place on goes through a text that the pattern can match there. -/
def Matching.Sound (turn : Matching) (p : Pattern) : Prop :=
  ∀ (c : Place) (next : Place → Option Nat) (n : Nat), turn c next = some n →
    ∃ w rest m, Through c next n w rest m ∧ p.Spans c.before w rest.head?

theorem atMost_sound {p : Pattern} (hp : Matching.Sound p.run p) : ∀ n : Nat, Matching.Sound (atMost p.run n) (.loop p)
  | 0, c, next, n, h => ⟨[], c.rest, n, .nil h, .done⟩
  | k + 1, c, next, n, h => by
    rw [atMost, Option.or_eq_some_iff] at h
    rcases h with h | ⟨-, h⟩
    · obtain ⟨u, rest, m, hu, hs⟩ := hp _ _ _ h
      obtain ⟨hne, hu⟩ := hu.of_turn
      obtain ⟨v, rest', m', hv, hs'⟩ := atMost_sound hp k _ _ _ hu.found
      rw [show rest = v ++ rest' from hv.text, head?_append_eq] at hs
      exact ⟨u ++ v, rest', m', hu.append hv, .turn hne hs hs'⟩
    · exact ⟨[], c.rest, n, .nil h, .done⟩

theorem spans_of_run (p : Pattern) : Matching.Sound p.run p := by
  induction p with
  | empty => exact fun c next n h => ⟨[], c.rest, n, .nil h, .empty⟩
  | one s =>
    rintro ⟨b, rest⟩ next n h
    cases rest with
    | nil => cases h
    | cons x rest =>
      simp only [run] at h
      split at h
      · rename_i hx
        obtain ⟨m, hm, rfl⟩ := Option.map_eq_some_iff.1 h
        exact ⟨[x], rest, m, ⟨rfl, hm, Nat.add_comm m 1⟩, .one hx⟩
      · cases h
  | wordEdge =>
    intro c next n h
    simp only [run] at h
    split at h
    · rename_i he
      exact ⟨[], c.rest, n, .nil h, .wordEdge he⟩
    · cases h
  | textStart =>
    rintro ⟨b, rest⟩ next n h
    cases b with
    | none => exact ⟨[], rest, n, .nil h, .textStart⟩
    | some x => cases h
  | textEnd =>
    rintro ⟨b, rest⟩ next n h
    cases rest with
    | nil => exact ⟨[], [], n, .nil h, .textEnd⟩
    | cons x rest => cases h
  | seq p q ihp ihq =>
    intro c next n h
    obtain ⟨u, rest, m, hu, hs⟩ := ihp _ _ _ h
    obtain ⟨v, rest', m', hv, hs'⟩ := ihq _ _ _ hu.found
    rw [show rest = v ++ rest' from hv.text, head?_append_eq] at hs
    exact ⟨u ++ v, rest', m', hu.append hv, .seq hs hs'⟩
  | alt p q ihp ihq =>
    intro c next n h
    rw [run, Option.or_eq_some_iff] at h
    rcases h with h | ⟨-, h⟩
    · obtain ⟨w, rest, m, hw, hs⟩ := ihp _ _ _ h
      exact ⟨w, rest, m, hw, .left hs⟩
    · obtain ⟨w, rest, m, hw, hs⟩ := ihq _ _ _ h
      exact ⟨w, rest, m, hw, .right hs⟩
  | maybe p q ihp ihq =>
    intro c next n h
    rw [run, Option.or_eq_some_iff] at h
    rcases h with h | ⟨-, h⟩
    · obtain ⟨u, rest, m, hu, hs⟩ := ihp _ _ _ h
      obtain ⟨hne, hu⟩ := hu.of_turn
      obtain ⟨v, rest', m', hv, hs'⟩ := ihq _ _ _ hu.found
      rw [show rest = v ++ rest' from hv.text, head?_append_eq] at hs
      exact ⟨u ++ v, rest', m', hu.append hv, .once hne hs hs'⟩
    · exact ⟨[], c.rest, n, .nil h, .never⟩
  | loop p ih => exact fun c next n h => atMost_sound ih _ c next n h

/-- If a pattern can match a text and what comes next succeeds behind it, something is found. -/
theorem run_of_spans {p : Pattern} {b a : Option Char} {w : List Char} (h : p.Spans b w a) {rest : List Char}
    (ha : a = rest.head?) {next : Place → Option Nat} (hn : (next ⟨lastOf b w, rest⟩).isSome = true) :
    (p.run ⟨b, w ++ rest⟩ next).isSome = true := by
  induction h generalizing rest next with
  | empty => exact hn
  | one hc =>
    simp only [run, List.cons_append, List.nil_append, hc, if_true, Option.isSome_map]
    exact hn
  | wordEdge he =>
    subst ha
    simp only [run, Place.gap, List.nil_append, he, if_true]
    exact hn
  | textStart => exact hn
  | textEnd =>
    cases rest with
    | nil => exact hn
    | cons x rest => cases ha
  | seq hp hq ihp ihq =>
    subst ha
    rw [lastOf_append] at hn
    rw [run, List.append_assoc]
    exact ihp (head?_append_eq _ _).symm (ihq rfl hn)
  | left h ih =>
    rw [run, Option.isSome_or, ih ha hn, Bool.true_or]
  | right h ih =>
    rw [run, Option.isSome_or, ih ha hn, Bool.or_true]
  | @once p q b a u v hu hp hq ihp ihq =>
    subst ha
    rw [lastOf_append] at hn
    rw [run, List.append_assoc, Option.isSome_or, ihp (head?_append_eq _ _).symm, Bool.true_or]
    dsimp only
    rw [if_pos (length_lt_append.2 hu)]
    exact ihq rfl hn
  | never =>
    rw [run, Option.isSome_or, Bool.or_eq_true_iff]
    exact .inr hn
  | @turn p b a u v hu hp hq ihp ihq =>
    subst ha
    rw [lastOf_append] at hn
    rw [run_loop, List.append_assoc, Option.isSome_or, ihp (head?_append_eq _ _).symm, Bool.true_or]
    dsimp only
    rw [if_pos (length_lt_append.2 hu)]
    exact ihq rfl hn
  | done =>
    rw [run_loop, Option.isSome_or, Bool.or_eq_true_iff]
    exact .inr hn

theorem spans_of_matchLength? {p : Pattern} {b : Option Char} {text : List Char} {n : Nat}
    (h : p.matchLength? ⟨b, text⟩ = some n) :
    ∃ w rest, text = w ++ rest ∧ w.length = n ∧ p.Spans b w rest.head? := by
  obtain ⟨w, rest, m, ⟨hr, hm, rfl⟩, hw⟩ := spans_of_run p _ _ _ h
  cases hm
  exact ⟨w, rest, hr, rfl, hw⟩

theorem spans_of_matchLength?_append {p : Pattern} {b : Option Char} {w rest : List Char}
    (h : p.matchLength? ⟨b, w ++ rest⟩ = some w.length) : p.Spans b w rest.head? := by
  obtain ⟨w', rest', heq, hl, hs⟩ := spans_of_matchLength? h
  obtain ⟨rfl, rfl⟩ := List.append_inj heq hl.symm
  exact hs

theorem matchLength?_eq_none_iff {p : Pattern} {b : Option Char} {text : List Char} :
    p.matchLength? ⟨b, text⟩ = none ↔ ∀ w rest, text = w ++ rest → ¬ p.Spans b w rest.head? := by
  constructor
  · rintro h w rest rfl hw
    have hs : (p.matchLength? ⟨b, w ++ rest⟩).isSome = true := run_of_spans hw rfl rfl
    rw [h] at hs
    cases hs
  · intro h
    refine Option.eq_none_iff_forall_ne_some.2 fun n hn => ?_
    obtain ⟨w, rest, hr, -, hw⟩ := spans_of_matchLength? hn
    exact h w rest hr hw

/-! ## Clear texts -/

/-- No part of a text that stands behind the character `b` can be matched. -/
def ClearFrom (p : Pattern) (b : Option Char) (text : List Char) : Prop :=
  ∀ u w rest, text = u ++ (w ++ rest) → ¬ p.Spans (lastOf b u) w rest.head?

/-- No part of a text can be matched. -/
def Clear (p : Pattern) (text : List Char) : Prop := p.ClearFrom none text

theorem clearFrom_cons {p : Pattern} {b : Option Char} {c : Char} {text : List Char} :
    p.ClearFrom b (c :: text) ↔ p.matchLength? ⟨b, c :: text⟩ = none ∧ p.ClearFrom (some c) text := by
  rw [matchLength?_eq_none_iff]
  refine ⟨fun h => ⟨h [], fun u w rest ht => h (c :: u) w rest (congrArg _ ht)⟩, fun ⟨h, ht⟩ u w rest hw => ?_⟩
  cases u with
  | nil => exact h w rest hw
  | cons x u =>
    rw [List.cons_append, List.cons.injEq] at hw
    obtain ⟨rfl, hw⟩ := hw
    exact ht u w rest hw

theorem clearFrom_nil {p : Pattern} {b : Option Char} : p.ClearFrom b [] ↔ p.matchLength? ⟨b, []⟩ = none := by
  rw [matchLength?_eq_none_iff]
  refine ⟨fun h => h [], fun h u w rest hw => ?_⟩
  obtain ⟨rfl, -⟩ := List.append_eq_nil_iff.1 hw.symm
  exact h w rest hw

theorem clearFrom_iff {p : Pattern} : ∀ {text : List Char} {b : Option Char},
    p.ClearFrom b text ↔ ∀ c ∈ placesFrom b text, p.matchLength? c = none
  | [], b => by
    rw [clearFrom_nil, placesFrom, List.forall_mem_singleton]
  | c :: text, b => by
    rw [clearFrom_cons, clearFrom_iff, placesFrom, List.forall_mem_cons]

/-- A search finds nothing exactly if no part of the text can be matched. -/
theorem occursIn_eq_false_iff {p : Pattern} {text : List Char} : p.occursIn text = false ↔ p.Clear text := by
  rw [Clear, clearFrom_iff, occursIn, lengths_eq, List.any_eq_false]
  simp only [List.mem_map, forall_exists_index, and_imp, forall_apply_eq_imp_iff₂, Option.not_isSome_iff_eq_none]

end SiteEdit.Pattern
