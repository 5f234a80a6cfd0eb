import Mathlib.Tactic.ByContra
import SiteEdit.Proofs.Pattern.Traits
/-!
# Matches on their own

What follows a match can be cut off, and what stands before it: the same match is found in what is left
(`matchLength?_alone`).  A pattern that looks at the edges of words does so at the ends of a match alone, where the match
has a character of a word.
-/
namespace SiteEdit

/-! ## Characters of words -/

namespace Text

/-- Every range of the second table lies in one of the first.  The tables are walked once, side by side. -/
def covers : Ranges → Ranges → Bool
  | _, [] => true
  | [], _ => false
  | (lo, hi) :: t, (l, h) :: d =>
    Nat.ble lo l && covers t (((l, h) :: d).dropWhile fun r => Nat.ble lo r.1 && Nat.ble r.2 hi)

theorem inRanges_dropWhile {n hi : Nat} {p : Nat × Nat → Bool} (hp : ∀ r, p r = true → r.2 ≤ hi) (hn : hi < n) :
    ∀ {d : Ranges}, inRanges d n = true → inRanges (d.dropWhile p) n = true
  | (l, h) :: d, hd => by
    by_cases hr : p (l, h) = true
    · have hle := hp (l, h) hr
      dsimp only at hle
      rw [inRanges] at hd
      rw [List.dropWhile_cons_of_pos hr]
      split at hd
      · cases hd
      · rw [if_neg (by omega)] at hd
        exact inRanges_dropWhile hp hn hd
    · rwa [List.dropWhile_cons_of_neg hr]

theorem inRanges_of_covers {n : Nat} : ∀ {t d : Ranges}, covers t d = true → inRanges d n = true →
    inRanges t n = true
  | _, [], _, hd => by cases hd
  | [], _ :: _, h, _ => by cases h
  | (lo, hi) :: t, (l, h) :: d, hc, hd => by
    rw [covers, Bool.and_eq_true, Nat.ble_eq] at hc
    have hl : l ≤ n := by
      by_contra hlt
      rw [inRanges, if_pos (by omega)] at hd
      cases hd
    rw [inRanges, if_neg (by omega)]
    split
    · rfl
    · have hdropped : ∀ r : Nat × Nat, (Nat.ble lo r.1 && Nat.ble r.2 hi) = true → r.2 ≤ hi := by
        intro r hr
        rw [Bool.and_eq_true, Nat.ble_eq, Nat.ble_eq] at hr
        exact hr.2
      exact inRanges_of_covers hc.2 (inRanges_dropWhile hdropped (by omega) hd)

theorem wordRanges_covers : covers wordRanges digitRanges = true := by decide +kernel

theorem isWord_of_isDecimalDigit {c : Char} (h : isDecimalDigit c = true) : isWord c = true := by
  by_cases hlt : c.toNat < 128
  · -- The second range starts past ASCII.
    have hdigit : 0x30 ≤ c.toNat ∧ c.toNat ≤ 0x39 := by
      rw [isDecimalDigit, digitRanges, inRanges, inRanges] at h
      split at h
      · cases h
      · split at h
        · omega
        · rw [if_pos (by omega)] at h
          cases h
    exact isWord_of_isAlphanum (isAlphanum_iff.2 (.inl ⟨hdigit.1, hdigit.2⟩))
  · rw [isWord, if_neg hlt]
    exact inRanges_of_covers wordRanges_covers h

end Text

/-- The set lists characters of words alone. -/
def CharItem.inWord : CharItem → Bool
  | .digit | .word => true
  | .blank => false
  | .range lo hi => (CharItem.range lo hi).inAlphanum

def CharClass.inWord (s : CharClass) : Bool := !s.negated && s.items.all CharItem.inWord

theorem CharItem.isWord_of_has {i : CharItem} {c : Char} (hi : i.inWord = true) (h : i.has c = true) :
    Text.isWord c = true := by
  cases i with
  | range lo hi' => exact Text.isWord_of_isAlphanum (isAlphanum_of_has (i := .range lo hi') hi h)
  | blank => cases hi
  | digit => exact Text.isWord_of_isDecimalDigit h
  | word => exact h

theorem CharClass.isWord_of_has {s : CharClass} {c : Char} (hs : s.inWord = true) (h : s.has c = true) :
    Text.isWord c = true := by
  rw [inWord, Bool.and_eq_true, Bool.not_eq_true', List.all_eq_true] at hs
  rw [has_eq_any hs.1, List.any_eq_true] at h
  obtain ⟨i, hi, hc⟩ := h
  exact CharItem.isWord_of_has (hs.2 i hi) hc

namespace Pattern

variable {p q : Pattern} {b b' a a' : Option Char} {w u v t rest : List Char}

/-- A match begins with a character of a word. -/
def startsInWord : Pattern → Bool
  | .one s => s.inWord
  | .seq p _ => p.startsInWord
  | .alt p q => p.startsInWord && q.startsInWord
  | _ => false

theorem Spans.head_isWord (h : p.Spans b w a) (hp : p.startsInWord = true) :
    ∃ c v, w = c :: v ∧ Text.isWord c = true := by
  induction h with
  | empty | wordEdge | textStart | textEnd | never | done | once | turn => cases hp
  | @one s c b a hc => exact ⟨c, [], rfl, CharClass.isWord_of_has hp hc⟩
  | @seq p q b a u v _ _ ihp _ =>
    obtain ⟨c, u', rfl, hc⟩ := ihp hp
    exact ⟨c, u' ++ v, rfl, hc⟩
  | left _ ih =>
    rw [startsInWord, Bool.and_eq_true] at hp
    exact ih hp.1
  | right _ ih =>
    rw [startsInWord, Bool.and_eq_true] at hp
    exact ih hp.2

/-- The last character of a match, if it has one, is one of a word. -/
def lastInWord : Pattern → Bool
  | .one s => s.inWord
  | .seq p q | .maybe p q => q.lastInWord && (q.consumes || p.lastInWord)
  | .alt p q => p.lastInWord && q.lastInWord
  | .loop p => p.lastInWord
  | .empty | .wordEdge | .textStart | .textEnd => true

theorem Spans.last_isWord (h : p.Spans b w a) (hp : p.lastInWord = true) (hw : w ≠ []) :
    (lastOf b w).any Text.isWord = true := by
  induction h with
  | empty | wordEdge | textStart | textEnd | never | done => exact absurd rfl hw
  | one hc => exact CharClass.isWord_of_has hp hc
  | @seq p q _ _ u v hu hv ihp ihq | @once p q _ _ u v _ hu hv ihp ihq =>
    rw [lastInWord, Bool.and_eq_true, Bool.or_eq_true] at hp
    rw [lastOf_append]
    by_cases hne : v = []
    · subst hne
      rcases hp.2 with hq | hp
      · exact absurd rfl (hv.ne_nil hq)
      · exact ihp hp (by simpa using hw)
    · exact ihq hp.1 hne
  | left _ ih =>
    rw [lastInWord, Bool.and_eq_true] at hp
    exact ih hp.1 hw
  | right _ ih =>
    rw [lastInWord, Bool.and_eq_true] at hp
    exact ih hp.2 hw
  | @turn p _ _ u v hu _ _ ihp ihq =>
    rw [lastOf_append]
    by_cases hne : v = []
    · subst hne
      exact ihp hp hu
    · exact ihq hp hne

/-! ## Texts that are cut off -/

/-- What was found from a place on is found again once the text is cut off `n` characters further on, if it ends by then;
and if nothing was found nothing is. -/
structure Cut (n : Nat) (found found' : Option Nat) : Prop where
  missed : found = none → found' = none
  kept : ∀ k ≤ n, found = some k → found' = some k

theorem Cut.or {n : Nat} {x x' y y' : Option Nat} (hx : Cut n x x') (hy : Cut n y y') : Cut n (x.or y) (x'.or y') := by
  cases x with
  | none => simpa [hx.missed rfl] using hy
  | some k =>
    refine ⟨by simp, fun m hm he => ?_⟩
    obtain rfl : k = m := by simpa using he
    simp [hx.kept k hm rfl]

theorem Cut.refl (n : Nat) (x : Option Nat) : Cut n x x := ⟨id, fun _ _ h => h⟩

/-- The edges of words in a text are the same with other neighbours. -/
def SameEdges (b b' a a' : Option Char) (u : List Char) : Prop :=
  ∀ v t, u = v ++ t → (Gap.mk (lastOf b v) (headOf a t)).isWordEdge = (Gap.mk (lastOf b' v) (headOf a' t)).isWordEdge

theorem SameEdges.suffix (h : SameEdges b b' a a' (v ++ t)) : SameEdges (lastOf b v) (lastOf b' v) a a' t := by
  intro x y hxy
  have hv := h (v ++ x) y (by rw [hxy, List.append_assoc])
  rwa [lastOf_append, lastOf_append] at hv

/-- Between two characters of the text an edge does not depend on its neighbours. -/
theorem sameEdges_of_ends
    (hb : (Gap.mk b (headOf a u)).isWordEdge = (Gap.mk b' (headOf a' u)).isWordEdge)
    (ha : (Gap.mk (lastOf b u) a).isWordEdge = (Gap.mk (lastOf b' u) a').isWordEdge) : SameEdges b b' a a' u := by
  rintro v t rfl
  cases v with
  | nil => exact hb
  | cons c v =>
    cases t with
    | nil =>
      rw [List.append_nil] at ha
      exact ha
    | cons d t => rfl

/-- What comes next finds behind every part of a text, once `rest` is cut off, what it found with it. -/
def CutNext (rest : List Char) (b b' : Option Char) (u : List Char) (next next' : Place → Option Nat) : Prop :=
  ∀ v t, u = v ++ t → Cut t.length (next ⟨lastOf b v, t ++ rest⟩) (next' ⟨lastOf b' v, t⟩)

namespace CutNext

variable {next next' : Place → Option Nat}

theorem here (h : CutNext rest b b' u next next') : Cut u.length (next ⟨b, u ++ rest⟩) (next' ⟨b', u⟩) := h [] u rfl

theorem suffix (h : CutNext rest b b' (v ++ t) next next') :
    CutNext rest (lastOf b v) (lastOf b' v) t next next' := by
  rintro x y rfl
  have hy := h (v ++ x) y (by simp)
  rwa [lastOf_append, lastOf_append] at hy

/-- A turn goes somewhere in both texts or in none. -/
theorem turn
    (hn : ∀ v t, u = v ++ t → t.length < u.length →
      Cut t.length (next ⟨lastOf b v, t ++ rest⟩) (next' ⟨lastOf b' v, t⟩)) :
    CutNext rest b b' u (fun d => if d.rest.length < (u ++ rest).length then next d else none)
      (fun d => if d.rest.length < u.length then next' d else none) := by
  intro v t hu
  dsimp only
  by_cases hlt : t.length < u.length
  · rw [if_pos hlt, if_pos (by simpa using hlt)]
    exact hn v t hu hlt
  · rw [if_neg hlt, if_neg (by simpa using hlt)]
    exact .refl _ _

end CutNext

/-- A way of matching finds once `rest` is cut off what it found with it, if what comes next does. -/
def Matching.CutsOff (turn : Matching) (edgeless : Bool) (rest : List Char) : Prop :=
  ∀ {b b' : Option Char} {u : List Char} {next next' : Place → Option Nat},
    (edgeless = true ∨ SameEdges b b' rest.head? none u) → CutNext rest b b' u next next' →
      Cut u.length (turn ⟨b, u ++ rest⟩ next) (turn ⟨b', u⟩ next')

theorem cutsOff_loop (hp : Matching.CutsOff p.run p.edgeless rest) :
    Matching.CutsOff (loop p).run p.edgeless rest := by
  intro b b' u
  induction hl : u.length using Nat.strongRecOn generalizing b b' u with
  | ind n ih =>
    subst hl
    intro next next' he hn
    rw [run_loop, run_loop]
    refine .or (hp he (.turn fun v t hu hlt => ?_)) hn.here
    subst hu
    exact ih _ hlt rfl (he.imp id SameEdges.suffix) hn.suffix

theorem run_cutsOff (hp : p.unanchored = true) : Matching.CutsOff p.run p.edgeless rest := by
  intro b b' u next next' he hn
  induction p generalizing b b' u next next' with
  | empty => exact hn.here
  | one s =>
    cases u with
    | nil =>
      -- With `rest` the match may go on here, but then it ends behind the cut.
      refine ⟨fun _ => rfl, fun k hk hf => ?_⟩
      simp only [run] at hf
      split at hf
      · cases hf
      · split at hf
        · obtain ⟨m, -, rfl⟩ := Option.map_eq_some_iff.1 hf
          simp at hk
        · cases hf
    | cons x u =>
      have hx : Cut u.length (next ⟨some x, u ++ rest⟩) (next' ⟨some x, u⟩) := hn [x] u rfl
      by_cases hs : s.has x = true
      · simp only [run, List.cons_append, hs, if_true]
        refine ⟨fun h => ?_, fun k hk h => ?_⟩
        · rw [Option.map_eq_none_iff] at h ⊢
          exact hx.missed h
        · obtain ⟨m, hm, rfl⟩ := Option.map_eq_some_iff.1 h
          rw [hx.kept m (by simpa using hk) hm, Option.map_some]
      · simp only [run, List.cons_append, hs, Bool.false_eq_true, if_false]
        exact .refl _ _
  | wordEdge =>
    have hedge : (Place.mk b (u ++ rest)).gap.isWordEdge = (Place.mk b' u).gap.isWordEdge := by
      have hend := (he.resolve_left (by simp [edgeless])) [] u rfl
      rw [← head?_append_eq] at hend
      cases u <;> exact hend
    simp only [run, hedge]
    split
    · exact hn.here
    · exact .refl _ _
  | textStart | textEnd => cases hp
  | seq p q ihp ihq =>
    rw [unanchored, Bool.and_eq_true] at hp
    rw [edgeless, Bool.and_eq_true] at he
    refine ihp hp.1 (he.imp And.left id) fun v t hu => ?_
    subst hu
    exact ihq hp.2 (he.imp And.right SameEdges.suffix) hn.suffix
  | alt p q ihp ihq =>
    rw [unanchored, Bool.and_eq_true] at hp
    rw [edgeless, Bool.and_eq_true] at he
    exact .or (ihp hp.1 (he.imp And.left id) hn) (ihq hp.2 (he.imp And.right id) hn)
  | maybe p q ihp ihq =>
    rw [unanchored, Bool.and_eq_true] at hp
    rw [edgeless, Bool.and_eq_true] at he
    refine .or (ihp hp.1 (he.imp And.left id) (.turn fun v t hu hlt => ?_)) hn.here
    subst hu
    exact ihq hp.2 (he.imp And.right SameEdges.suffix) hn.suffix
  | loop p ih => exact cutsOff_loop (fun he hn => ih hp he hn) he hn

/-! ## Matches that stand alone -/

theorem matchLength?_cut (hp : p.unanchored = true) (he : p.edgeless = true ∨ SameEdges b b' rest.head? none w)
    (h : p.matchLength? ⟨b, w ++ rest⟩ = some w.length) : p.matchLength? ⟨b', w⟩ = some w.length :=
  (run_cutsOff hp he fun _ t _ => .refl t.length (some 0)).kept w.length (Nat.le_refl _) h

/-- A pattern that looks at no edge of a word, or at the ends of a match alone, where the match has a character of a
word. -/
def standsAlone : Pattern → Bool
  | .seq .wordEdge q =>
    q.unanchored && q.startsInWord && (q.edgeless || (q.endsAtEdge && q.lastInWord))
  | p => p.unanchored && p.edgeless

/-- **A match is found, whole, when it stands alone.** -/
theorem matchLength?_alone (hp : p.standsAlone = true) (h : p.matchLength? ⟨b, w ++ rest⟩ = some w.length) :
    p.matchLength? ⟨none, w⟩ = some w.length := by
  unfold standsAlone at hp
  split at hp
  · rename_i q
    simp only [Bool.and_eq_true, Bool.or_eq_true] at hp
    obtain ⟨⟨hu, hstart⟩, hends⟩ := hp
    rw [matchLength?, run, run] at h ⊢
    split at h
    · rename_i hedge
      have hspans := spans_of_matchLength?_append h
      obtain ⟨c, v, rfl, hc⟩ := hspans.head_isWord hstart
      have hedge' : (Place.mk none (c :: v)).gap.isWordEdge = true := by simp [Place.gap, Gap.isWordEdge, hc]
      rw [if_pos hedge']
      refine matchLength?_cut hu (hends.imp id fun hend => sameEdges_of_ends ?_ ?_) h
      · exact hedge.trans hedge'.symm
      · have hlast := hspans.last_isWord hend.2 (List.cons_ne_nil c v)
        rw [hspans.edge_after hend.1, lastOf_of_ne_nil (List.cons_ne_nil c v) none b]
        simp [Gap.isWordEdge, hlast]
    · cases h
  · rw [Bool.and_eq_true] at hp
    exact matchLength?_cut hp.1 (.inl hp.2) h

end Pattern

end SiteEdit
