import SiteEdit.Proofs.Pattern.Spans
/-!
# Traits of patterns

What can be read off a pattern about the texts that it matches: characters that never occur in them, how they begin and
end, and how much of their surroundings matters.  Each trait can be computed, and has one theorem that says what it
means for `Spans`.  Only `settles` is about the order in which the ways are tried: it says where a match ends.
-/
namespace SiteEdit

/-! ## Classes -/

theorem isAlphanum_iff {c : Char} : c.isAlphanum = true ↔
    ('0' ≤ c ∧ c ≤ '9') ∨ ('A' ≤ c ∧ c ≤ 'Z') ∨ ('a' ≤ c ∧ c ≤ 'z') := by
  show ((c.isUpper || c.isLower) || c.isDigit) = true ↔ _
  rw [Bool.or_eq_true_iff, Bool.or_eq_true_iff, or_comm]
  refine or_congr (Bool.and_eq_true_iff.trans ?_) (or_congr decide_eq_true_iff (Bool.and_eq_true_iff.trans ?_))
  · exact and_congr decide_eq_true_iff decide_eq_true_iff
  · exact and_congr decide_eq_true_iff decide_eq_true_iff

/-- The set lists letters and digits of ASCII alone. -/
def CharItem.inAlphanum : CharItem → Bool
  | .range lo hi => ('0' ≤ lo && hi ≤ '9') || ('A' ≤ lo && hi ≤ 'Z') || ('a' ≤ lo && hi ≤ 'z')
  | _ => false

theorem CharItem.isAlphanum_of_has {i : CharItem} {c : Char} (hs : i.inAlphanum = true) (h : i.has c = true) :
    c.isAlphanum = true := by
  cases i with
  | range lo hi =>
    simp only [inAlphanum, has, Bool.or_eq_true, Bool.and_eq_true, decide_eq_true_eq, or_assoc] at hs h
    have hin : ∀ {x y : Char}, x ≤ lo ∧ hi ≤ y → x ≤ c ∧ c ≤ y := fun hb =>
      ⟨Char.le_trans hb.1 h.1, Char.le_trans h.2 hb.2⟩
    exact isAlphanum_iff.2 (hs.imp hin (Or.imp hin hin))
  | blank | digit | word => cases hs

namespace CharClass

/-- The class has letters and digits of ASCII alone. -/
def inAlphanum (s : CharClass) : Bool := !s.negated && s.items.all CharItem.inAlphanum

/-- The class has all letters and digits of ASCII. -/
def coversAlphanum (s : CharClass) : Bool :=
  !s.negated && [CharItem.range '0' '9', .range 'A' 'Z', .range 'a' 'z'].all s.items.contains

/-- The class lists single characters that belong to no word. -/
def offWord (s : CharClass) : Bool :=
  !s.negated && s.items.all fun
    | .range lo hi => lo == hi && !Text.isWord lo
    | _ => false

variable {s : CharClass} {c : Char}

theorem has_eq_any (h : s.negated = false) (c : Char) : s.has c = s.items.any (·.has c) := by
  simp [has, h]

theorem isAlphanum_of_has (hs : s.inAlphanum = true) (h : s.has c = true) : c.isAlphanum = true := by
  rw [inAlphanum, Bool.and_eq_true, Bool.not_eq_true', List.all_eq_true] at hs
  rw [has_eq_any hs.1, List.any_eq_true] at h
  obtain ⟨i, hi, hc⟩ := h
  exact CharItem.isAlphanum_of_has (hs.2 i hi) hc

theorem has_of_isAlphanum (hs : s.coversAlphanum = true) (h : c.isAlphanum = true) : s.has c = true := by
  simp only [coversAlphanum, Bool.and_eq_true, Bool.not_eq_true', List.all_cons, List.all_nil, List.contains_iff_mem,
    Bool.and_true] at hs
  obtain ⟨hneg, hdigit, hupper, hlower⟩ := hs
  rw [has_eq_any hneg, List.any_eq_true]
  rcases isAlphanum_iff.1 h with h | h | h
  · exact ⟨_, hdigit, Bool.and_eq_true_iff.2 ⟨decide_eq_true h.1, decide_eq_true h.2⟩⟩
  · exact ⟨_, hupper, Bool.and_eq_true_iff.2 ⟨decide_eq_true h.1, decide_eq_true h.2⟩⟩
  · exact ⟨_, hlower, Bool.and_eq_true_iff.2 ⟨decide_eq_true h.1, decide_eq_true h.2⟩⟩

theorem isWord_eq_false_of_has (hs : s.offWord = true) (h : s.has c = true) : Text.isWord c = false := by
  rw [offWord, Bool.and_eq_true, Bool.not_eq_true', List.all_eq_true] at hs
  rw [has_eq_any hs.1, List.any_eq_true] at h
  obtain ⟨i, hi, hc⟩ := h
  have hi := hs.2 i hi
  cases i with
  | range lo hi' =>
    simp only [Bool.and_eq_true, beq_iff_eq, Bool.not_eq_true', CharItem.has, decide_eq_true_eq] at hi hc
    obtain ⟨rfl, hw⟩ := hi
    rwa [← Char.le_antisymm hc.1 hc.2]
  | blank | digit | word => cases hi

end CharClass

namespace Pattern

variable {p q : Pattern} {b a : Option Char} {w : List Char}

/-! ## Characters -/

/-- No match has the character. -/
def avoids (x : Char) : Pattern → Bool
  | .one s => !s.has x
  | .seq p q | .alt p q | .maybe p q => p.avoids x && q.avoids x
  | .loop p => p.avoids x
  | .empty | .wordEdge | .textStart | .textEnd => true

theorem Spans.notMem {x : Char} (h : p.Spans b w a) (hp : p.avoids x = true) : x ∉ w := by
  induction h with
  | empty | wordEdge | textStart | textEnd | never | done => exact List.not_mem_nil
  | one hc =>
    rw [List.mem_singleton]
    rintro rfl
    rw [avoids, hc] at hp
    cases hp
  | seq _ _ ihp ihq | once _ _ _ ihp ihq =>
    rw [avoids, Bool.and_eq_true] at hp
    exact fun hx => (List.mem_append.1 hx).elim (ihp hp.1) (ihq hp.2)
  | left _ ih =>
    rw [avoids, Bool.and_eq_true] at hp
    exact ih hp.1
  | right _ ih =>
    rw [avoids, Bool.and_eq_true] at hp
    exact ih hp.2
  | turn _ _ _ ihp ihq => exact fun hx => (List.mem_append.1 hx).elim (ihp hp) (ihq hp)

/-- No match is empty. -/
def consumes : Pattern → Bool
  | .one _ => true
  | .seq p q => p.consumes || q.consumes
  | .alt p q => p.consumes && q.consumes
  | _ => false

theorem Spans.ne_nil (h : p.Spans b w a) (hp : p.consumes = true) : w ≠ [] := by
  induction h with
  | empty | wordEdge | textStart | textEnd | never | done | once | turn => cases hp
  | one => exact List.cons_ne_nil _ _
  | seq _ _ ihp ihq =>
    rw [consumes, Bool.or_eq_true] at hp
    rcases hp with hp | hq
    · exact List.append_ne_nil_of_left_ne_nil (ihp hp) _
    · exact List.append_ne_nil_of_right_ne_nil _ (ihq hq)
  | left _ ih =>
    rw [consumes, Bool.and_eq_true] at hp
    exact ih hp.1
  | right _ ih =>
    rw [consumes, Bool.and_eq_true] at hp
    exact ih hp.2

/-- A match begins with a letter or digit of ASCII. -/
def startsAlphanum : Pattern → Bool
  | .one s => s.inAlphanum
  | .seq p q => p.startsAlphanum || (p == .wordEdge && q.startsAlphanum)
  | .alt p q => p.startsAlphanum && q.startsAlphanum
  | _ => false

theorem Spans.head_isAlphanum (h : p.Spans b w a) (hp : p.startsAlphanum = true) :
    ∃ c v, w = c :: v ∧ c.isAlphanum = true := by
  induction h with
  | empty | wordEdge | textStart | textEnd | never | done | once | turn => cases hp
  | @one s c b a hc => exact ⟨c, [], rfl, CharClass.isAlphanum_of_has hp hc⟩
  | @seq p q b a u v hu _ ihp ihq =>
    rw [startsAlphanum, Bool.or_eq_true, Bool.and_eq_true, beq_iff_eq] at hp
    rcases hp with hp | ⟨rfl, hq⟩
    · obtain ⟨c, u', rfl, hc⟩ := ihp hp
      exact ⟨c, u' ++ v, rfl, hc⟩
    · cases hu
      exact ihq hq
  | left _ ih =>
    rw [startsAlphanum, Bool.and_eq_true] at hp
    exact ih hp.1
  | right _ ih =>
    rw [startsAlphanum, Bool.and_eq_true] at hp
    exact ih hp.2

/-! ## Surroundings -/

/-- A match begins at the edge of a word. -/
def startsAtEdge : Pattern → Bool
  | .wordEdge => true
  | .seq p _ => p.startsAtEdge
  | _ => false

theorem Spans.edge_before (h : p.Spans b w a) (hp : p.startsAtEdge = true) :
    (Gap.mk b (headOf a w)).isWordEdge = true := by
  induction h with
  | wordEdge he => exact he
  | seq _ _ ihp _ =>
    rw [headOf_append]
    exact ihp hp
  | _ => cases hp

/-- A match ends at the edge of a word. -/
def endsAtEdge : Pattern → Bool
  | .wordEdge => true
  | .seq _ q => q.endsAtEdge
  | _ => false

theorem Spans.edge_after (h : p.Spans b w a) (hp : p.endsAtEdge = true) :
    (Gap.mk (lastOf b w) a).isWordEdge = true := by
  induction h with
  | wordEdge he => exact he
  | seq _ _ _ ihq =>
    rw [lastOf_append]
    exact ihq hp
  | _ => cases hp

/-- Matches do not depend on where the text begins and ends. -/
def unanchored : Pattern → Bool
  | .textStart | .textEnd => false
  | .seq p q | .alt p q | .maybe p q => p.unanchored && q.unanchored
  | .loop p => p.unanchored
  | .empty | .one _ | .wordEdge => true

/-- Matches do not depend on the edges of words. -/
def edgeless : Pattern → Bool
  | .wordEdge => false
  | .seq p q | .alt p q | .maybe p q => p.edgeless && q.edgeless
  | .loop p => p.edgeless
  | .empty | .one _ | .textStart | .textEnd => true

/-- The word edges at the two ends of a text stay when its neighbours change, if the pattern looks at word edges. -/
structure EdgesStay (p : Pattern) (b b' a a' : Option Char) (w : List Char) : Prop where
  before : p.edgeless = false → (Gap.mk b (headOf a w)).isWordEdge = true →
    (Gap.mk b' (headOf a' w)).isWordEdge = true
  after : p.edgeless = false → (Gap.mk (lastOf b w) a).isWordEdge = true →
    (Gap.mk (lastOf b' w) a').isWordEdge = true

namespace EdgesStay

variable {b' a' : Option Char} {u v : List Char}

theorem mono (h : EdgesStay p b b' a a' w) (hq : q.edgeless = false → p.edgeless = false) :
    EdgesStay q b b' a a' w := ⟨fun he => h.before (hq he), fun he => h.after (hq he)⟩

/-- Between two parts of the text there are its own characters, unless a part is empty. -/
theorem between (h : EdgesStay p b b' a a' (u ++ v)) (hp : p.edgeless = false)
    (he : (Gap.mk (lastOf b u) (headOf a v)).isWordEdge = true) :
    (Gap.mk (lastOf b' u) (headOf a' v)).isWordEdge = true := by
  cases v with
  | nil =>
    have hr := h.after hp
    rw [List.append_nil] at hr
    exact hr he
  | cons c v =>
    cases u with
    | nil => exact h.before hp he
    | cons d u => exact he

theorem left (h : EdgesStay p b b' a a' (u ++ v)) : EdgesStay p b b' (headOf a v) (headOf a' v) u where
  before hp := by
    rw [← headOf_append, ← headOf_append]
    exact h.before hp
  after := h.between

theorem right (h : EdgesStay p b b' a a' (u ++ v)) : EdgesStay p (lastOf b u) (lastOf b' u) a a' v where
  before := h.between
  after hp := by
    rw [← lastOf_append, ← lastOf_append]
    exact h.after hp

end EdgesStay

/-- A match can be moved to other neighbours if the word edges at its two ends stay. -/
theorem Spans.move (h : p.Spans b w a) {b' a' : Option Char} (hp : p.unanchored = true)
    (he : EdgesStay p b b' a a' w) : p.Spans b' w a' := by
  induction h generalizing b' a' with
  | empty => exact .empty
  | one hc => exact .one hc
  | wordEdge hedge => exact .wordEdge (he.before rfl hedge)
  | textStart | textEnd => cases hp
  | @seq p q _ _ _ _ _ _ ihp ihq =>
    rw [unanchored, Bool.and_eq_true] at hp
    have hep : EdgesStay p _ _ _ _ _ := he.mono fun hf => by rw [edgeless, hf, Bool.false_and]
    have heq : EdgesStay q _ _ _ _ _ := he.mono fun hf => by rw [edgeless, hf, Bool.and_false]
    exact .seq (ihp hp.1 hep.left) (ihq hp.2 heq.right)
  | left _ ih =>
    rw [unanchored, Bool.and_eq_true] at hp
    exact .left (ih hp.1 (he.mono fun hf => by rw [edgeless, hf, Bool.false_and]))
  | right _ ih =>
    rw [unanchored, Bool.and_eq_true] at hp
    exact .right (ih hp.2 (he.mono fun hf => by rw [edgeless, hf, Bool.and_false]))
  | @once p q _ _ _ _ hu _ _ ihp ihq =>
    rw [unanchored, Bool.and_eq_true] at hp
    have hep : EdgesStay p _ _ _ _ _ := he.mono fun hf => by rw [edgeless, hf, Bool.false_and]
    have heq : EdgesStay q _ _ _ _ _ := he.mono fun hf => by rw [edgeless, hf, Bool.and_false]
    exact .once hu (ihp hp.1 hep.left) (ihq hp.2 heq.right)
  | never => exact .never
  | @turn p _ _ _ _ hu _ _ ihp ihq =>
    have hep : EdgesStay p _ _ _ _ _ := he.mono fun hf => hf
    exact .turn hu (ihp hp hep.left) (ihq hp he.right)
  | done => exact .done

/-! ## Ends -/

/-- At the gap no word is continued by a letter or digit of ASCII. -/
def Gap.isSettled (g : Gap) : Bool := !(g.before.any Text.isWord && g.after.any Char.isAlphanum)

theorem Gap.isSettled_of_isWordEdge {g : Gap} (h : g.isWordEdge = true) : g.isSettled = true := by
  obtain ⟨b, a⟩ := g
  cases a with
  | none => simp [isSettled]
  | some c =>
    cases hc : c.isAlphanum with
    | false => simp [isSettled, hc]
    | true =>
      have hw := Text.isWord_of_isAlphanum hc
      simp only [isWordEdge, Option.any_some, hw, bne_iff_ne, ne_eq, Bool.not_eq_true] at h
      simp [isSettled, h]

/-- At a settled gap a letter or digit of ASCII begins a word. -/
theorem Gap.isWordEdge_of_isSettled {b : Option Char} {c : Char} (h : (Gap.mk b (some c)).isSettled = true)
    (hc : c.isAlphanum = true) : (Gap.mk b (some c)).isWordEdge = true := by
  have hw := Text.isWord_of_isAlphanum hc
  simp only [isSettled, Option.any_some, hc, Bool.and_true, Bool.not_eq_true'] at h
  simp only [isWordEdge, Option.any_some, hw, h]
  rfl

/-- What comes next always succeeds. -/
def Total (next : Place → Option Nat) : Prop := ∀ d, (next d).isSome = true

theorem total_loop {next : Place → Option Nat} (hn : Total next) (p : Pattern) :
    Total fun d => (loop p).run d next := fun d => by
  show ((loop p).run d next).isSome = true
  rw [run_loop, Option.isSome_or, hn, Bool.or_true]

/-- A loop over a class goes on to the first character that is not in the class. -/
theorem run_loop_one {s : CharClass} {next : Place → Option Nat} (hn : Total next) :
    ∀ (rest : List Char) (b : Option Char) (n : Nat), (loop (.one s)).run ⟨b, rest⟩ next = some n →
      ∃ w rest' m, Through ⟨b, rest⟩ next n w rest' m ∧ (∀ x ∈ w, s.has x = true) ∧ rest'.head?.any s.has = false
  | [], b, n, h => by
    rw [run_loop] at h
    exact ⟨[], [], n, .nil h, List.forall_mem_nil _, rfl⟩
  | x :: rest, b, n, h => by
    rw [run_loop] at h
    cases hx : s.has x with
    | false =>
      simp only [run, hx, Bool.false_eq_true, if_false, Option.none_or] at h
      exact ⟨[], x :: rest, n, .nil h, List.forall_mem_nil _, hx⟩
    | true =>
      -- What comes behind the turn succeeds, so the loop does not stop here.
      obtain ⟨k, hk⟩ : ∃ k, (loop (.one s)).run ⟨some x, rest⟩ next = some k :=
        Option.isSome_iff_exists.1 (total_loop hn (.one s) ⟨some x, rest⟩)
      have hlt : rest.length < (x :: rest).length := Nat.lt_succ_self _
      simp only [run.eq_2, hx, if_true, hlt] at h
      rw [hk, Option.map_some, Option.some_or, Option.some.injEq] at h
      obtain ⟨w, rest', m, hw, hs, hstop⟩ := run_loop_one hn rest (some x) k hk
      have hone : Through ⟨b, x :: rest⟩ (fun d => (loop (.one s)).run d next) n [x] rest k :=
        ⟨rfl, hk, h.symm.trans (Nat.add_comm k 1)⟩
      exact ⟨x :: w, rest', m, hone.append hw, List.forall_mem_cons.2 ⟨hx, hs⟩, hstop⟩

/-- A loop over characters that belong to no word. -/
def strays : Pattern → Bool
  | .loop (.one s) => s.offWord
  | _ => false

/-- The first way of matching ends where no letter or digit of ASCII continues a word. -/
def settles : Pattern → Bool
  | .wordEdge => true
  | .loop (.one s) => s.coversAlphanum
  | .seq p q => q.settles || (p.settles && q.strays)
  | _ => false

theorem exists_mem_lastOf : ∀ {w : List Char} (b : Option Char), w ≠ [] → ∃ x ∈ w, lastOf b w = some x
  | [x], _, _ => ⟨x, List.mem_singleton.2 rfl, rfl⟩
  | x :: y :: w, _, _ => by
    obtain ⟨z, hz, hl⟩ := exists_mem_lastOf (w := y :: w) (some x) (List.cons_ne_nil y w)
    exact ⟨z, List.mem_cons_of_mem x hz, hl⟩

/-- Characters that belong to no word keep a gap settled. -/
theorem isSettled_append {s : CharClass} (hs : s.offWord = true) {b : Option Char} {v rest : List Char}
    (hv : ∀ x ∈ v, s.has x = true) (h : (Gap.mk b (v ++ rest).head?).isSettled = true) :
    (Gap.mk (lastOf b v) rest.head?).isSettled = true := by
  by_cases hne : v = []
  · subst hne
    exact h
  · obtain ⟨x, hx, hl⟩ := exists_mem_lastOf b hne
    simp [Gap.isSettled, hl, CharClass.isWord_eq_false_of_has hs (hv x hx)]

theorem settled_of_run (hp : p.settles = true) {next : Place → Option Nat} (hn : Total next) {c : Place} {n : Nat}
    (h : p.run c next = some n) :
    ∃ w rest m, Through c next n w rest m ∧ (Gap.mk (lastOf c.before w) rest.head?).isSettled = true := by
  induction p generalizing next c n with
  | empty | one | textStart | textEnd | alt | maybe => cases hp
  | wordEdge =>
    simp only [run] at h
    split at h
    · rename_i he
      exact ⟨[], c.rest, n, .nil h, Gap.isSettled_of_isWordEdge he⟩
    · cases h
  | loop p _ =>
    cases p with
    | one s =>
      obtain ⟨w, rest, m, hw, -, hstop⟩ := run_loop_one hn c.rest c.before n h
      refine ⟨w, rest, m, hw, ?_⟩
      cases hx : rest.head? with
      | none => simp [Gap.isSettled]
      | some x =>
        rw [hx, Option.any_some] at hstop
        have hd : x.isAlphanum = false := by
          rw [← Bool.not_eq_true]
          intro hd
          rw [CharClass.has_of_isAlphanum hp hd] at hstop
          cases hstop
        simp [Gap.isSettled, hd]
    | _ => cases hp
  | seq p q ihp ihq =>
    rw [settles, Bool.or_eq_true, Bool.and_eq_true] at hp
    rcases hp with hq | ⟨hp, hq⟩
    · obtain ⟨u, rest, m, hu, -⟩ := spans_of_run p _ _ _ h
      obtain ⟨v, rest', m', hv, hg⟩ := ihq hq hn hu.found
      rw [← lastOf_append] at hg
      exact ⟨u ++ v, rest', m', hu.append hv, hg⟩
    · unfold strays at hq
      split at hq
      · rename_i s
        obtain ⟨u, rest, m, hu, hg⟩ := ihp hp (total_loop hn _) h
        obtain ⟨v, rest', m', hv, hs, -⟩ := run_loop_one hn _ _ _ hu.found
        rw [show rest = v ++ rest' from hv.text] at hg
        have hg := isSettled_append hq hs hg
        rw [← lastOf_append] at hg
        exact ⟨u ++ v, rest', m', hu.append hv, hg⟩
      · cases hq

/-- Behind the match of a pattern that settles, no letter or digit of ASCII continues a word. -/
theorem settled_of_matchLength? (hp : p.settles = true) {w rest : List Char}
    (h : p.matchLength? ⟨b, w ++ rest⟩ = some w.length) : (Gap.mk (lastOf b w) rest.head?).isSettled = true := by
  obtain ⟨w', rest', m, ⟨hr, hm, hl⟩, hg⟩ := settled_of_run hp (fun _ => rfl) h
  cases hm
  obtain ⟨rfl, rfl⟩ := List.append_inj hr hl
  exact hg

end Pattern

end SiteEdit
