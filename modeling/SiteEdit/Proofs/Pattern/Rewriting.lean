import SiteEdit.Proofs.Pattern.Traits
/-!
# Replacing matches

`Rewrites p by_ b text out`: from left to right each match of the pattern gives way to the text `by_`, and all else is
kept.  A placeholder is a text in brackets.  If no match has a bracket, what matches after placeholders were put in
stood in the text before, so a text without a match of `q` still has none when the matches of `p` are replaced
(`clearFrom_of_rewrites`), unless `q` begins at a word edge that the placeholder has made (`Calms`).
-/
namespace SiteEdit.Pattern

variable {p q : Pattern} {by_ : List Char}

/-! ## Rewriting -/

/-- The matches of the pattern in a text behind the character `b` give way to `by_`. -/
inductive Rewrites (p : Pattern) (by_ : List Char) : Option Char → List Char → List Char → Prop where
  | nil {b : Option Char} : Rewrites p by_ b [] []
  | keep {b : Option Char} {c : Char} {text out : List Char} (h : p.matchLength? ⟨b, c :: text⟩ = none)
    (hr : Rewrites p by_ (some c) text out) : Rewrites p by_ b (c :: text) (c :: out)
  | swap {b : Option Char} {w rest out : List Char} (hw : w ≠ []) (h : p.matchLength? ⟨b, w ++ rest⟩ = some w.length)
    (hr : Rewrites p by_ (lastOf b w) rest out) : Rewrites p by_ b (w ++ rest) (by_ ++ out)

/-- The last characters of a match are skipped. -/
theorem replaceLengths_skip (f : Place → Option Nat) (rest : List Char) : ∀ (b : Option Char) (w : List Char),
    replaceLengths by_ w.length (w ++ rest) ((placesFrom b (w ++ rest)).map f) =
      replaceLengths by_ 0 rest ((placesFrom (lastOf b w) rest).map f)
  | _, [] => rfl
  | _, c :: w => replaceLengths_skip f rest (some c) w

theorem rewrites_replaceLengths (hp : p.consumes = true) : ∀ (n : Nat) (b : Option Char) (text : List Char),
    text.length ≤ n → Rewrites p by_ b text (replaceLengths by_ 0 text ((placesFrom b text).map p.matchLength?))
  | _, _, [], _ => .nil
  | n + 1, b, c :: text, hn => by
    rw [List.length_cons] at hn
    rw [placesFrom, List.map_cons]
    cases hm : p.matchLength? ⟨b, c :: text⟩ with
    | none => exact .keep hm (rewrites_replaceLengths hp n (some c) text (by omega))
    | some k =>
      obtain ⟨w, rest, hw, rfl, hs⟩ := spans_of_matchLength? hm
      cases w with
      | nil => exact absurd rfl (hs.ne_nil hp)
      | cons d w =>
        rw [List.cons_append, List.cons.injEq] at hw
        obtain ⟨rfl, rfl⟩ := hw
        rw [List.length_append] at hn
        rw [List.length_cons, replaceLengths, replaceLengths_skip]
        exact .swap (w := c :: w) (List.cons_ne_nil c w) hm (rewrites_replaceLengths hp n _ rest (by omega))

theorem rewrites_replaceAll (hp : p.consumes = true) (text : List Char) :
    Rewrites p by_ none text (p.replaceAll by_ text) := by
  rw [replaceAll, lengths_eq]
  exact rewrites_replaceLengths hp text.length none text (Nat.le_refl _)

/-! ## Placeholders -/

/-- A text in brackets. -/
def bracketed (name : List Char) : List Char := '[' :: (name ++ [']'])

/-- No match has a bracket, no match is empty, and no match depends on where the text ends. -/
structure Plain (p : Pattern) : Prop where
  opening : p.avoids '[' = true
  closing : p.avoids ']' = true
  consumes : p.consumes = true
  unanchored : p.unanchored = true

/-- The four together, as they are computed. -/
def isPlain (p : Pattern) : Bool := p.avoids '[' && p.avoids ']' && p.consumes && p.unanchored

theorem plain_of_isPlain (h : p.isPlain = true) : p.Plain := by
  simp only [isPlain, Bool.and_eq_true] at h
  exact ⟨h.1.1.1, h.1.1.2, h.1.2, h.2⟩

/-- What has no bracket and stands at the head of the rewritten text stood at the head of the text. -/
theorem Rewrites.kept {name : List Char} {b : Option Char} {text out y : List Char} :
    ∀ {w : List Char}, Rewrites p (bracketed name) b text out → out = w ++ y → '[' ∉ w →
      ∃ rest, text = w ++ rest ∧ Rewrites p (bracketed name) (lastOf b w) rest y
  | [], h, hout, _ => by
    subst hout
    exact ⟨text, rfl, h⟩
  | c :: w, h, hout, hw => by
    rw [List.mem_cons, not_or] at hw
    rw [List.cons_append] at hout
    cases h with
    | nil => cases hout
    | keep _ hr =>
      rw [List.cons.injEq] at hout
      obtain ⟨rfl, rfl⟩ := hout
      obtain ⟨rest, rfl, hrest⟩ := Rewrites.kept hr rfl hw.2
      exact ⟨rest, rfl, hrest⟩
    | swap _ _ _ => exact absurd (List.cons.inj hout).1 hw.1

/-- The rewritten text begins as the text does, or with a bracket in the place of a match. -/
theorem Rewrites.head?_eq {name : List Char} {b : Option Char} {text out : List Char}
    (h : Rewrites p (bracketed name) b text out) :
    out.head? = text.head? ∨ ∃ w rest, text = w ++ rest ∧ p.Spans b w rest.head? := by
  cases h with
  | nil => exact .inl rfl
  | keep _ _ => exact .inl rfl
  | @swap _ w rest _ _ hm _ => exact .inr ⟨w, rest, rfl, spans_of_matchLength?_append hm⟩

/-! ## Clear texts stay clear -/

theorem clearFrom_nil_of_consumes {b : Option Char} (hq : q.consumes = true) : q.ClearFrom b [] := by
  rw [clearFrom_nil, matchLength?_eq_none_iff]
  intro w y hy hs
  exact hs.ne_nil hq (List.append_eq_nil_iff.1 hy.symm).1

theorem clearFrom_append {rest : List Char} : ∀ {u : List Char} {b : Option Char},
    q.ClearFrom b (u ++ rest) → q.ClearFrom (lastOf b u) rest
  | [], _, h => h
  | _ :: u, _, h => clearFrom_append (u := u) (clearFrom_cons.1 h).2

/-- A match cannot reach past a character that it does not have. -/
theorem matchLength?_append_cons {x : Char} (hx : q.avoids x = true) {u : List Char} {b : Option Char}
    (h : q.matchLength? ⟨b, u ++ [x]⟩ = none) (rest : List Char) : q.matchLength? ⟨b, u ++ x :: rest⟩ = none := by
  rw [matchLength?_eq_none_iff] at h ⊢
  intro w y hy hs
  have hxw := hs.notMem hx
  -- The match ends before the character, so it is a match in the shorter text.
  obtain ⟨v, rfl, rfl⟩ : ∃ v, u = w ++ v ∧ y = v ++ x :: rest := by
    rcases List.append_eq_append_iff.1 hy with ⟨v, rfl, hv⟩ | ⟨v, rfl, rfl⟩
    · cases v with
      | nil => exact ⟨[], by simp, by simpa using hv.symm⟩
      | cons d v =>
        obtain ⟨rfl, -⟩ := List.cons.inj hv
        exact absurd (List.mem_append_right u List.mem_cons_self) hxw
    · exact ⟨v, rfl, rfl⟩
  refine h w (v ++ [x]) (by simp) ?_
  rw [head?_append_eq] at hs ⊢
  exact hs

theorem clearFrom_append_cons {x : Char} (hx : q.avoids x = true) {rest : List Char}
    (hrest : q.ClearFrom (some x) rest) : ∀ {u : List Char} {b : Option Char},
    q.ClearFrom b (u ++ [x]) → q.ClearFrom b (u ++ x :: rest)
  | [], _, h => clearFrom_cons.2 ⟨matchLength?_append_cons (u := []) hx (clearFrom_cons.1 h).1 rest, hrest⟩
  | c :: u, _, h => clearFrom_cons.2 ⟨matchLength?_append_cons (u := c :: u) hx (clearFrom_cons.1 h).1 rest,
      clearFrom_append_cons hx hrest (clearFrom_cons.1 h).2⟩

/-- What stands before a bracket does not matter, as no match begins with one. -/
theorem clearFrom_of_clear_bracketed (hq : q.Plain) {name : List Char} (hname : q.Clear (bracketed name))
    (b : Option Char) : q.ClearFrom b (bracketed name) := by
  refine clearFrom_cons.2 ⟨?_, (clearFrom_cons.1 hname).2⟩
  rw [matchLength?_eq_none_iff]
  intro w y hy hs
  cases w with
  | nil => exact hs.ne_nil hq.consumes rfl
  | cons c w =>
    obtain ⟨rfl, -⟩ := List.cons.inj hy
    exact hs.notMem hq.opening List.mem_cons_self

theorem bracketed_append (name rest : List Char) : bracketed name ++ rest = ('[' :: name) ++ ']' :: rest := by
  simp [bracketed]

/-- A placeholder without a match parts two texts. -/
theorem clearFrom_bracketed (hq : q.Plain) {name rest : List Char} (hname : q.Clear (bracketed name))
    (hrest : q.ClearFrom (some ']') rest) (b : Option Char) : q.ClearFrom b (bracketed name ++ rest) := by
  rw [bracketed_append]
  exact clearFrom_append_cons hq.closing hrest (clearFrom_of_clear_bracketed hq hname b)

/-- Putting a bracket in the place of a match of `p` makes no word edge at which a match of `q` could begin or end: `q`
does not look at word edges, or `p` begins at one, and where a match of `p` ends there is one already if a match of `q`
could begin there. -/
def Calms (p q : Pattern) : Prop :=
  q.edgeless = true ∨ p.startsAtEdge = true ∧
    ∀ b w rest y a, p.matchLength? ⟨b, w ++ rest⟩ = some w.length → q.Spans (some ']') y a → y ≠ [] →
      headOf a y = rest.head? → (Gap.mk (lastOf b w) rest.head?).isWordEdge = true

/-- What can be computed for it: a match of `p` ends at a word edge, or where no letter or digit continues a word while
matches of `q` begin with one. -/
def calms (p q : Pattern) : Bool :=
  q.edgeless || (p.startsAtEdge && (p.endsAtEdge || (p.settles && q.startsAlphanum)))

theorem calms_sound (h : calms p q = true) : Calms p q := by
  rw [calms, Bool.or_eq_true, Bool.and_eq_true, Bool.or_eq_true, Bool.and_eq_true] at h
  refine h.imp id fun ⟨hp, h⟩ => ⟨hp, fun b w rest y a hm hy hne hhead => ?_⟩
  rcases h with hend | ⟨hset, hstart⟩
  · exact (spans_of_matchLength?_append hm).edge_after hend
  · have hg := settled_of_matchLength? hset hm
    obtain ⟨c, v, rfl, hc⟩ := hy.head_isAlphanum hstart
    rw [← hhead] at hg ⊢
    exact Gap.isWordEdge_of_isSettled hg hc

/-- Where a match of `q` begins in the rewritten text, there is a word edge in the text, if it matters: the place is the
same, or it follows a match. -/
def EdgeKept (q : Pattern) (b b' : Option Char) (text : List Char) : Prop :=
  b' = b ∨ b' = some ']' ∧ (q.edgeless = true ∨ ∀ y a, q.Spans (some ']') y a → y ≠ [] → headOf a y = text.head? →
    (Gap.mk b text.head?).isWordEdge = true)

theorem edgeKept_of_calms (hc : Calms p q) {b : Option Char} {w rest : List Char}
    (h : p.matchLength? ⟨b, w ++ rest⟩ = some w.length) : EdgeKept q (lastOf b w) (some ']') rest := by
  rcases hc with hc | ⟨-, hc⟩
  · exact .inr ⟨rfl, .inl hc⟩
  · exact .inr ⟨rfl, .inr fun y a => hc b w rest y a h⟩

/-- A match at the head of the rewritten text is a match at the head of the text. -/
theorem spans_of_rewrites (hq : q.Plain) (hc : Calms p q) {name : List Char} {b b' : Option Char}
    {text w y : List Char} (hb : EdgeKept q b b' text) (h : Rewrites p (bracketed name) b text (w ++ y))
    (hs : q.Spans b' w y.head?) : ∃ rest, text = w ++ rest ∧ q.Spans b w rest.head? := by
  have hne : w ≠ [] := hs.ne_nil hq.consumes
  obtain ⟨rest, rfl, hr⟩ := h.kept rfl (hs.notMem hq.opening)
  have hhead : headOf y.head? w = (w ++ rest).head? := by
    rw [head?_append_eq, headOf_of_ne_nil hne]
  have hlast : lastOf b' w = lastOf b w := lastOf_of_ne_nil hne b' b
  -- Inside the match nothing has changed.  Before it there may be a bracket now, and behind it too.
  refine ⟨rest, rfl, hs.move hq.unanchored ⟨fun hw he => ?_, fun hw he => ?_⟩⟩
  · rw [← head?_append_eq]
    rcases hb with rfl | ⟨rfl, hb | hb⟩
    · rwa [← hhead]
    · rw [hb] at hw
      cases hw
    · exact hb w _ hs hne hhead
  · rw [hlast] at he
    rcases hr.head?_eq with hy | ⟨u, rest', rfl, hu⟩
    · rwa [← hy]
    · rcases hc with hc | ⟨hp, -⟩
      · rw [hc] at hw
        cases hw
      · rw [head?_append_eq]
        exact hu.edge_before hp

/-- **Replacing the matches of `p` leaves no match of `q`**, if there was none before or `q` is `p`. -/
theorem clearFrom_of_rewrites (hq : q.Plain) (hc : Calms p q) {name : List Char} (hname : q.Clear (bracketed name))
    {b : Option Char} {text out : List Char} (h : Rewrites p (bracketed name) b text out)
    (hno : q = p ∨ q.ClearFrom b text) {b' : Option Char} (hb : EdgeKept q b b' text) : q.ClearFrom b' out := by
  induction h generalizing b' with
  | nil => exact clearFrom_nil_of_consumes hq.consumes
  | @keep b c text out hm hr ih =>
    -- A match that begins here would be a match in the text, where there is none.
    have hnone : q.matchLength? ⟨b, c :: text⟩ = none := by
      rcases hno with rfl | hno
      · exact hm
      · exact (clearFrom_cons.1 hno).1
    refine clearFrom_cons.2 ⟨?_, ih (hno.imp id fun h => (clearFrom_cons.1 h).2) (.inl rfl)⟩
    rw [matchLength?_eq_none_iff] at hnone ⊢
    intro w y hy hs
    have hkeep : Rewrites p (bracketed name) b (c :: text) (w ++ y) := by
      rw [← hy]
      exact .keep hm hr
    obtain ⟨rest, ht, hs'⟩ := spans_of_rewrites hq hc hb hkeep hs
    exact hnone w rest ht hs'
  | @swap b w rest out hw hm hr ih =>
    refine clearFrom_bracketed hq hname (ih (hno.imp id fun h => clearFrom_append h) ?_) b'
    exact edgeKept_of_calms hc hm

/-! ## What is kept -/

theorem Rewrites.skip {x : Char} (hx : p.avoids x = true) {rest : List Char} : ∀ {u : List Char} {b : Option Char}
    {out : List Char}, p.ClearFrom b (u ++ [x]) → Rewrites p by_ b (u ++ x :: rest) out →
      ∃ out', out = u ++ x :: out' ∧ Rewrites p by_ (some x) rest out'
  | u, b, out, hc, h => by
    generalize ht : u ++ x :: rest = text at h
    have hm : p.matchLength? ⟨b, text⟩ = none := by
      rw [← ht]
      refine matchLength?_append_cons hx ?_ rest
      cases u <;> exact (clearFrom_cons.1 hc).1
    cases h with
    | nil => simp at ht
    | swap _ hs _ => simp [hm] at hs
    | keep _ hr =>
      cases u with
      | nil =>
        obtain ⟨rfl, rfl⟩ := List.cons.inj ht
        exact ⟨_, rfl, hr⟩
      | cons d u =>
        obtain ⟨rfl, rfl⟩ := List.cons.inj ht
        obtain ⟨out', rfl, hr'⟩ := Rewrites.skip hx (clearFrom_cons.1 hc).2 hr
        exact ⟨out', rfl, hr'⟩

/-- A placeholder without a match is kept. -/
theorem Rewrites.skip_bracketed (hp : p.Plain) {name rest out : List Char} {b : Option Char}
    (hname : p.Clear (bracketed name)) (h : Rewrites p by_ b (bracketed name ++ rest) out) :
    ∃ out', out = bracketed name ++ out' ∧ Rewrites p by_ (some ']') rest out' := by
  rw [bracketed_append] at h
  obtain ⟨out', rfl, hr⟩ := h.skip hp.closing (clearFrom_of_clear_bracketed hp hname b)
  exact ⟨out', (bracketed_append name out').symm, hr⟩

/-! ## What is replaced -/

/-- Replacing never takes a bracket away, and if it adds none there was no match. -/
theorem count_of_rewrites (hp : p.Plain) {name : List Char} {b : Option Char} {text out : List Char}
    (h : Rewrites p (bracketed name) b text out) :
    text.count '[' ≤ out.count '[' ∧ (out.count '[' ≤ text.count '[' → p.ClearFrom b text) := by
  induction h with
  | nil => exact ⟨Nat.le_refl _, fun _ => clearFrom_nil_of_consumes hp.consumes⟩
  | @keep b c text out hm _ ih =>
    rw [List.count_cons, List.count_cons, Nat.add_le_add_iff_right, Nat.add_le_add_iff_right]
    exact ⟨ih.1, fun hle => clearFrom_cons.2 ⟨hm, ih.2 hle⟩⟩
  | @swap b w rest out hw hm _ ih =>
    have hs := spans_of_matchLength?_append hm
    have hzero : w.count '[' = 0 := List.count_eq_zero.2 (hs.notMem hp.opening)
    have hone : 1 ≤ (bracketed name).count '[' := List.count_pos_iff.2 List.mem_cons_self
    rw [List.count_append, List.count_append, hzero]
    exact ⟨by have := ih.1; omega, fun hle => by have := ih.1; omega⟩

end SiteEdit.Pattern
