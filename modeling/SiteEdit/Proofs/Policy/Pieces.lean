import SiteEdit.Proofs.Pattern.Alone
import SiteEdit.Proofs.Policy.Builtin
/-!
# What redaction hides

A redacted text comes piece by piece from the text that it was made of: a character was kept, or personal data gave way
to the placeholder of its kind.  A rule hides what was kept and touches no placeholder (`exists_refines`), whether one
before it or the text itself put it there.  So in the end all that is hidden was matched as it stood in the text
(`redact_pieces`).
-/
namespace SiteEdit.Policy

/-- A piece of a redacted text: a character that was kept, or personal data that was hidden. -/
inductive Piece where
  | kept (c : Char)
  | hidden (kind : PersonalKind) (data : List Char)
  deriving DecidableEq, Repr

namespace Piece

/-- What stood in the text. -/
def original : Piece → List Char
  | .kept c => [c]
  | .hidden _ data => data

/-- What stands in the redacted text. -/
def shown : Piece → List Char
  | .kept c => [c]
  | .hidden kind _ => kind.placeholder.toList

theorem original_kept (text : List Char) : (text.map kept).flatMap original = text := by
  induction text with
  | nil => rfl
  | cons c text ih => simpa [original] using ih

theorem shown_kept (text : List Char) : (text.map kept).flatMap shown = text := by
  induction text with
  | nil => rfl
  | cons c text ih => simpa [shown] using ih

/-- What is shown without a bracket was kept. -/
theorem exists_kept : ∀ {w rest : List Char} {pieces : List Piece}, pieces.flatMap shown = w ++ rest → '[' ∉ w →
    ∃ pieces', pieces = w.map kept ++ pieces' ∧ pieces'.flatMap shown = rest
  | [], _, pieces, h, _ => ⟨pieces, rfl, h⟩
  | c :: w, _, [], h, _ => by cases h
  | c :: w, rest, .kept d :: pieces, h, hw => by
    obtain ⟨rfl, ht⟩ := List.cons.inj h
    obtain ⟨pieces', rfl, hrest⟩ := exists_kept ht fun hmem => hw (by simp [hmem])
    exact ⟨pieces', rfl, hrest⟩
  | c :: w, rest, .hidden k _ :: pieces, h, hw => by
    obtain ⟨name, hname⟩ := Redactor.placeholder_bracketed k
    rw [List.flatMap_cons, shown, hname] at h
    obtain ⟨rfl, -⟩ := List.cons.inj h
    exact absurd List.mem_cons_self hw

end Piece

namespace Redactor

open Piece (original shown kept hidden)

variable {r : RedactionRule} {rules : List RedactionRule} {pieces pieces' : List Piece} {text out : List Char}

/-- A rule makes the text `out` of what the pieces show: it hides some of what was kept, at least once if it changes the
text, and all that was hidden stays so. -/
structure Refines (r : RedactionRule) (pieces : List Piece) (out : List Char) (pieces' : List Piece) : Prop where
  original : pieces'.flatMap original = pieces.flatMap original
  shown : pieces'.flatMap shown = out
  old : ∀ k w, hidden k w ∈ pieces → hidden k w ∈ pieces'
  new : ∀ k w, hidden k w ∈ pieces' →
    hidden k w ∈ pieces ∨ k = r.kind ∧ r.pattern.matchLength? ⟨none, w⟩ = some w.length
  changed : out = pieces.flatMap Piece.shown ∨ ∃ w, hidden r.kind w ∈ pieces'

namespace Refines

theorem nil (r : RedactionRule) : Refines r [] [] [] := ⟨rfl, rfl, fun _ _ => id, fun _ _ => .inl, .inl rfl⟩

theorem cons (h : Refines r pieces out pieces') (piece : Piece) :
    Refines r (piece :: pieces) (piece.shown ++ out) (piece :: pieces') where
  original := by rw [List.flatMap_cons, List.flatMap_cons, h.original]
  shown := by rw [List.flatMap_cons, h.shown]
  old k w hm := by
    rcases List.mem_cons.1 hm with rfl | hm
    · exact List.mem_cons_self
    · exact List.mem_cons_of_mem _ (h.old k w hm)
  new k w hm := by
    rcases List.mem_cons.1 hm with rfl | hm
    · exact .inl List.mem_cons_self
    · exact (h.new k w hm).imp (List.mem_cons_of_mem _) id
  changed := by
    rcases h.changed with hsame | ⟨w, hw⟩
    · exact .inl (by rw [hsame, List.flatMap_cons])
    · exact .inr ⟨w, List.mem_cons_of_mem _ hw⟩

theorem hide {w : List Char} (h : Refines r pieces out pieces')
    (hw : r.pattern.matchLength? ⟨none, w⟩ = some w.length) :
    Refines r (w.map kept ++ pieces) (r.kind.placeholder.toList ++ out) (hidden r.kind w :: pieces') where
  original := by rw [List.flatMap_cons, List.flatMap_append, h.original, Piece.original_kept, Piece.original]
  shown := by rw [List.flatMap_cons, h.shown, Piece.shown]
  old k v hm := by
    have hv : hidden k v ∈ pieces := by simpa using hm
    exact List.mem_cons_of_mem _ (h.old k v hv)
  new k v hm := by
    rcases List.mem_cons.1 hm with heq | hm
    · cases heq
      exact .inr ⟨rfl, hw⟩
    · exact (h.new k v hm).imp (List.mem_append_right _) id
  changed := .inr ⟨w, List.mem_cons_self⟩

end Refines

/-- A rule whose matches can be told without the text around them, and which has none in a placeholder. -/
structure Local (r : RedactionRule) : Prop where
  plain : r.pattern.Plain
  apart : ∀ k : PersonalKind, r.pattern.Clear k.placeholder.toList
  alone : r.pattern.standsAlone = true

/-- Rewriting by a rule hides some of what was kept. -/
theorem exists_refines (hr : Local r) {b : Option Char}
    (h : Pattern.Rewrites r.pattern r.kind.placeholder.toList b (pieces.flatMap shown) out) :
    ∃ pieces', Refines r pieces out pieces' := by
  -- A match can take several pieces, so the induction is on their number.
  induction hn : pieces.length using Nat.strongRecOn generalizing pieces b out with
  | ind n ih =>
    subst hn
    cases pieces with
    | nil =>
      generalize ht : ([] : List Piece).flatMap shown = text at h
      cases h with
      | nil => exact ⟨[], .nil r⟩
      | keep _ _ => cases ht
      | swap hw _ _ => exact absurd (List.append_eq_nil_iff.1 ht.symm).1 hw
    | cons piece pieces =>
      cases piece with
      | hidden k w =>
        obtain ⟨name, hname⟩ := placeholder_bracketed k
        rw [List.flatMap_cons, shown, hname] at h
        obtain ⟨out', rfl, hrest⟩ := h.skip_bracketed hr.plain (hname ▸ hr.apart k)
        obtain ⟨pieces', href⟩ := ih pieces.length (Nat.lt_succ_self _) hrest rfl
        rw [← hname]
        exact ⟨_, href.cons (hidden k w)⟩
      | kept c =>
        generalize ht : (kept c :: pieces).flatMap shown = text at h
        cases h with
        | nil => cases ht
        | keep _ h =>
          obtain ⟨rfl, rfl⟩ := List.cons.inj ht
          obtain ⟨pieces', href⟩ := ih pieces.length (Nat.lt_succ_self _) h rfl
          exact ⟨_, href.cons (kept c)⟩
        | @swap _ w rest out hw hm h =>
          have hs := Pattern.spans_of_matchLength?_append hm
          obtain ⟨pieces₀, hpieces, rfl⟩ := Piece.exists_kept ht (hs.notMem hr.plain.opening)
          have hlt : pieces₀.length < (kept c :: pieces).length := by
            have hpos := List.length_pos_iff.2 hw
            rw [hpieces, List.length_append, List.length_map]
            omega
          obtain ⟨pieces', href⟩ := ih pieces₀.length hlt h rfl
          rw [hpieces]
          exact ⟨_, href.hide (Pattern.matchLength?_alone hr.alone hm)⟩

/-- A redacted text and the kinds that were found, told by the pieces. -/
structure Shows (rules : List RedactionRule) (text out : List Char) (ks : List PersonalKind) (pieces : List Piece) :
    Prop where
  original : pieces.flatMap original = text
  shown : pieces.flatMap shown = out
  found : ∀ k ∈ ks, ∃ w, hidden k w ∈ pieces
  hidden : ∀ k w, hidden k w ∈ pieces → k ∈ ks ∧
    ∃ r ∈ rules, r.kind = k ∧ r.pattern.matchLength? ⟨none, w⟩ = some w.length

variable {ks : List PersonalKind}

theorem shows_kept (rules : List RedactionRule) (text : List Char) : Shows rules text text [] (text.map kept) where
  original := Piece.original_kept text
  shown := Piece.shown_kept text
  found _ h := by cases h
  hidden k w h := by simp at h

theorem shows_applyRule (hl : Local r) (hr : r ∈ rules) (h : Shows rules text out ks pieces) :
    ∃ pieces', Shows rules text (applyRule r out).1 (ks ++ (applyRule r out).2) pieces' := by
  cases ho : r.pattern.occursIn out with
  | false =>
    rw [applyRule_of_clear (Pattern.occursIn_eq_false_iff.1 ho), List.append_nil]
    exact ⟨pieces, h⟩
  | true =>
    have hrewrites : Pattern.Rewrites r.pattern r.kind.placeholder.toList none out
        (r.pattern.replaceAll r.kind.placeholder.toList out) := Pattern.rewrites_replaceAll hl.plain.consumes out
    rw [← h.shown] at hrewrites
    obtain ⟨pieces', href⟩ := exists_refines hl hrewrites
    rw [h.shown] at href
    rw [applyRule_of_occursIn ho]
    refine ⟨pieces', href.original.trans h.original, href.shown, fun k hk => ?_, fun k w hw => ?_⟩
    · rcases List.mem_append.1 hk with hk | hk
      · obtain ⟨w, hw⟩ := h.found k hk
        exact ⟨w, href.old k w hw⟩
      · obtain rfl := List.mem_singleton.1 hk
        refine href.changed.resolve_left fun hsame => ?_
        -- A text that a rule leaves as it is has no match of it.
        have hgains := (gains_applyRule hl.plain out).2
        rw [applyRule_of_occursIn ho, hsame, h.shown] at hgains
        cases hgains (Nat.le_refl _)
    · rcases href.new k w hw with hold | ⟨rfl, hmatch⟩
      · exact (h.hidden k w hold).imp (List.mem_append_left _) id
      · exact ⟨List.mem_append_right _ List.mem_cons_self, r, hr, rfl, hmatch⟩

theorem shows_pass : ∀ {rules' : List RedactionRule}, (∀ r ∈ rules', Local r) → rules' ⊆ rules →
    ∀ {out : List Char} {ks : List PersonalKind} {pieces : List Piece}, Shows rules text out ks pieces →
      ∃ pieces', Shows rules text (pass rules' out).1 (ks ++ (pass rules' out).2) pieces'
  | [], _, _, out, ks, pieces, h => by
    rw [pass_of_clear (List.forall_mem_nil _), List.append_nil]
    exact ⟨pieces, h⟩
  | r :: rules', hl, hsub, out, ks, pieces, h => by
    rw [List.forall_mem_cons] at hl
    rw [List.cons_subset] at hsub
    obtain ⟨pieces₁, h₁⟩ := shows_applyRule hl.1 hsub.1 h
    obtain ⟨pieces₂, h₂⟩ := shows_pass hl.2 hsub.2 h₁
    rw [List.append_assoc] at h₂
    rw [pass_cons]
    exact ⟨pieces₂, h₂⟩

theorem shows_passes (hl : ∀ r ∈ rules, Local r) : ∀ (n : Nat) {out : List Char} {ks : List PersonalKind}
    {pieces : List Piece}, Shows rules text out ks pieces →
      ∃ pieces', Shows rules text (passes rules n out).1 (ks ++ (passes rules n out).2) pieces'
  | 0, out, ks, pieces, h => by
    rw [passes, List.append_nil]
    exact ⟨pieces, h⟩
  | n + 1, out, ks, pieces, h => by
    obtain ⟨pieces₁, h₁⟩ := shows_pass hl (List.Subset.refl rules) h
    rw [passes]
    split
    · exact ⟨pieces₁, h₁⟩
    · obtain ⟨pieces₂, h₂⟩ := shows_passes hl n h₁
      rw [List.append_assoc] at h₂
      exact ⟨pieces₂, h₂⟩

theorem mem_detected_iff {d : Redactor} {t : String} {k : PersonalKind} :
    k ∈ (d.redact t).detected ↔ k ∈ (passes d.rules maxPasses t.toList).2 := by
  simp [redact, mem_all]

theorem exists_pieces {d : Redactor} (hl : ∀ r ∈ d.rules, Local r) (t : String) :
    ∃ pieces, Shows d.rules t.toList (d.redact t).text.toList (d.redact t).detected pieces := by
  obtain ⟨pieces, h⟩ := shows_passes hl maxPasses (shows_kept d.rules t.toList)
  rw [List.nil_append] at h
  refine ⟨pieces, h.original, ?_, fun k hk => h.found k (mem_detected_iff.1 hk), fun k w hw => ?_⟩
  · rw [toList_redact]
    exact h.shown
  · exact (h.hidden k w hw).imp mem_detected_iff.2 id

end Redactor

theorem builtin_standsAlone : ∀ r ∈ Redactor.builtin.rules, r.pattern.standsAlone = true := by decide +kernel

theorem builtin_local : ∀ r ∈ Redactor.builtin.rules, Redactor.Local r := by
  intro r hr
  refine ⟨Pattern.plain_of_isPlain (builtin_tame.plain r hr), fun k => ?_, builtin_standsAlone r hr⟩
  exact Pattern.occursIn_eq_false_iff.1 (builtin_tame.apart r hr k (Redactor.mem_all k))

/-- **Redaction hides what the rules match and keeps all else.**  The text and the redacted text are the same, piece by
piece and in the same order, but for placeholders: each is that of a kind that is detected, and stands for a text that a
built-in rule of this kind matches, whole, where it stands alone.  Every kind that is detected has a placeholder, and in
what is shown there is nothing left to hide. -/
theorem redact_pieces (t : String) : ∃ pieces : List Piece,
    pieces.flatMap Piece.original = t.toList ∧
    pieces.flatMap Piece.shown = (Redactor.builtin.redact t).text.toList ∧
    (∀ k w, Piece.hidden k w ∈ pieces → k ∈ (Redactor.builtin.redact t).detected ∧
      ∃ rule ∈ Tables.builtinPersonal, rule.kind = k ∧ ∃ p, Pattern.read? rule.pattern = some p ∧
        p.matchLength? ⟨none, w⟩ = some w.length) ∧
    (∀ k ∈ (Redactor.builtin.redact t).detected, ∃ w, Piece.hidden k w ∈ pieces) ∧
    ∀ rule ∈ Tables.builtinPersonal, ∃ p, Pattern.read? rule.pattern = some p ∧
      p.Clear (pieces.flatMap Piece.shown) := by
  obtain ⟨pieces, h⟩ := Redactor.exists_pieces builtin_local t
  refine ⟨pieces, h.original, h.shown, fun k w hw => ?_, h.found, fun rule hrule => ?_⟩
  · obtain ⟨hk, r, hr, rfl, hmatch⟩ := h.hidden k w hw
    rw [builtin_rules, List.mem_filterMap] at hr
    obtain ⟨rule, hrule, hread⟩ := hr
    obtain ⟨p, hp, rfl⟩ := Option.map_eq_some_iff.1 hread
    exact ⟨hk, rule, hrule, rfl, p, hp, hmatch⟩
  · obtain ⟨p, hp, hmem⟩ := exists_builtin_pattern hrule
    rw [h.shown]
    exact ⟨p, hp, Redactor.redact_clear _ t builtin_tame _ hmem⟩

end SiteEdit.Policy
