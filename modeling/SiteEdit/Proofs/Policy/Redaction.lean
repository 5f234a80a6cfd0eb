import SiteEdit.Policy.Screen
import SiteEdit.Proofs.Pattern.Rewriting
/-!
# Redaction comes to an end

Rules that do not look at word edges have nothing left to match after one pass, and the others after two
(`Settling.clear_pass`).  So the passes stop before their bound, the redacted text has no match of any rule, and
redacting it again finds nothing.
-/
namespace SiteEdit.Policy

namespace Redactor

variable {r s : RedactionRule} {rules : List RedactionRule} {text : List Char}

/-! ## One pass -/

theorem applyRule_of_clear (h : r.pattern.Clear text) : applyRule r text = (text, []) := by
  unfold applyRule
  rw [Pattern.occursIn_eq_false_iff.2 h]
  rfl

theorem applyRule_of_occursIn (h : r.pattern.occursIn text = true) :
    applyRule r text = (r.pattern.replaceAll r.kind.placeholder.toList text, [r.kind]) := by
  unfold applyRule
  rw [if_pos h]

/-- What was found before a pass stays in front. -/
theorem foldl_applyRule : ∀ (rules : List RedactionRule) (text : List Char) (found : List PersonalKind),
    rules.foldl (fun acc rule =>
      let step := applyRule rule acc.1
      (step.1, acc.2 ++ step.2)) (text, found) = ((pass rules text).1, found ++ (pass rules text).2)
  | [], text, found => by rw [List.foldl_nil, pass, List.foldl_nil, List.append_nil]
  | r :: rules, text, found => by
    have hpass : pass (r :: rules) text = _ := foldl_applyRule rules (applyRule r text).1 ([] ++ (applyRule r text).2)
    rw [List.foldl_cons, foldl_applyRule rules, hpass, List.nil_append, List.append_assoc]

theorem pass_cons (r : RedactionRule) (rules : List RedactionRule) (text : List Char) :
    pass (r :: rules) text =
      ((pass rules (applyRule r text).1).1, (applyRule r text).2 ++ (pass rules (applyRule r text).1).2) :=
  foldl_applyRule rules (applyRule r text).1 ([] ++ (applyRule r text).2)

theorem pass_of_clear : ∀ {rules : List RedactionRule}, (∀ r ∈ rules, r.pattern.Clear text) →
    pass rules text = (text, [])
  | [], _ => rfl
  | r :: rules, h => by
    rw [List.forall_mem_cons] at h
    rw [pass_cons, applyRule_of_clear h.1, pass_of_clear h.2]
    rfl

/-- A pass that finds nothing leaves the text as it is, and there is nothing to find. -/
theorem clear_of_pass : ∀ {rules : List RedactionRule} {text : List Char}, (pass rules text).2 = [] →
    (pass rules text).1 = text ∧ ∀ r ∈ rules, r.pattern.Clear text
  | [], _, _ => ⟨rfl, List.forall_mem_nil _⟩
  | r :: rules, text, h => by
    rw [pass_cons] at h ⊢
    obtain ⟨hr, hrules⟩ := List.append_eq_nil_iff.1 h
    cases ho : r.pattern.occursIn text with
    | true =>
      rw [applyRule_of_occursIn ho] at hr
      cases hr
    | false =>
      have hc := Pattern.occursIn_eq_false_iff.1 ho
      rw [applyRule_of_clear hc] at hrules ⊢
      obtain ⟨htext, hclear⟩ := clear_of_pass hrules
      exact ⟨htext, List.forall_mem_cons.2 ⟨hc, hclear⟩⟩

/-! ## Settling rules -/

/-- The first rule leaves no text with a match of the second that had none. -/
def Keeps (r s : RedactionRule) : Prop :=
  ∀ text : List Char, s.pattern.Clear text → s.pattern.Clear (applyRule r text).1

def Clears (r : RedactionRule) : Prop := ∀ text : List Char, r.pattern.Clear (applyRule r text).1

/-- Every rule leaves no match of itself.  No rule disturbs one that does not look at word edges, and a rule that looks
at them disturbs no earlier one. -/
structure Settling (rules : List RedactionRule) : Prop where
  clears : ∀ r ∈ rules, Clears r
  edgeless : ∀ r ∈ rules, ∀ s ∈ rules, s.pattern.edgeless = true → Keeps r s
  earlier : rules.Pairwise fun s r => r.pattern.edgeless = false → Keeps r s

theorem Settling.tail (h : Settling (r :: rules)) : Settling rules where
  clears s hs := h.clears s (List.mem_cons_of_mem r hs)
  edgeless t ht s hs := h.edgeless t (List.mem_cons_of_mem r ht) s (List.mem_cons_of_mem r hs)
  earlier := (List.pairwise_cons.1 h.earlier).2

theorem clear_pass_of_keeps : ∀ {rules : List RedactionRule} {text : List Char}, (∀ r ∈ rules, Keeps r s) →
    s.pattern.Clear text → s.pattern.Clear (pass rules text).1
  | [], _, _, h => h
  | r :: rules, text, hk, h => by
    rw [List.forall_mem_cons] at hk
    rw [pass_cons]
    exact clear_pass_of_keeps hk.2 (hk.1 text h)

/-- After a pass rules that do not look at word edges have no match. -/
theorem clear_pass_of_edgeless : ∀ {rules : List RedactionRule}, Settling rules → ∀ (text : List Char), s ∈ rules →
    s.pattern.edgeless = true → s.pattern.Clear (pass rules text).1
  | r :: rules, h, text, hs, he => by
    rw [pass_cons]
    rcases List.mem_cons.1 hs with rfl | hs'
    · exact clear_pass_of_keeps (fun r hr => h.edgeless r (List.mem_cons_of_mem s hr) s hs he)
        (h.clears s hs text)
    · exact clear_pass_of_edgeless h.tail _ hs' he

/-- After a pass over a text in which rules that do not look at word edges have no match, no rule has one: a rule has
none when its turn is over, and the rules after it disturb it no more. -/
theorem Settling.clear_pass : ∀ {rules : List RedactionRule} {text : List Char}, Settling rules →
    (∀ r ∈ rules, r.pattern.edgeless = true → r.pattern.Clear text) →
    ∀ s, (s ∈ rules ∨ s.pattern.Clear text ∧ ∀ r ∈ rules, r.pattern.edgeless = false → Keeps r s) →
      s.pattern.Clear (pass rules text).1
  | [], text, _, _, s, hs => by
    rcases hs with hs | hs
    · cases hs
    · exact hs.1
  | r :: rules, text, h, hfree, s, hs => by
    have hr : r ∈ r :: rules := List.mem_cons_self
    have hfree' : ∀ t ∈ rules, t.pattern.edgeless = true → t.pattern.Clear (applyRule r text).1 := fun t ht he =>
      h.edgeless r hr t (List.mem_cons_of_mem r ht) he text (hfree t (List.mem_cons_of_mem r ht) he)
    rw [pass_cons]
    refine h.tail.clear_pass hfree' s ?_
    rcases hs with hs | ⟨hs, hk⟩
    · rcases List.mem_cons.1 hs with rfl | hs
      -- its own turn: from here on it is one of the earlier rules
      · exact .inr ⟨h.clears s hr text, (List.pairwise_cons.1 h.earlier).1⟩
      · exact .inl hs
    -- its turn is over: a rule that could disturb it has nothing to match, or is a later one
    · refine .inr ⟨?_, fun t ht => hk t (List.mem_cons_of_mem r ht)⟩
      cases he : r.pattern.edgeless with
      | true =>
        rw [applyRule_of_clear (hfree r hr he)]
        exact hs
      | false => exact hk r hr he text hs

/-! ## Several passes -/

theorem passes_of_clear (h : ∀ r ∈ rules, r.pattern.Clear text) : ∀ n : Nat, passes rules n text = (text, [])
  | 0 => rfl
  | n + 1 => by
    rw [passes, pass_of_clear h]
    rfl

/-- **Two passes are enough**: after two or more no rule has a match. -/
theorem clear_passes (h : Settling rules) (n : Nat) (text : List Char) :
    ∀ s ∈ rules, s.pattern.Clear (passes rules (n + 2) text).1 := by
  have hsecond : ∀ s ∈ rules, s.pattern.Clear (pass rules (pass rules text).1).1 := fun s hs =>
    h.clear_pass (fun r hr he => clear_pass_of_edgeless h text hr he) s (.inl hs)
  rw [passes]
  split
  · rename_i hf
    obtain ⟨htext, hclear⟩ := clear_of_pass (List.isEmpty_iff.1 hf)
    rwa [htext]
  · rw [passes]
    dsimp only
    split
    · exact hsecond
    · rw [passes_of_clear hsecond]
      exact hsecond

/-! ## Brackets -/

/-- No bracket is lost, and if none is gained nothing was found. -/
def Gains (text : List Char) (result : List Char × List PersonalKind) : Prop :=
  text.count '[' ≤ result.1.count '[' ∧ (result.1.count '[' ≤ text.count '[' → result.2 = [])

theorem Gains.trans {first : List Char × List PersonalKind} {more : List Char × List PersonalKind}
    (h : Gains text first) (h' : Gains first.1 more) : Gains text (more.1, first.2 ++ more.2) := by
  refine ⟨Nat.le_trans h.1 h'.1, fun hle => ?_⟩
  rw [h.2 (Nat.le_trans h'.1 hle), h'.2 (Nat.le_trans hle h.1), List.append_nil]

theorem placeholder_bracketed (k : PersonalKind) : ∃ name, k.placeholder.toList = Pattern.bracketed name := by
  cases k
  · exact ⟨"EMAIL".toList, by decide⟩
  · exact ⟨"PHONE".toList, by decide⟩
  · exact ⟨"NATIONAL_ID".toList, by decide⟩
  · exact ⟨"CARD".toList, by decide⟩
  · exact ⟨"API_KEY".toList, by decide⟩
  · exact ⟨"TOKEN".toList, by decide⟩

theorem gains_applyRule (hr : r.pattern.Plain) (text : List Char) : Gains text (applyRule r text) := by
  cases ho : r.pattern.occursIn text with
  | false =>
    rw [applyRule_of_clear (Pattern.occursIn_eq_false_iff.1 ho)]
    exact ⟨Nat.le_refl _, fun _ => rfl⟩
  | true =>
    obtain ⟨name, hname⟩ := placeholder_bracketed r.kind
    obtain ⟨hle, hclear⟩ := Pattern.count_of_rewrites hr (Pattern.rewrites_replaceAll hr.consumes text)
    rw [applyRule_of_occursIn ho, hname]
    refine ⟨hle, fun hge => ?_⟩
    rw [Pattern.occursIn_eq_false_iff.2 (hclear hge)] at ho
    cases ho

theorem gains_pass : ∀ {rules : List RedactionRule}, (∀ r ∈ rules, r.pattern.Plain) → ∀ text : List Char,
    Gains text (pass rules text)
  | [], _, _ => ⟨Nat.le_refl _, fun _ => rfl⟩
  | r :: rules, h, text => by
    rw [List.forall_mem_cons] at h
    rw [pass_cons]
    exact (gains_applyRule h.1 text).trans (gains_pass h.2 _)

theorem gains_passes (h : ∀ r ∈ rules, r.pattern.Plain) : ∀ (n : Nat) (text : List Char),
    Gains text (passes rules n text)
  | 0, _ => ⟨Nat.le_refl _, fun _ => rfl⟩
  | n + 1, text => by
    rw [passes]
    split
    · exact gains_pass h text
    · exact (gains_pass h text).trans (gains_passes h n _)

/-- A run of passes finds nothing exactly if it leaves the text as it is. -/
theorem passes_eq_nil_iff (h : ∀ r ∈ rules, r.pattern.Plain) (n : Nat) (text : List Char) :
    (passes rules (n + 1) text).2 = [] ↔ (passes rules (n + 1) text).1 = text := by
  constructor
  · intro hnil
    rw [passes] at hnil ⊢
    split
    · rename_i hf
      exact (clear_of_pass (List.isEmpty_iff.1 hf)).1
    · rename_i hf
      rw [if_neg hf] at hnil
      exact absurd (List.isEmpty_iff.2 (List.append_eq_nil_iff.1 hnil).1) hf
  · intro htext
    exact (gains_passes h (n + 1) text).2 (Nat.le_of_eq (congrArg (List.count '[') htext))

/-! ## Rules that can be seen to settle -/

/-- What can be computed of rules: their patterns are plain, they match in no placeholder, and none can make a word edge
at which itself or, if it looks at word edges, an earlier one could match. -/
structure Tame (rules : List RedactionRule) : Prop where
  plain : ∀ r ∈ rules, r.pattern.isPlain = true
  apart : ∀ r ∈ rules, ∀ k ∈ PersonalKind.all, r.pattern.occursIn k.placeholder.toList = false
  calm : ∀ r ∈ rules, Pattern.calms r.pattern r.pattern = true
  earlier : rules.Pairwise fun s r => r.pattern.edgeless = false → Pattern.calms r.pattern s.pattern = true

theorem mem_all (k : PersonalKind) : k ∈ PersonalKind.all := by cases k <;> decide

namespace Tame

theorem clear_applyRule (h : Tame rules) (hr : r ∈ rules) (hs : s ∈ rules)
    (hc : Pattern.calms r.pattern s.pattern = true) {text : List Char}
    (hno : s.pattern = r.pattern ∨ s.pattern.Clear text) : s.pattern.Clear (applyRule r text).1 := by
  cases ho : r.pattern.occursIn text with
  | false =>
    have hclear := Pattern.occursIn_eq_false_iff.1 ho
    rw [applyRule_of_clear hclear]
    exact hno.elim (fun heq => heq ▸ hclear) id
  | true =>
    have hplain := Pattern.plain_of_isPlain (h.plain s hs)
    have hapart := Pattern.occursIn_eq_false_iff.1 (h.apart s hs r.kind (mem_all r.kind))
    obtain ⟨name, hname⟩ := placeholder_bracketed r.kind
    rw [hname] at hapart
    rw [applyRule_of_occursIn ho, hname]
    exact Pattern.clearFrom_of_rewrites hplain (Pattern.calms_sound hc) hapart
      (Pattern.rewrites_replaceAll (Pattern.plain_of_isPlain (h.plain r hr)).consumes text) hno (.inl rfl)

theorem settling (h : Tame rules) : Settling rules where
  clears r hr text := h.clear_applyRule hr hr (h.calm r hr) (.inl rfl)
  edgeless r hr s hs he text hc := by
    have hcalm : Pattern.calms r.pattern s.pattern = true := by rw [Pattern.calms, he, Bool.true_or]
    exact h.clear_applyRule hr hs hcalm (.inr hc)
  earlier := h.earlier.imp_of_mem fun hs hr hcalm he text hc => h.clear_applyRule hr hs (hcalm he) (.inr hc)

end Tame

/-! ## Redacted texts -/

section

variable (d : Redactor) (t : String)

theorem toList_redact : (d.redact t).text.toList = (passes d.rules maxPasses t.toList).1 := String.toList_ofList

theorem redact_clear (h : Tame d.rules) : ∀ r ∈ d.rules, r.pattern.Clear (d.redact t).text.toList := by
  rw [toList_redact]
  exact clear_passes h.settling 2 t.toList

/-- A text in which no rule has a match is left as it is. -/
theorem redact_of_clear (h : ∀ r ∈ d.rules, r.pattern.Clear t.toList) : d.redact t = ⟨t, []⟩ := by
  unfold redact
  rw [passes_of_clear h]
  dsimp only
  rw [String.ofList_toList]
  rfl

/-- Something is detected exactly in a text that is changed. -/
theorem detected_eq_nil_iff (h : Tame d.rules) : (d.redact t).detected = [] ↔ (d.redact t).text = t := by
  have hplain : ∀ r ∈ d.rules, r.pattern.Plain := fun r hr => Pattern.plain_of_isPlain (h.plain r hr)
  have hnil : (d.redact t).detected = [] ↔ (passes d.rules maxPasses t.toList).2 = [] := by
    refine List.filter_eq_nil_iff.trans ⟨fun hall => List.eq_nil_iff_forall_not_mem.2 fun k hk => ?_, fun hn k _ => ?_⟩
    · exact hall k (mem_all k) (List.contains_iff_mem.2 hk)
    · rw [hn]
      exact Bool.false_ne_true
  rw [hnil, ← String.toList_inj, toList_redact]
  exact passes_eq_nil_iff hplain 3 t.toList

theorem redactText_eq_self_iff (h : Tame d.rules) : d.redactText t = t ↔ d.redact t = ⟨t, []⟩ := by
  refine ⟨fun ht => ?_, fun hr => congrArg Redacted.text hr⟩
  have hnone : (d.redact t).detected = [] := (detected_eq_nil_iff d t h).2 ht
  have ht : (d.redact t).text = t := ht
  cases hr : d.redact t with
  | mk text detected =>
    rw [hr] at hnone ht
    rw [show text = t from ht, show detected = [] from hnone]

end

end Redactor

/-- The place of a kind in the fixed order. -/
def PersonalKind.rank (k : PersonalKind) : Nat := PersonalKind.all.idxOf k

theorem Redactor.detected_sorted (d : Redactor) (t : String) :
    (d.redact t).detected.Pairwise fun j k => j.rank < k.rank := by
  have hall : PersonalKind.all.Pairwise fun j k => j.rank < k.rank := by decide
  exact hall.sublist List.filter_sublist

end SiteEdit.Policy
