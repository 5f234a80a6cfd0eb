import SiteEdit.Proofs.Policy.Redaction
/-!
# The built-in redaction

The built-in rules are well written and tame, so what they leave of a text has nothing for them (`redact_fixpoint`).
-/
namespace SiteEdit.Policy

open Redactor (Tame)

/-- All that is computed of the built-in rules, in one go: to read their patterns takes long. -/
theorem builtinPersonal_checks :
    (∀ rule ∈ Tables.builtinPersonal, (Pattern.read? rule.pattern).isSome = true) ∧
      (∀ r ∈ Redactor.builtin.rules, r.pattern.isPlain = true) ∧
      (∀ r ∈ Redactor.builtin.rules, ∀ k ∈ PersonalKind.all,
        r.pattern.occursIn k.placeholder.toList = false) ∧
      (∀ r ∈ Redactor.builtin.rules, Pattern.calms r.pattern r.pattern = true) ∧
      Redactor.builtin.rules.Pairwise fun s r =>
        r.pattern.edgeless = false → Pattern.calms r.pattern s.pattern = true := by decide +kernel

theorem builtin_rules : Redactor.builtin.rules = Tables.builtinPersonal.filterMap fun rule =>
    (Pattern.read? rule.pattern).map fun p => { kind := rule.kind, pattern := p } := by
  rw [Redactor.builtin]

theorem readPersonal_of_written : ∀ {rules : List PersonalRule},
    (∀ rule ∈ rules, (Pattern.read? rule.pattern).isSome = true) →
      readPersonal rules = .ok (rules.filterMap fun rule =>
        (Pattern.read? rule.pattern).map fun p => { kind := rule.kind, pattern := p })
  | [], _ => rfl
  | rule :: rules, h => by
    rw [List.forall_mem_cons] at h
    obtain ⟨p, hp⟩ := Option.isSome_iff_exists.1 h.1
    have ih := readPersonal_of_written h.2
    unfold readPersonal at ih ⊢
    rw [List.mapM_cons, ih, hp, List.filterMap_cons, hp]
    rfl

/-- Tables that keep the built-in rules redact by them. -/
theorem readPersonal_builtin : readPersonal Tables.builtinPersonal = .ok Redactor.builtin.rules := by
  rw [builtin_rules]
  exact readPersonal_of_written builtinPersonal_checks.1

theorem exists_builtin_pattern {rule : PersonalRule} (h : rule ∈ Tables.builtinPersonal) :
    ∃ p, Pattern.read? rule.pattern = some p ∧ { kind := rule.kind, pattern := p } ∈ Redactor.builtin.rules := by
  obtain ⟨p, hp⟩ := Option.isSome_iff_exists.1 (builtinPersonal_checks.1 rule h)
  refine ⟨p, hp, ?_⟩
  rw [builtin_rules]
  exact List.mem_filterMap.2 ⟨rule, h, by rw [hp, Option.map_some]⟩

theorem builtin_tame : Tame Redactor.builtin.rules where
  plain := builtinPersonal_checks.2.1
  apart := builtinPersonal_checks.2.2.1
  calm := builtinPersonal_checks.2.2.2.1
  earlier := builtinPersonal_checks.2.2.2.2

/-- **Redaction reaches a fixpoint.**  In a text redacted by the built-in rules no part can be matched by any of them;
to redact it again changes and detects nothing.  Something is detected exactly if the text changes, and the kinds are
listed in their fixed order, each once. -/
theorem redact_fixpoint (t : String) :
    (∀ rule ∈ Tables.builtinPersonal, ∃ p, Pattern.read? rule.pattern = some p ∧
        p.Clear (Redactor.builtin.redact t).text.toList) ∧
      Redactor.builtin.redact (Redactor.builtin.redact t).text = ⟨(Redactor.builtin.redact t).text, []⟩ ∧
      ((Redactor.builtin.redact t).detected = [] ↔ (Redactor.builtin.redact t).text = t) ∧
      (Redactor.builtin.redact t).detected.Pairwise fun j k => j.rank < k.rank := by
  have hclear : ∀ r ∈ Redactor.builtin.rules, r.pattern.Clear (Redactor.builtin.redact t).text.toList :=
    Redactor.redact_clear _ t builtin_tame
  refine ⟨fun rule hrule => ?_, Redactor.redact_of_clear _ _ hclear,
    Redactor.detected_eq_nil_iff _ t builtin_tame, Redactor.detected_sorted _ t⟩
  obtain ⟨p, hp, hmem⟩ := exists_builtin_pattern hrule
  exact ⟨p, hp, hclear _ hmem⟩

end SiteEdit.Policy
