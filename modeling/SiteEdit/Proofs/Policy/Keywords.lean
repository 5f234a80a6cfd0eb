import SiteEdit.Proofs.Policy.Documents
import SiteEdit.Proofs.Policy.Tables
import SiteEdit.Proofs.Text.Lowercase
/-!
# Keywords in texts

A keyword and a text are put in lower case apart from each other.  A text that has a keyword in it is caught if the
capital sigmas of the keyword are final in the text exactly if they are in the keyword (`extra_caught`); where one is
not, the lower case of the text need not have the one of the keyword in it.
-/
namespace SiteEdit

theorem Text.occursIn_iff {needle : List Char} : ∀ {text : List Char}, occursIn needle text = true ↔ needle <:+: text
  | [] => by rw [occursIn, List.isEmpty_iff, List.infix_nil]
  | c :: text => by
    rw [occursIn, Bool.or_eq_true, List.isPrefixOf_iff_prefix, occursIn_iff, List.infix_cons_iff]

namespace Policy

open Text (SigmasStay lower lowerString)

namespace Screen

variable {s : Screen}

/-- What is named are the prohibited words that the lower case of the text has in it. -/
theorem mem_checkProhibited_iff {k text : String} : k ∈ (s.checkProhibited text).detected ↔
    k ∈ s.prohibited ∧ k.toList <:+: (lowerString text).toList := by
  rw [checkProhibited, Finding.ofDetected_detected, List.mem_filter, Text.contains, Text.occursIn_iff]

theorem checkProhibited_safe_eq_false {k text : String} (h : k ∈ (s.checkProhibited text).detected) :
    (s.checkProhibited text).safe = false := by
  rw [checkProhibited, Finding.ofDetected_detected] at h
  rw [checkProhibited, Finding.ofDetected_safe, List.isEmpty_eq_false_iff]
  exact List.ne_nil_of_mem h

end Screen

namespace Adjustment

/-- The screen of adjusted tables searches for the lower case of every keyword that was added. -/
theorem mem_prohibited {a : Adjustment} {s : Screen} (h : Screen.ofTables a.tables = .ok s) {k : String}
    (hk : k ∈ a.extraKeywords) : lowerString k ∈ s.prohibited := by
  have hadded : lowerString k ∈ a.tables.prohibitedKeywords :=
    mem_foldl_addNew.2 (.inr (List.mem_map_of_mem hk))
  rw [(Screen.isOf_of_ofTables h).prohibited, ← Text.lowerString_lowerString k]
  exact List.mem_map_of_mem hadded

/-- **A text that has an added keyword in it is not safe**, and the keyword is named, if the text around it leaves its
capital sigmas final or not as they are in the keyword alone; so always if it has none.  In any case it is named exactly
if the lower case of the text has its own in it. -/
theorem extra_caught (a : Adjustment) (ha : a.maxInputLength ≠ 0) :
    ∃ screen, Screen.ofTables a.tables = .ok screen ∧ ∀ k ∈ a.extraKeywords, ∀ l r : String,
      let finding := screen.checkProhibited (l ++ k ++ r)
      (SigmasStay l.toList k.toList r.toList → finding.safe = false ∧ lowerString k ∈ finding.detected) ∧
      (lowerString k ∈ finding.detected ↔ lower k.toList <:+: lower (l ++ k ++ r).toList) := by
  obtain ⟨screen, hs⟩ := a.exists_screen ha
  refine ⟨screen, hs, fun k hk l r => ?_⟩
  intro finding
  have hnamed : lowerString k ∈ finding.detected ↔ lower k.toList <:+: lower (l ++ k ++ r).toList := by
    rw [Screen.mem_checkProhibited_iff, Text.toList_lowerString, Text.toList_lowerString]
    exact and_iff_right (mem_prohibited hs hk)
  refine ⟨fun hsigma => ?_, hnamed⟩
  have hmem : lowerString k ∈ finding.detected := by
    rw [hnamed, String.toList_append, String.toList_append]
    exact Text.lower_infix_of_sigmasStay hsigma
  exact ⟨Screen.checkProhibited_safe_eq_false hmem, hmem⟩

/-- A keyword without a sigma between letters, and one with a final sigma at the end of a sentence. -/
theorem extra_caught_words :
    let a : Adjustment := { extraKeywords := ["Wette", "ΑΣΟΣ"] }
    ∃ screen, Screen.ofTables a.tables = .ok screen ∧
      (screen.checkProhibited ("die " ++ "Wette" ++ "n")).safe = false ∧
      (screen.checkProhibited ("ΕΝΑΣ " ++ "ΑΣΟΣ" ++ ".")).safe = false := by
  intro a
  obtain ⟨screen, hs, hcaught⟩ := extra_caught a (by decide)
  have hplain : SigmasStay "die ".toList "Wette".toList "n".toList := Text.sigmasStay_of_notMem (by decide) _ _
  have hfinal : SigmasStay "ΕΝΑΣ ".toList "ΑΣΟΣ".toList ".".toList :=
    Text.lowerBetween_eq_lower_iff.1 (by decide +kernel)
  have hwette := (hcaught "Wette" (by decide) "die " "n").1 hplain
  have hasos := (hcaught "ΑΣΟΣ" (by decide) "ΕΝΑΣ " ".").1 hfinal
  exact ⟨screen, hs, hwette.1, hasos.1⟩

/-- A keyword whose sigma is final is not found where another letter follows. -/
theorem keyword_missed :
    ¬ ∀ (a : Adjustment) (screen : Screen), Screen.ofTables a.tables = .ok screen → ∀ k ∈ a.extraKeywords,
      ∀ l r : String, (screen.checkProhibited (l ++ k ++ r)).safe = false := by
  intro h
  let a : Adjustment := { extraKeywords := ["ΑΣ"] }
  obtain ⟨screen, hs⟩ := a.exists_screen (by decide)
  have hmissed : ((a.tables.prohibitedKeywords.map lowerString).filter
      fun k => Text.contains (lowerString ("" ++ "ΑΣ" ++ "Α")) k) = [] := by decide +kernel
  have hcaught := h a screen hs "ΑΣ" (by decide) "" "Α"
  rw [Screen.checkProhibited, (Screen.isOf_of_ofTables hs).prohibited, hmissed] at hcaught
  cases hcaught

end Adjustment

end Policy

end SiteEdit
