import Mathlib.Logic.ExistsUnique
import Mathlib.Tactic.ByContra
import Mathlib.Tactic.Push
import SiteEdit.Proofs.Policy.Documents
/-!
# Verdicts on documents

The verdict on a document lists the changes that fail a check, in their order.  It says of each which checks fail on it,
and gives a reason for every time that one does (`Reports`).  The risk counts the checks that fail on any change
(`checkDocument_exact`).
-/
namespace SiteEdit.Policy

/-- The risk tells no check, just one and several apart, whatever their order. -/
theorem Risk.ofFailures_length {ks : List Check} {P : Check → Prop} (hn : ks.Nodup) (hks : ∀ k, k ∈ ks ↔ P k) :
    (Risk.ofFailures ks.length = .low ↔ ∀ k, ¬ P k) ∧ (Risk.ofFailures ks.length = .medium ↔ ∃! k, P k) ∧
      (Risk.ofFailures ks.length = .high ↔ ∃ j k, j ≠ k ∧ P j ∧ P k) := by
  simp only [← hks]
  match ks, hn with
  | [], _ => simp [Risk.ofFailures, ExistsUnique]
  | [k], _ => simp [Risk.ofFailures]
  | j :: k :: ks, hn =>
    have hjk : j ≠ k := fun h => (List.nodup_cons.1 hn).1 (by simp [h])
    refine ⟨?_, ?_, ?_⟩
    · simp only [Risk.ofFailures, List.length_cons, reduceCtorEq, false_iff]
      intro h
      exact h j (by simp)
    · simp only [Risk.ofFailures, List.length_cons, reduceCtorEq, false_iff]
      intro h
      exact hjk (h.unique (by simp) (by simp))
    · simp only [Risk.ofFailures, List.length_cons, true_iff]
      exact ⟨j, k, hjk, by simp, by simp⟩

namespace Screen

variable {s : Screen} {c : Change} {i : Nat} {v : Violation}

/-! ## Checks of a text -/

/-- The checks of texts, in the order in which they are made. -/
def textChecks : List Check := [.length, .dangerousCommand, .promptInjection, .prohibitedContent, .unsafeMarkup]

/-- What a check finds in a text. -/
def textFinding (s : Screen) (text : String) : Check → Finding
  | .length => s.checkLength text
  | .dangerousCommand => s.checkCommands text
  | .promptInjection => s.checkInjection text
  | .prohibitedContent => s.checkProhibited text
  | .unsafeMarkup => s.checkMarkup text
  | .selectorWhitelist | .variableWhitelist => .pass

theorem textFindings_eq_map (s : Screen) (text : String) :
    s.textFindings text = textChecks.map fun k => (k, s.textFinding text k) := rfl

theorem textFailures_eq_map (s : Screen) (text : String) :
    s.textFailures text = (textChecks.filter fun k => !(s.textFinding text k).safe).map
      fun k => (k, (s.textFinding text k).text) := by
  rw [textFailures, textFindings_eq_map, List.filterMap_map, ← List.filterMap_eq_map, List.filterMap_filter]
  congr 1
  funext k
  cases h : (s.textFinding text k).safe <;> simp [h]

theorem failedChecks_eq_filter (s : Screen) (text : String) :
    (s.checkText text).failedChecks = textChecks.filter fun k => !(s.textFinding text k).safe := by
  simp [checkText, textFailures_eq_map, Function.comp_def]

theorem reasons_eq_map (s : Screen) (text : String) :
    (s.checkText text).reasons = (s.checkText text).failedChecks.map fun k => (s.textFinding text k).text := by
  rw [failedChecks_eq_filter]
  simp [checkText, textFailures_eq_map, Function.comp_def]

/-- Every failed check of a text comes with its reason. -/
theorem zip_checkText (s : Screen) (text : String) : (s.checkText text).failedChecks.zip (s.checkText text).reasons =
    (s.checkText text).failedChecks.map fun k => (k, (s.textFinding text k).text) := by
  rw [reasons_eq_map, List.map_prod_left_eq_zip]

theorem mem_failedChecks_iff {text : String} {k : Check} :
    k ∈ (s.checkText text).failedChecks ↔ (s.textFinding text k).safe = false := by
  rw [failedChecks_eq_filter, List.mem_filter]
  cases k <;> simp [textChecks, textFinding, Finding.pass]

/-! ## Checks of a change -/

/-- A check fails on a change: on one of its names or on one of its texts. -/
inductive Fails (s : Screen) (c : Change) : Check → Prop where
  | selector (h : s.tables.allowsSelector c.selector = false) : Fails s c .selectorWhitelist
  | styleVar {var : String} (hv : c.styleVar? = some var) (h : s.tables.allowsStyleVar var = false) :
    Fails s c .variableWhitelist
  | text {field : String × String} {k : Check} (hf : field ∈ c.textFields)
    (h : k ∈ (s.checkText field.2).failedChecks) : Fails s c k

/-- A reason for each name in a change that is not allowed. -/
def nameReasons (s : Screen) (c : Change) : List String :=
  (if s.tables.allowsSelector c.selector then [] else [(s.checkSelector c.selector).text])
    ++ (c.styleVar?.toList.filter fun var => !s.tables.allowsStyleVar var).map fun var => (s.checkStyleVar var).text

/-- A reason for each check that a text of a change fails. -/
def textReasons (s : Screen) (c : Change) : List String :=
  c.textFields.flatMap fun field =>
    (s.checkText field.2).failedChecks.map fun k => field.1 ++ ": " ++ (s.textFinding field.2 k).text

/-- A violation says all that is wrong with a change. -/
structure Reports (s : Screen) (c : Change) (v : Violation) : Prop where
  op : v.op = c.op
  nodup : v.failedChecks.Nodup
  checks : ∀ k, k ∈ v.failedChecks ↔ s.Fails c k
  reasons : v.reasons = s.nameReasons c ++ s.textReasons c

theorem not_passes_iff : ¬ s.Passes c ↔ ∃ k, s.Fails c k := by
  constructor
  · intro h
    by_contra hno
    push Not at hno
    refine h ⟨?_, fun var hvar => ?_, fun field hf => ?_⟩
    · by_contra hs
      exact hno _ (.selector (Bool.eq_false_iff.2 hs))
    · by_contra hs
      exact hno _ (.styleVar hvar (Bool.eq_false_iff.2 hs))
    · rw [checkText_safe_iff, textFindings_eq_map]
      intro f hfm
      obtain ⟨k, -, rfl⟩ := List.mem_map.1 hfm
      by_contra hs
      exact hno k (.text hf (mem_failedChecks_iff.2 (Bool.eq_false_iff.2 hs)))
  · rintro ⟨k, hk⟩ h
    cases hk with
    | selector hs => simp [h.selector] at hs
    | styleVar hv hs => simp [h.styleVar _ hv] at hs
    | text hf hk =>
      have hsafe := h.texts _ hf
      simp only [checkText, List.isEmpty_iff] at hsafe
      simp [checkText, hsafe] at hk

theorem changeFailures_eq (s : Screen) (c : Change) : s.changeFailures c =
    ((if s.tables.allowsSelector c.selector then [] else [(.selectorWhitelist, (s.checkSelector c.selector).text)])
      ++ (c.styleVar?.toList.filter fun var => !s.tables.allowsStyleVar var).map
        fun var => (.variableWhitelist, (s.checkStyleVar var).text))
      ++ c.textFields.flatMap fun field => (s.checkText field.2).failedChecks.map
        fun k => (k, field.1 ++ ": " ++ (s.textFinding field.2 k).text) := by
  unfold changeFailures nameFindings
  congr 1
  · rw [List.filterMap_cons, checkSelector_safe]
    cases c.styleVar? with
    | none => by_cases hs : s.tables.allowsSelector c.selector <;> simp [hs]
    | some var =>
      by_cases hs : s.tables.allowsSelector c.selector <;> by_cases hv : s.tables.allowsStyleVar var <;>
        simp [hs, hv, checkStyleVar_safe]
  · simp [zip_checkText, Function.comp_def]

theorem changeFailures_reasons (s : Screen) (c : Change) :
    (s.changeFailures c).map Prod.snd = s.nameReasons c ++ s.textReasons c := by
  rw [changeFailures_eq, List.map_append, nameReasons, textReasons]
  congr 1
  · by_cases hs : s.tables.allowsSelector c.selector <;> simp [hs]
  · simp [List.map_flatMap, Function.comp_def]

theorem mem_changeFailures_iff {k : Check} : k ∈ (s.changeFailures c).map Prod.fst ↔ s.Fails c k := by
  rw [changeFailures_eq]
  simp only [List.map_append, List.mem_append, List.map_map, List.mem_map, List.mem_filter, Option.mem_toList,
    List.mem_flatMap, Bool.not_eq_true', Function.comp_apply]
  constructor
  · rintro ((h | ⟨var, ⟨hv, hs⟩, rfl⟩) | ⟨⟨k', r⟩, ⟨field, hf, hk⟩, rfl⟩)
    · by_cases hs : s.tables.allowsSelector c.selector
      · simp [hs] at h
      · obtain rfl : k = .selectorWhitelist := by simpa [hs, eq_comm] using h
        exact .selector (Bool.eq_false_iff.2 hs)
    · exact .styleVar hv hs
    · obtain ⟨j, hj, he⟩ := hk
      cases he
      exact .text hf hj
  · intro h
    cases h with
    | selector hs => exact .inl (.inl (by simp [hs]))
    | styleVar hv hs => exact .inl (.inr ⟨_, ⟨hv, hs⟩, rfl⟩)
    | text hf hk => exact .inr ⟨_, ⟨_, hf, _, hk, rfl⟩, rfl⟩

/-! ## Changes of a document -/

theorem violation?_eq_some (h : s.violation? i c = some v) : v.index = i ∧ ¬ s.Passes c ∧ s.Reports c v := by
  have hfails : ¬ s.Passes c := by
    intro hp
    rw [violation?_eq_none_iff.2 hp] at h
    cases h
  unfold violation? at h
  dsimp only at h
  split at h
  · cases h
  · cases h
    refine ⟨rfl, hfails, rfl, nodup_foldl_addNew (by simp), fun k => ?_, changeFailures_reasons s c⟩
    rw [mem_foldl_addNew, mem_changeFailures_iff]
    simp

theorem mem_violationsFrom_iff : ∀ {i : Nat} {cs : List Change},
    v ∈ s.violationsFrom i cs ↔ ∃ j c, cs[j]? = some c ∧ s.violation? (i + j) c = some v
  | _, [] => by simp [violationsFrom]
  | i, c :: cs => by
    rw [violationsFrom, List.mem_append, Option.mem_toList, mem_violationsFrom_iff]
    constructor
    · rintro (h | ⟨j, d, hd, h⟩)
      · exact ⟨0, c, rfl, h⟩
      · exact ⟨j + 1, d, hd, by rwa [Nat.add_comm j 1, ← Nat.add_assoc]⟩
    · rintro ⟨j, d, hd, h⟩
      cases j with
      | zero =>
        cases hd
        exact .inl h
      | succ j => exact .inr ⟨j, d, hd, by rwa [Nat.add_comm j 1, ← Nat.add_assoc] at h⟩

theorem violationsFrom_ascending : ∀ (i : Nat) (cs : List Change),
    ((s.violationsFrom i cs).map Violation.index).Pairwise (· < ·)
  | _, [] => .nil
  | i, c :: cs => by
    rw [violationsFrom, List.map_append, List.pairwise_append]
    refine ⟨by cases s.violation? i c <;> simp, violationsFrom_ascending (i + 1) cs, ?_⟩
    intro m hm n hn
    obtain ⟨v, hv, rfl⟩ := List.mem_map.1 hm
    obtain ⟨w, hw, rfl⟩ := List.mem_map.1 hn
    obtain ⟨j, d, -, hd⟩ := mem_violationsFrom_iff.1 hw
    have hv := (violation?_eq_some (Option.mem_toList.1 hv)).1
    have hw := (violation?_eq_some hd).1
    omega

theorem mem_violations_iff {d : Document} : v ∈ (s.checkDocument d).violations ↔
    ∃ c, d.changes[v.index]? = some c ∧ s.violation? v.index c = some v := by
  show v ∈ s.violationsFrom 0 d.changes ↔ _
  rw [mem_violationsFrom_iff]
  constructor
  · rintro ⟨j, c, hc, h⟩
    obtain rfl : v.index = j := by simpa using (violation?_eq_some h).1
    exact ⟨c, hc, by simpa using h⟩
  · rintro ⟨c, hc, h⟩
    exact ⟨v.index, c, hc, by simpa using h⟩

/-- A change that fails a check is listed. -/
theorem exists_violation {d : Document} (hc : d.changes[i]? = some c) (h : ¬ s.Passes c) :
    ∃ v ∈ (s.checkDocument d).violations, v.index = i ∧ s.Reports c v := by
  cases hv : s.violation? i c with
  | none => exact absurd (violation?_eq_none_iff.1 hv) h
  | some v =>
    obtain ⟨rfl, -, hr⟩ := violation?_eq_some hv
    exact ⟨v, mem_violations_iff.2 ⟨c, hc, hv⟩, rfl, hr⟩

/-- A check fails on a change of a document. -/
def FailsIn (s : Screen) (d : Document) (k : Check) : Prop := ∃ c ∈ d.changes, s.Fails c k

theorem mem_violations_checks_iff {d : Document} {k : Check} :
    (∃ v ∈ (s.checkDocument d).violations, k ∈ v.failedChecks) ↔ s.FailsIn d k := by
  constructor
  · rintro ⟨v, hv, hk⟩
    obtain ⟨c, hc, h⟩ := mem_violations_iff.1 hv
    exact ⟨c, List.mem_of_getElem? hc, ((violation?_eq_some h).2.2.checks k).1 hk⟩
  · rintro ⟨c, hc, hk⟩
    obtain ⟨i, hi⟩ := List.mem_iff_getElem?.1 hc
    obtain ⟨v, hv, -, hr⟩ := exists_violation hi (not_passes_iff.2 ⟨k, hk⟩)
    exact ⟨v, hv, (hr.checks k).2 hk⟩

/-- **The verdict on a document is exact.**  It is safe exactly if every change passes.  The violations are those of the
other changes, in their order, and each reports all that fails on its change.  The risk is low, medium or high as no
check, one or more of them fail in the document. -/
theorem checkDocument_exact (s : Screen) (d : Document) :
    let verdict := s.checkDocument d
    (verdict.safe = true ↔ ∀ c ∈ d.changes, s.Passes c) ∧
    (verdict.violations.map Violation.index).Pairwise (· < ·) ∧
    (∀ i, i ∈ verdict.violations.map Violation.index ↔ ∃ c, d.changes[i]? = some c ∧ ¬ s.Passes c) ∧
    (∀ v ∈ verdict.violations, ∃ c, d.changes[v.index]? = some c ∧ s.Reports c v) ∧
    (verdict.risk = .low ↔ ∀ k, ¬ s.FailsIn d k) ∧
    (verdict.risk = .medium ↔ ∃! k, s.FailsIn d k) ∧
    (verdict.risk = .high ↔ ∃ j k, j ≠ k ∧ s.FailsIn d j ∧ s.FailsIn d k) := by
  intro verdict
  have hrisk : ∀ k, k ∈ (verdict.violations.flatMap Violation.failedChecks).foldl addNew [] ↔ s.FailsIn d k := by
    intro k
    rw [← mem_violations_checks_iff, mem_foldl_addNew]
    simp [verdict]
  refine ⟨checkDocument_safe_iff, violationsFrom_ascending 0 d.changes, fun i => ?_, fun v hv => ?_,
    Risk.ofFailures_length (nodup_foldl_addNew (by simp)) hrisk⟩
  · rw [List.mem_map]
    constructor
    · rintro ⟨v, hv, rfl⟩
      obtain ⟨c, hc, h⟩ := mem_violations_iff.1 hv
      exact ⟨c, hc, (violation?_eq_some h).2.1⟩
    · rintro ⟨c, hc, h⟩
      obtain ⟨v, hv, hi, -⟩ := exists_violation hc h
      exact ⟨v, hv, hi⟩
  · obtain ⟨c, hc, h⟩ := mem_violations_iff.1 hv
    exact ⟨c, hc, (violation?_eq_some h).2.2⟩

end Screen

end SiteEdit.Policy
