import SiteEdit.Policy.Screen
/-!
# Documents that pass a screen

A document is safe exactly if every change of it has allowed names and safe texts (`checkDocument_safe_iff`).
-/
namespace SiteEdit.Policy

/-! ## Lists without repetition -/

theorem foldl_addNew_subset {α : Type} [BEq α] [LawfulBEq α] {xs ys acc : List α} (h : xs ⊆ ys) :
    xs.foldl addNew acc ⊆ ys.foldl addNew acc := by
  intro x hx
  rw [mem_foldl_addNew] at hx ⊢
  exact hx.imp id fun hx => h hx

theorem nodup_foldl_addNew {α : Type} [BEq α] [LawfulBEq α] :
    ∀ {xs acc : List α}, acc.Nodup → (xs.foldl addNew acc).Nodup
  | [], _, h => h
  | x :: xs, acc, h => by
    rw [List.foldl_cons]
    apply nodup_foldl_addNew
    unfold addNew
    split
    · exact h
    · rename_i hx
      rw [List.contains_iff_mem] at hx
      exact List.nodup_append.2 ⟨h, by simp, fun y hy z hz hyz => hx (by simp_all)⟩

/-! ## Findings -/

/-- What was detected is all that a check says of a text. -/
theorem Finding.ofDetected_detected (detected : List String) (reason : String) :
    (Finding.ofDetected detected reason).detected = detected := by
  unfold ofDetected
  split
  · rename_i h
    exact (List.isEmpty_iff.1 h).symm
  · rfl

theorem Finding.ofDetected_safe (detected : List String) (reason : String) :
    (Finding.ofDetected detected reason).safe = detected.isEmpty := by
  unfold ofDetected
  cases h : detected.isEmpty <;> rfl

namespace Screen

variable {s : Screen} {c : Change}

/-- What a screen asks of a change. -/
structure Passes (s : Screen) (c : Change) : Prop where
  selector : s.tables.allowsSelector c.selector = true
  styleVar : ∀ var, c.styleVar? = some var → s.tables.allowsStyleVar var = true
  texts : ∀ field ∈ c.textFields, (s.checkText field.2).safe = true

/-- The set of the selectors is the table of them. -/
theorem contains_selectors (s : Screen) (selector : String) :
    s.selectors.contains selector = s.tables.allowsSelector selector := by
  rw [Tables.allowsSelector, Bool.eq_iff_iff, List.contains_iff_mem, List.contains_iff_mem, s.mem_selectors]

theorem contains_styleVars (s : Screen) (var : String) : s.styleVars.contains var = s.tables.allowsStyleVar var := by
  rw [Tables.allowsStyleVar, Bool.eq_iff_iff, List.contains_iff_mem, List.contains_iff_mem, s.mem_styleVars]

theorem checkSelector_safe (s : Screen) (selector : String) :
    (s.checkSelector selector).safe = s.tables.allowsSelector selector := by
  unfold checkSelector
  rw [s.contains_selectors]
  cases s.tables.allowsSelector selector <;> rfl

theorem checkStyleVar_safe (s : Screen) (var : String) : (s.checkStyleVar var).safe = s.tables.allowsStyleVar var := by
  unfold checkStyleVar
  rw [s.contains_styleVars]
  cases s.tables.allowsStyleVar var <;> rfl

theorem nameFindings_safe_iff : (∀ f ∈ s.nameFindings c, f.2.safe = true) ↔
    s.tables.allowsSelector c.selector = true ∧ ∀ var, c.styleVar? = some var → s.tables.allowsStyleVar var = true := by
  unfold nameFindings
  rw [List.forall_mem_cons, checkSelector_safe]
  refine and_congr_right fun _ => ?_
  simp [checkStyleVar_safe]

theorem checkText_safe_iff {text : String} :
    (s.checkText text).safe = true ↔ ∀ f ∈ s.textFindings text, f.2.safe = true := by
  unfold checkText
  dsimp only
  rw [List.isEmpty_iff, textFailures, List.filterMap_eq_nil_iff]
  exact forall₂_congr fun f _ => by cases f.2.safe <;> simp

/-- A verdict has as many reasons as failed checks. -/
theorem length_reasons (s : Screen) (text : String) :
    (s.checkText text).reasons.length = (s.checkText text).failedChecks.length := by
  simp [checkText]

theorem failedChecks_eq_nil_iff {text : String} :
    (s.checkText text).failedChecks = [] ↔ (s.checkText text).safe = true := by
  simp [checkText]

theorem zip_checkText_eq_nil_iff {text : String} :
    (s.checkText text).failedChecks.zip (s.checkText text).reasons = [] ↔ (s.checkText text).safe = true := by
  rw [← List.length_eq_zero_iff, List.length_zip, length_reasons, Nat.min_self, List.length_eq_zero_iff,
    failedChecks_eq_nil_iff]

theorem changeFailures_eq_nil_iff : s.changeFailures c = [] ↔ s.Passes c := by
  have hnames : (s.nameFindings c).filterMap (fun f => if f.2.safe then none else some (f.1, f.2.text)) = [] ↔
      ∀ f ∈ s.nameFindings c, f.2.safe = true := by
    rw [List.filterMap_eq_nil_iff]
    exact forall₂_congr fun f _ => by cases f.2.safe <;> simp
  have htexts : (c.textFields.flatMap fun field =>
      let verdict := s.checkText field.2
      (verdict.failedChecks.zip verdict.reasons).map fun f => (f.1, field.1 ++ ": " ++ f.2)) = [] ↔
      ∀ field ∈ c.textFields, (s.checkText field.2).safe = true := by
    rw [List.flatMap_eq_nil_iff]
    exact forall₂_congr fun field _ => List.map_eq_nil_iff.trans zip_checkText_eq_nil_iff
  unfold changeFailures
  rw [List.append_eq_nil_iff, hnames, htexts, nameFindings_safe_iff]
  exact ⟨fun h => ⟨h.1.1, h.1.2, h.2⟩, fun h => ⟨⟨h.selector, h.styleVar⟩, h.texts⟩⟩

theorem violation?_eq_none_iff {i : Nat} : s.violation? i c = none ↔ s.Passes c := by
  unfold violation?
  simp [changeFailures_eq_nil_iff]

theorem violationsFrom_eq_nil_iff : ∀ (i : Nat) (cs : List Change),
    s.violationsFrom i cs = [] ↔ ∀ c ∈ cs, s.Passes c
  | _, [] => by simp [violationsFrom]
  | i, c :: cs => by
    rw [violationsFrom, List.append_eq_nil_iff, violationsFrom_eq_nil_iff (i + 1) cs, Option.toList_eq_nil_iff,
      violation?_eq_none_iff, List.forall_mem_cons]

theorem checkDocument_safe_iff {d : Document} : (s.checkDocument d).safe = true ↔ ∀ c ∈ d.changes, s.Passes c := by
  unfold checkDocument
  dsimp only
  rw [List.isEmpty_iff, violationsFrom_eq_nil_iff]

end Screen

end SiteEdit.Policy
