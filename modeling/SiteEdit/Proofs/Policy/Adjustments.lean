import SiteEdit.Proofs.Policy.Tables
import SiteEdit.Proofs.Policy.Verdicts
/-!
# Adjustments only add

An adjustment adds names and keywords to the built-in tables.  So the adjusted screen allows the names that were allowed
and finds in every text and every document what was found (`Covers`), and so does the screen of an adjustment that adds
still more (`adjusted_covers`).
-/
namespace SiteEdit.Policy

/-- The checks of the content of a text: all but the one of its length. -/
def contentChecks : List Check := [.dangerousCommand, .promptInjection, .prohibitedContent, .unsafeMarkup]

namespace Screen

variable {s s' : Screen} {d : Document}

/-- What a check detects in the texts of a change. -/
def entries (s : Screen) (c : Change) (k : Check) : List String :=
  c.textFields.flatMap fun field => (s.textFinding field.2 k).detected

/-- The second screen allows the names that the first allows, and finds what the first finds. -/
structure Covers (s s' : Screen) : Prop where
  selectors : ∀ name, (s.checkSelector name).safe = true → (s'.checkSelector name).safe = true
  styleVars : ∀ name, (s.checkStyleVar name).safe = true → (s'.checkStyleVar name).safe = true
  fails : ∀ text, ∀ k ∈ contentChecks, (s.textFinding text k).safe = false → (s'.textFinding text k).safe = false
  detects : ∀ text, ∀ k ∈ contentChecks, (s.textFinding text k).detected ⊆ (s'.textFinding text k).detected

theorem textFinding_safe {text : String} {k : Check} (hk : k ∈ contentChecks) :
    (s.textFinding text k).safe = (s.textFinding text k).detected.isEmpty := by
  cases k <;> simp [contentChecks] at hk <;>
    simp [textFinding, checkCommands, checkInjection, checkProhibited, checkMarkup, Finding.ofDetected_safe,
      Finding.ofDetected_detected]

/-- More to search for is more to find. -/
theorem detected_subset {text : String} {k : Check} (hk : k ∈ contentChecks) (hd : s.dangerous ⊆ s'.dangerous)
    (hi : s.injection ⊆ s'.injection) (hp : s.prohibited ⊆ s'.prohibited) (hm : s.markup ⊆ s'.markup) :
    (s.textFinding text k).detected ⊆ (s'.textFinding text k).detected := by
  cases k with
  | length | selectorWhitelist | variableWhitelist => simp [contentChecks] at hk
  | dangerousCommand =>
    simp only [textFinding, checkCommands, Finding.ofDetected_detected]
    exact List.map_subset _ (List.filter_subset _ hd)
  | promptInjection =>
    simp only [textFinding, checkInjection, Finding.ofDetected_detected]
    exact List.map_subset _ (List.filter_subset _ hi)
  | prohibitedContent =>
    simp only [textFinding, checkProhibited, Finding.ofDetected_detected]
    exact List.filter_subset _ hp
  | unsafeMarkup =>
    simp only [textFinding, checkMarkup, Finding.ofDetected_detected]
    exact List.map_subset _ (List.filter_subset _ hm)

/-- What fails on a change of a document under the first screen fails on it under the second. -/
theorem Covers.violations (h : s.Covers s') {v : Violation} (hv : v ∈ (s.checkDocument d).violations) {k : Check}
    (hk : k ∈ contentChecks) (hf : k ∈ v.failedChecks) : ∃ v' ∈ (s'.checkDocument d).violations,
      v'.index = v.index ∧ v'.op = v.op ∧ k ∈ v'.failedChecks ∧
        ∀ c, d.changes[v.index]? = some c → s.entries c k ⊆ s'.entries c k := by
  obtain ⟨c, hc, hv⟩ := mem_violations_iff.1 hv
  obtain ⟨-, -, hr⟩ := violation?_eq_some hv
  have hfails : s'.Fails c k := by
    cases (hr.checks k).1 hf with
    | selector => simp [contentChecks] at hk
    | styleVar => simp [contentChecks] at hk
    | text hfield hfailed =>
      exact .text hfield (mem_failedChecks_iff.2 (h.fails _ k hk (mem_failedChecks_iff.1 hfailed)))
  obtain ⟨v', hv', hi, hr'⟩ := exists_violation hc (not_passes_iff.2 ⟨k, hfails⟩)
  refine ⟨v', hv', hi, hr'.op.trans hr.op.symm, (hr'.checks k).2 hfails, fun e _ x hx => ?_⟩
  obtain ⟨field, hfield, hx⟩ := List.mem_flatMap.1 hx
  exact List.mem_flatMap.2 ⟨field, hfield, h.detects _ k hk hx⟩

/-- A screen allows the names that some tables allow. -/
def AllowsAs (s : Screen) (t : Tables) : Prop :=
  ∀ name, (s.checkSelector name).safe = t.allowsSelector name ∧ (s.checkStyleVar name).safe = t.allowsStyleVar name

theorem allowsAs_of_ofTables {t : Tables} (h : ofTables t = .ok s) : s.AllowsAs t := by
  intro name
  rw [checkSelector_safe, checkStyleVar_safe, (isOf_of_ofTables h).tables]
  exact ⟨rfl, rfl⟩

end Screen

namespace Adjustment

/-- The second adjustment adds all that the first adds. -/
structure Within (a b : Adjustment) : Prop where
  selectors : a.extraSelectors ⊆ b.extraSelectors
  styleVars : a.extraStyleVars ⊆ b.extraStyleVars
  keywords : a.extraKeywords ⊆ b.extraKeywords

variable {a b : Adjustment} {s s' : Screen}

theorem default_within (a : Adjustment) : Within {} a := ⟨by simp, by simp, by simp⟩

theorem Within.covers (h : a.Within b) (hs : Screen.ofTables a.tables = .ok s)
    (hs' : Screen.ofTables b.tables = .ok s') : s.Covers s' := by
  have hof := Screen.isOf_of_ofTables hs
  have hof' := Screen.isOf_of_ofTables hs'
  -- Commands and patterns are those of the built-in tables on both sides.
  have hdangerous : s.dangerous = s'.dangerous := hof.dangerous.trans hof'.dangerous.symm
  have hinjection : s.injection = s'.injection := Except.ok.inj (hof.injection.symm.trans hof'.injection)
  have hmarkup : s.markup = s'.markup := Except.ok.inj (hof.markup.symm.trans hof'.markup)
  have hprohibited : s.prohibited ⊆ s'.prohibited := by
    rw [hof.prohibited, hof'.prohibited]
    exact List.map_subset _ (foldl_addNew_subset (List.map_subset _ h.keywords))
  have hfound : ∀ text, ∀ k ∈ contentChecks, (s.textFinding text k).detected ⊆ (s'.textFinding text k).detected := by
    intro text k hk
    exact Screen.detected_subset hk (by rw [hdangerous]; simp) (by rw [hinjection]; simp) hprohibited
      (by rw [hmarkup]; simp)
  refine ⟨fun name hname => ?_, fun name hname => ?_, fun text k hk hf => ?_, hfound⟩
  · rw [(Screen.allowsAs_of_ofTables hs name).1] at hname
    rw [(Screen.allowsAs_of_ofTables hs' name).1]
    exact List.contains_iff_mem.2 (foldl_addNew_subset h.selectors (List.contains_iff_mem.1 hname))
  · rw [(Screen.allowsAs_of_ofTables hs name).2] at hname
    rw [(Screen.allowsAs_of_ofTables hs' name).2]
    exact List.contains_iff_mem.2 (foldl_addNew_subset h.styleVars (List.contains_iff_mem.1 hname))
  · rw [Screen.textFinding_safe hk, List.isEmpty_eq_false_iff] at hf
    rw [Screen.textFinding_safe hk, List.isEmpty_eq_false_iff]
    obtain ⟨x, hx⟩ := List.exists_mem_of_ne_nil _ hf
    exact List.ne_nil_of_mem (hfound text k hk hx)

/-- **Adjustments only add.**  Adjusted tables that leave room for a text can be put to use; the screen allows the names
that they list, and covers the one of the built-in tables.  The screen of an adjustment that adds as much covers it in
turn. -/
theorem adjusted_covers (a : Adjustment) (ha : a.maxInputLength ≠ 0) :
    ∃ base screen, Screen.ofTables Tables.builtin = .ok base ∧ Screen.ofTables a.tables = .ok screen ∧
      base.AllowsAs Tables.builtin ∧ screen.AllowsAs a.tables ∧ base.Covers screen ∧
      (∀ d, ∀ v ∈ (base.checkDocument d).violations, ∀ k ∈ contentChecks, k ∈ v.failedChecks →
        ∃ w ∈ (screen.checkDocument d).violations, w.index = v.index ∧ w.op = v.op ∧ k ∈ w.failedChecks ∧
          ∀ c, d.changes[v.index]? = some c → base.entries c k ⊆ screen.entries c k) ∧
      ∀ b : Adjustment, a.Within b → b.maxInputLength ≠ 0 →
        ∃ wider, Screen.ofTables b.tables = .ok wider ∧ screen.Covers wider := by
  obtain ⟨base, hbase⟩ := exists_screen {} (by decide)
  obtain ⟨screen, hscreen⟩ := a.exists_screen ha
  have hcovers : base.Covers screen := (default_within a).covers hbase hscreen
  refine ⟨base, screen, hbase, hscreen, Screen.allowsAs_of_ofTables hbase, Screen.allowsAs_of_ofTables hscreen, hcovers,
    fun d v hv k hk hf => hcovers.violations hv hk hf, fun b hb hroom => ?_⟩
  obtain ⟨wider, hwider⟩ := b.exists_screen hroom
  exact ⟨wider, hwider, hb.covers hscreen hwider⟩

/-- A name and a keyword that are added, the keyword a built-in one; and the same with one more of each kind. -/
theorem adjusted_covers_extras :
    let a : Adjustment := { maxInputLength := 10, extraSelectors := ["#extra"], extraKeywords := ["CASINO"] }
    let b : Adjustment :=
      { maxInputLength := 9, extraSelectors := ["#more", "#extra"], extraStyleVars := ["--more"]
        extraKeywords := ["Wette", "CASINO"] }
    a.Within b ∧ ∃ base screen wider, Screen.ofTables Tables.builtin = .ok base ∧
      Screen.ofTables a.tables = .ok screen ∧ Screen.ofTables b.tables = .ok wider ∧
      (base.checkSelector "#extra").safe = false ∧ (screen.checkSelector "#extra").safe = true ∧
      (wider.checkSelector "#extra").safe = true ∧
      (base.textFinding "Casino" .prohibitedContent).safe = false ∧
      (wider.textFinding "Casino" .prohibitedContent).safe = false ∧
      (screen.textFinding "Wette" .prohibitedContent).detected = [] ∧
      (wider.textFinding "Wette" .prohibitedContent).detected = ["wette"] := by
  intro a b
  have hab : a.Within b := ⟨by decide, by decide, by decide⟩
  obtain ⟨base, screen, hbase, hscreen, hnames, hadded, hcovers, -, hwiden⟩ := adjusted_covers a (by decide)
  obtain ⟨wider, hwider, hwide⟩ := hwiden b hab (by decide)
  have hextra : (screen.checkSelector "#extra").safe = true := (hadded "#extra").1.trans (by decide)
  have hcasino : (base.textFinding "Casino" .prohibitedContent).safe = false := by
    rw [Screen.textFinding_safe (by decide), Screen.textFinding, Screen.checkProhibited, Finding.ofDetected_detected,
      (Screen.isOf_of_ofTables hbase).prohibited]
    decide +kernel
  have hfound : ∀ {t : Tables} {s : Screen}, Screen.ofTables t = .ok s →
      (s.textFinding "Wette" .prohibitedContent).detected =
        (t.prohibitedKeywords.map Text.lowerString).filter fun k => Text.contains (Text.lowerString "Wette") k := by
    intro t s hs
    rw [Screen.textFinding, Screen.checkProhibited, Finding.ofDetected_detected, (Screen.isOf_of_ofTables hs).prohibited]
  refine ⟨hab, base, screen, wider, hbase, hscreen, hwider, (hnames "#extra").1.trans (by decide), hextra,
    hwide.selectors _ hextra, hcasino, ?_, (hfound hscreen).trans (by decide +kernel),
    (hfound hwider).trans (by decide +kernel)⟩
  exact hwide.fails _ _ (by decide) (hcovers.fails _ _ (by decide) hcasino)

end Adjustment

end SiteEdit.Policy
