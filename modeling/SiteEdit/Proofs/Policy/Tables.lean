import SiteEdit.Policy.Adjustment
import SiteEdit.Proofs.Policy.Builtin
/-!
# The built-in patterns are well written

Adjustments change no pattern, so adjusted tables can be put to use whenever they leave room for a text.
-/
namespace SiteEdit.Policy

theorem exists_ok {ε α : Type} {x : Except ε α} {p : α → Bool} (h : x.toOption.any p = true) :
    ∃ a, x = .ok a ∧ p a = true := by
  cases x with
  | error e => cases h
  | ok a => exact ⟨a, rfl, h⟩

/-! The patterns are read once for both facts: that they can be, and that the name of a property has none in it. -/

theorem readPatterns_injections :
    (readPatterns Tables.builtinInjections).toOption.any (fun rules => (matching rules "opacity").isEmpty) = true := by
  decide +kernel

theorem readPatterns_markup :
    (readPatterns Tables.builtinMarkup).toOption.any (fun rules => (matching rules "opacity").isEmpty) = true := by
  decide +kernel

/-- Adjusted tables can be put to use. -/
theorem Adjustment.exists_screen (a : Adjustment) (h : a.maxInputLength ≠ 0) :
    ∃ screen, Screen.ofTables a.tables = .ok screen := by
  have hlength : a.tables.maxInputLength ≠ 0 := fun hz => h (UInt64.toNat_inj.1 hz)
  obtain ⟨injection, hi, -⟩ := exists_ok readPatterns_injections
  obtain ⟨markup, hm, -⟩ := exists_ok readPatterns_markup
  have hi : readPatterns a.tables.injectionPatterns = .ok injection := hi
  have hm : readPatterns a.tables.markupPatterns = .ok markup := hm
  have hp : readPersonal a.tables.personalRules = .ok Redactor.builtin.rules := readPersonal_builtin
  unfold Screen.ofTables
  rw [if_neg hlength, hi, hm, hp]
  exact ⟨_, rfl⟩

namespace Screen

/-- A screen that tables were put to use in, but for the redaction. -/
structure IsOf (s : Screen) (t : Tables) : Prop where
  tables : s.tables = t
  dangerous : s.dangerous = t.dangerousCommands.map Text.lowerString
  prohibited : s.prohibited = t.prohibitedKeywords.map Text.lowerString
  injection : readPatterns t.injectionPatterns = .ok s.injection
  markup : readPatterns t.markupPatterns = .ok s.markup

theorem isOf_of_ofTables {t : Tables} {s : Screen} (h : ofTables t = .ok s) : s.IsOf t := by
  unfold ofTables at h
  split at h
  · cases h
  cases hi : readPatterns t.injectionPatterns with
  | error e => rw [hi] at h; cases h
  | ok injection =>
  cases hm : readPatterns t.markupPatterns with
  | error e => rw [hi, hm] at h; cases h
  | ok markup =>
  cases hp : readPersonal t.personalRules with
  | error e => rw [hi, hm, hp] at h; cases h
  | ok personal =>
    rw [hi, hm, hp] at h
    cases h
    exact ⟨rfl, rfl, rfl, hi, hm⟩

end Screen

end SiteEdit.Policy
