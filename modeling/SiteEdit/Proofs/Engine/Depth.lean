import SiteEdit.Proofs.Engine.Screening
import SiteEdit.Proofs.Policy.Tables
/-!
# How far the policy looks into a change

A property may be given any value, and the policy looks at a value only if it is a string.  What is inside a list or
an object is not read, so documents that hold such values are safe by their other texts alone
(`checkDocument_reads_fields`).  The schema leaves no room for them.
-/
namespace SiteEdit

open Json (StringAt NameAt)

namespace Change

/-- A text stands in a change, so many lists and objects deep: one of its fields but for the selector and the variable,
or a string or the name of a member in the value of a property. -/
inductive TextAt : Change → Nat → String → Prop where
  | text (selector text : String) : TextAt (.setText selector text) 0 text
  | styleValue (selector var value : String) : TextAt (.setStyleVar selector var value) 0 value
  | prop (selector prop : String) (value : Json) : TextAt (.setProp selector prop value) 0 prop
  | string (selector prop : String) {value : Json} {path : List Json.Step} {t : String} (h : value.StringAt path t) :
    TextAt (.setProp selector prop value) path.length t
  | member (selector prop : String) {value : Json} {path : List Json.Step} {t : String} (h : value.NameAt path t) :
    TextAt (.setProp selector prop value) (path.length + 1) t

variable {c : Change} {t : String}

/-- The texts that are not inside a list or an object are those of the fields. -/
theorem textAt_zero_iff : c.TextAt 0 t ↔ ∃ field ∈ c.textFields, field.2 = t := by
  constructor
  · intro h
    generalize hn : 0 = n at h
    cases h with
    | text | styleValue => exact ⟨_, List.mem_singleton_self _, rfl⟩
    | prop selector prop value => cases value <;> exact ⟨_, List.mem_cons_self, rfl⟩
    | string selector prop h =>
      obtain rfl := List.length_eq_zero_iff.1 hn.symm
      cases h
      exact ⟨_, List.mem_cons_of_mem _ (List.mem_singleton_self _), rfl⟩
    | member => cases hn
  · rintro ⟨field, hf, rfl⟩
    cases c with
    | setText => exact List.mem_singleton.1 hf ▸ .text ..
    | setStyleVar => exact List.mem_singleton.1 hf ▸ .styleValue ..
    | toggle => cases hf
    | reorder => cases hf
    | setProp selector prop value =>
      cases value with
      | str word =>
        rcases List.mem_cons.1 hf with rfl | hf
        · exact .prop ..
        · have hword : (Json.str word).StringAt [] word := .here _
          exact List.mem_singleton.1 hf ▸ .string selector prop hword
      | _ => exact List.mem_singleton.1 hf ▸ .prop ..

/-- A change of the grammar holds no text inside a list or an object. -/
theorem TextAt.eq_zero {n : Nat} (h : c.TextAt n t) (hc : Schema.IsChange c.toValue) : n = 0 := by
  have hvalue {selector prop : String} {value : Json} (hc : Schema.IsChange (setProp selector prop value).toValue) :
      value.Plain := plain_entries hc ("value", value) (by simp [members])
  cases h with
  | text | styleValue | prop => rfl
  | string selector prop h =>
    obtain rfl := (hvalue hc).strings _ t h
    rfl
  | member selector prop h => exact absurd h ((hvalue hc).names _ t)

end Change

namespace Policy.Screen

/-- **The policy reads the fields of a change and nothing inside them.**  A document is safe exactly if every selector
and style variable in it is allowed and every text that is not inside a list or an object is safe.  In a document of
the grammar those are all texts. -/
theorem checkDocument_reads_fields (s : Screen) (d : Document) :
    ((s.checkDocument d).safe = true ↔ ∀ c ∈ d.changes, s.tables.allowsSelector c.selector = true ∧
      (∀ var, c.styleVar? = some var → s.tables.allowsStyleVar var = true) ∧
      ∀ t, c.TextAt 0 t → (s.checkText t).safe = true) ∧
    (Schema.IsDocument d.toValue → ∀ c ∈ d.changes, ∀ n t, c.TextAt n t → n = 0) := by
  constructor
  · rw [checkDocument_safe_iff]
    refine forall₂_congr fun c _ => ⟨fun h => ⟨h.selector, h.styleVar, fun t ht => ?_⟩, fun h => ?_⟩
    · obtain ⟨field, hf, rfl⟩ := Change.textAt_zero_iff.1 ht
      exact h.texts field hf
    · exact ⟨h.1, h.2.1, fun field hf => h.2.2 field.2 (Change.textAt_zero_iff.2 ⟨field, hf, rfl⟩)⟩
  · intro hd c hc n t ht
    exact ht.eq_zero (hd.of_toValue.2 c hc)

/-- A document of the grammar that is safe, and all its texts are, at every depth. -/
theorem checkDocument_reads_fields_title :
    let tables : Tables :=
      { version := "1", allowedSelectors := ["#title"], allowedStyleVars := [], dangerousCommands := ["sudo "],
        injectionPatterns := [], prohibitedKeywords := ["casino"], markupPatterns := [], personalRules := [],
        maxInputLength := 20 }
    let d := Document.ofChanges [.setText "#title" "Hello", .setProp "#title" "font_weight" (.str "bold")]
    ∃ s, ofTables tables = .ok s ∧ Schema.IsDocument d.toValue ∧
      ∀ c ∈ d.changes, ∀ n t, c.TextAt n t → (s.checkText t).safe = true := by
  intro tables d
  have hscreen : ∃ s, ofTables tables = .ok s ∧ (s.checkDocument d).safe = true := ⟨_, rfl, by decide +kernel⟩
  have hd : Schema.IsDocument d.toValue := Schema.isDocument_of_valid (by decide +kernel)
  obtain ⟨s, hs, hsafe⟩ := hscreen
  obtain ⟨hsafe_iff, hdepth⟩ := checkDocument_reads_fields s d
  refine ⟨s, hs, hd, fun c hc n t ht => ?_⟩
  obtain rfl := hdepth hd c hc n t ht
  exact (hsafe_iff.1 hsafe c hc).2.2 t ht

/-- The name of a property is a safe text by the tables that are not adjusted. -/
theorem checkText_opacity {s : Screen} (hs : ofTables ({} : Adjustment).tables = .ok s) :
    (s.checkText "opacity").safe = true := by
  have hof := isOf_of_ofTables hs
  have hmatching {builtin : List PatternRule} {rules : List NamedPattern} (hrules : readPatterns builtin = .ok rules)
      (hb : (readPatterns builtin).toOption.any (fun rules => (matching rules "opacity").isEmpty) = true) :
      matching rules "opacity" = [] := by
    rw [hrules] at hb
    exact List.isEmpty_iff.1 hb
  have hlength : (s.checkLength "opacity").safe = true := by
    rw [checkLength, hof.tables]
    decide +kernel
  have hcommands : (s.checkCommands "opacity").safe = true := by
    rw [checkCommands, hof.dangerous]
    decide +kernel
  have hinjection : (s.checkInjection "opacity").safe = true := by
    rw [checkInjection, hmatching hof.injection readPatterns_injections]
    rfl
  have hprohibited : (s.checkProhibited "opacity").safe = true := by
    rw [checkProhibited, hof.prohibited]
    decide +kernel
  have hmarkup : (s.checkMarkup "opacity").safe = true := by
    rw [checkMarkup, hmatching hof.markup readPatterns_markup]
    rfl
  rw [checkText_safe_iff]
  simp [textFindings, hlength, hcommands, hinjection, hprohibited, hmarkup]

theorem checkText_casino {s : Screen} (hs : ofTables ({} : Adjustment).tables = .ok s) :
    (s.checkText "casino").safe = false := by
  have hprohibited : (s.checkProhibited "casino").safe = false := by
    rw [checkProhibited, (isOf_of_ofTables hs).prohibited]
    decide +kernel
  refine Bool.eq_false_iff.2 fun hsafe => ?_
  have hfinding := checkText_safe_iff.1 hsafe (.prohibitedContent, s.checkProhibited "casino") (by simp [textFindings])
  rw [hprohibited] at hfinding
  cases hfinding

/-- A prohibited word in a list is not found. -/
theorem list_unread :
    ¬ ∀ (a : Adjustment) (s : Screen), ofTables a.tables = .ok s → ∀ d, (s.checkDocument d).safe = true →
      ∀ c ∈ d.changes, ∀ n t, c.TextAt n t → (s.checkText t).safe = true := by
  intro h
  let c : Change := .setProp "#banner" "opacity" (.arr [.str "casino"])
  obtain ⟨s, hs⟩ := ({} : Adjustment).exists_screen (by decide)
  have hpasses : s.Passes c := by
    refine ⟨?_, nofun, fun field hf => ?_⟩
    · rw [(isOf_of_ofTables hs).tables]
      decide +kernel
    · exact List.mem_singleton.1 hf ▸ checkText_opacity hs
  have hsafe : (s.checkDocument (.ofChanges [c])).safe = true :=
    checkDocument_safe_iff.2 (List.forall_mem_singleton.2 hpasses)
  have hitem : (Json.arr [.str "casino"]).StringAt [.item 0] "casino" := .item rfl (.here _)
  have hinside : c.TextAt 1 "casino" := .string "#banner" "opacity" hitem
  have hcasino := h {} s hs _ hsafe c (List.mem_singleton_self c) 1 "casino" hinside
  rw [checkText_casino hs] at hcasino
  cases hcasino

end Policy.Screen

end SiteEdit
