import SiteEdit.Proofs.Document.Decoding
import SiteEdit.Proofs.Request.Colours
import SiteEdit.Request.Intent
/-!
# The documents that requests ask for

Every change that a rule finds is a change of the grammar.  So the schema accepts every document that is understood.
Such a document changes a text, the theme colour and the banner, each at most once and in this order
(`parse?_ordered`): the title is not looked for where the subtitle could be found.
-/
namespace SiteEdit.Request

open Schema (IsSelector IsStyleVar IsStyleValue IsChange isSelector_iff isStyleVar_iff)

variable {n : Normalized} {text : String}

/-! ## Values -/

theorem length_of_valueFrom? {start : Nat} {value : List Char} (h : n.valueFrom? start = some value) :
    value.length ≤ maxValue := by
  unfold Normalized.valueFrom? at h
  simp only [Option.bind_eq_bind, Option.bind_eq_some_iff] at h
  obtain ⟨rest, -, ⟨at_, length⟩, -, tail, -, raw, -, h⟩ := h
  split_ifs at h with hv
  cases h
  exact Nat.not_lt.1 (not_or.1 hv).2

/-! ## Rules -/

/-- Whether a rule looks for the text of an element that can be selected. -/
def Rule.Selects : Rule → Prop
  | .text _ _ _ selector => IsSelector selector
  | .themeColour | .banner => True

theorem selects_builtin : ∀ rule ∈ Rule.builtin, rule.Selects := by
  have htitle : IsSelector "#main-title" := isSelector_iff.1 (by decide)
  have hsubtitle : IsSelector "#subtitle" := isSelector_iff.1 (by decide)
  simpa [Rule.builtin] using ⟨htitle, hsubtitle, trivial, trivial⟩

theorem Rule.change?_text {name selector : String} {triggers suppressedBy : List String} {c : Change}
    (h : (Rule.text name triggers suppressedBy selector).change? n = some c) :
    n.containsAny suppressedBy = false ∧ (n.findTrigger? triggers).isSome ∧
      ∃ value, c = .setText selector (String.ofList value) ∧ value.length ≤ maxValue := by
  rw [Rule.change?] at h
  split_ifs at h with hs
  obtain ⟨⟨_, stop⟩, ht, h⟩ := Option.bind_eq_some_iff.1 h
  obtain ⟨value, hvalue, h⟩ := Option.bind_eq_some_iff.1 h
  cases h
  exact ⟨Bool.eq_false_iff.2 hs, by simp [ht], value, rfl, length_of_valueFrom? hvalue⟩

theorem Rule.change?_themeColour {c : Change} (h : Rule.themeColour.change? n = some c) :
    ∃ colour, c = .setStyleVar "body" "--color-primary" colour ∧ IsStyleValue colour := by
  rw [Rule.change?] at h
  obtain ⟨⟨_, stop⟩, -, h⟩ := Option.bind_eq_some_iff.1 h
  obtain ⟨value, -, h⟩ := Option.bind_eq_some_iff.1 h
  obtain ⟨colour, hcolour, h⟩ := Option.bind_eq_some_iff.1 h
  cases h
  exact ⟨colour, rfl, isStyleValue_of_resolveColour? hcolour⟩

theorem Rule.change?_banner {c : Change} (h : Rule.banner.change? n = some c) :
    ∃ visible, c = .toggle "#banner" visible := by
  rw [Rule.change?] at h
  obtain ⟨-, -, h⟩ := Option.bind_eq_some_iff.1 h
  split at h
  · exact ⟨false, (Option.some.inj h).symm⟩
  · exact ⟨true, (Option.some.inj h).symm⟩
  · cases h

theorem isChange_of_change? {rule : Rule} {c : Change} (hr : rule.Selects) (h : rule.change? n = some c) :
    IsChange c.toValue := by
  cases rule with
  | text name triggers suppressedBy selector =>
    obtain ⟨-, -, value, rfl, hlen⟩ := Rule.change?_text h
    have hlen : (String.ofList value).length ≤ maxValue := String.length_ofList.le.trans hlen
    exact .setText (Json.hasJust_sortMembers (Change.entries_nodup (.setText _ _))) hr (hlen.trans (by decide))
  | themeColour =>
    obtain ⟨colour, rfl, hcolour⟩ := Rule.change?_themeColour h
    exact .setStyleVar (Json.hasJust_sortMembers (Change.entries_nodup (.setStyleVar _ _ _)))
      (isSelector_iff.1 (by decide)) (isStyleVar_iff.1 (by decide)) hcolour
  | banner =>
    obtain ⟨visible, rfl⟩ := Rule.change?_banner h
    exact .toggle (Json.hasJust_sortMembers (Change.entries_nodup (.toggle _ _))) (isSelector_iff.1 (by decide))

/-! ## Triggers -/

/-- Where a trigger is found, one occurs. -/
theorem containsAny_of_findTrigger? {triggers : List String} (h : (n.findTrigger? triggers).isSome) :
    n.containsAny triggers = true := by
  by_contra hno
  simp only [Normalized.containsAny, List.any_eq_true, not_exists, not_and, ← Text.isSome_find?] at hno
  have hnone : (triggers.filterMap fun t =>
      (Text.find? t.toList n.lower).map fun i => (i, i + Text.byteLength t.toList)) = [] := by
    rw [List.filterMap_eq_nil_iff]
    intro t ht
    simpa using hno t ht
  rw [Normalized.findTrigger?, hnone] at h
  cases h

/-- A title and a subtitle are not found in one request. -/
theorem title_or_subtitle : Rule.title.change? n = none ∨ Rule.subtitle.change? n = none := by
  cases ht : Rule.title.change? n with
  | none => exact .inl rfl
  | some c =>
    cases hs : Rule.subtitle.change? n with
    | none => exact .inr rfl
    | some c' =>
      have hfound := containsAny_of_findTrigger? (Rule.change?_text hs).2.1
      rw [(Rule.change?_text ht).1] at hfound
      cases hfound

/-! ## Documents -/

theorem changes_of_parse? {d : Document} (h : parse? text = some d) : d.version = Document.currentVersion ∧
    d.changes = Rule.builtin.filterMap (Rule.change? (normalize text.toList)) ∧ d.changes ≠ [] := by
  unfold parse? parseWith? at h
  dsimp only at h
  by_cases hlower : (normalize text.toList).lower.isEmpty
  · rw [if_pos hlower] at h
    cases h
  · rw [if_neg hlower] at h
    split_ifs at h with hnone
    cases h
    exact ⟨rfl, rfl, fun h => hnone (List.isEmpty_iff.2 h)⟩

/-- The schema accepts what is understood. -/
theorem valid_of_parse? {d : Document} (h : parse? text = some d) : (Schema.validateDocument d).valid = true := by
  obtain ⟨hversion, hchanges, hne⟩ := changes_of_parse? h
  refine Schema.valid_of_isDocument (Schema.isDocument_toValue hversion (List.length_pos_iff.2 hne) ?_ fun c hc => ?_)
  · rw [hchanges]
    exact (List.length_filterMap_le _ Rule.builtin).trans (by decide)
  · rw [hchanges] at hc
    obtain ⟨rule, hr, hc⟩ := List.mem_filterMap.1 hc
    exact isChange_of_change? (selects_builtin rule hr) hc

/-- The first two rules find at most one change. -/
theorem exists_wording (n : Normalized) : ∃ wording : Option Change,
    (Rule.title.change? n).toList ++ (Rule.subtitle.change? n).toList = wording.toList ∧
      ∃ selector ∈ ["#main-title", "#subtitle"], ∀ c ∈ wording, ∃ value, c = .setText selector value := by
  rcases title_or_subtitle (n := n) with ht | hs
  · refine ⟨Rule.subtitle.change? n, by simp [ht], "#subtitle", by simp, fun c hc => ?_⟩
    obtain ⟨-, -, value, rfl, -⟩ := Rule.change?_text hc
    exact ⟨_, rfl⟩
  · refine ⟨Rule.title.change? n, by simp [hs], "#main-title", by simp, fun c hc => ?_⟩
    obtain ⟨-, -, value, rfl, -⟩ := Rule.change?_text hc
    exact ⟨_, rfl⟩

theorem selectors_sublist {o : Option Change} {selector : String} (h : ∀ c ∈ o, c.selector = selector) :
    (o.toList.map Change.selector).Sublist [selector] := by
  cases o with
  | none => simp
  | some c => simp [h c rfl]

/-- **What is understood is valid and in order.**  The document has one to three changes, of the title or the subtitle,
of the theme colour and of the banner, in this order, and no two of them are about the same part of the page. -/
theorem parse?_ordered {d : Document} (h : parse? text = some d) :
    (Schema.validateDocument d).valid = true ∧
    (∃ wording colour banner : Option Change, d.changes = wording.toList ++ colour.toList ++ banner.toList ∧
      (∀ c ∈ wording, ∃ value, c = .setText "#main-title" value ∨ c = .setText "#subtitle" value) ∧
      (∀ c ∈ colour, ∃ value, c = .setStyleVar "body" "--color-primary" value) ∧
      ∀ c ∈ banner, ∃ visible, c = .toggle "#banner" visible) ∧
    1 ≤ d.changes.length ∧ d.changes.length ≤ 3 ∧ (d.changes.map Change.selector).Nodup := by
  obtain ⟨-, hchanges, hne⟩ := changes_of_parse? h
  generalize normalize text.toList = n at hchanges
  obtain ⟨wording, hw, element, he, hwording⟩ := exists_wording n
  have hcolour : ∀ c ∈ Rule.themeColour.change? n, ∃ value, c = .setStyleVar "body" "--color-primary" value := by
    intro c hc
    obtain ⟨colour, rfl, -⟩ := Rule.change?_themeColour hc
    exact ⟨colour, rfl⟩
  have hbanner : ∀ c ∈ Rule.banner.change? n, ∃ visible, c = .toggle "#banner" visible := fun c => Rule.change?_banner
  have hparts : d.changes = wording.toList ++ (Rule.themeColour.change? n).toList ++ (Rule.banner.change? n).toList := by
    rw [hchanges, ← hw, List.filterMap_eq_flatMap_toList]
    simp [Rule.builtin]
  -- Each of the three is about one part of the page, and these parts are different.
  have hsub : (d.changes.map Change.selector).Sublist ([element] ++ ["body"] ++ ["#banner"]) := by
    rw [hparts, List.map_append, List.map_append]
    refine ((selectors_sublist ?_).append (selectors_sublist ?_)).append (selectors_sublist ?_)
    · intro c hc
      obtain ⟨value, rfl⟩ := hwording c hc
      rfl
    · intro c hc
      obtain ⟨value, rfl⟩ := hcolour c hc
      rfl
    · intro c hc
      obtain ⟨visible, rfl⟩ := hbanner c hc
      rfl
  have hnodup : ∀ selector ∈ ["#main-title", "#subtitle"], ([selector] ++ ["body"] ++ ["#banner"]).Nodup := by decide
  refine ⟨valid_of_parse? h, ⟨wording, _, _, hparts, fun c hc => ?_, hcolour, hbanner⟩, List.length_pos_iff.2 hne, ?_,
    (hnodup element he).sublist hsub⟩
  · obtain ⟨value, rfl⟩ := hwording c hc
    exact ⟨value, by simpa using he⟩
  · simpa using hsub.length_le

/-- A request for all three. -/
theorem parse?_ordered_three :
    let d := Document.ofChanges [.setText "#main-title" "Hello", .setStyleVar "body" "--color-primary" "red",
      .toggle "#banner" false]
    parse? "Change the title to Hello, the theme color to Red, hide the banner" = some d ∧
      (Schema.validateDocument d).valid = true ∧ (d.changes.map Change.selector).Nodup := by
  intro d
  have h : parse? "Change the title to Hello, the theme color to Red, hide the banner" = some d := by decide +kernel
  exact ⟨h, (parse?_ordered h).1, (parse?_ordered h).2.2.2.2⟩

end SiteEdit.Request
