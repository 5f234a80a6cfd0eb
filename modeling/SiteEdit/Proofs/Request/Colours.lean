import SiteEdit.Proofs.Document.Grammar
import SiteEdit.Proofs.Pattern.Traits
import SiteEdit.Proofs.Text.Casing
import SiteEdit.Request.Colour
/-!
# Colours

A phrase is looked up in lower case and without the blanks around it.  It stands for a colour if it is then a name of
the vocabulary or a colour in digits (`resolveColour?_eq_some_iff`), so its spelling and these blanks decide nothing
(`resolveColour?_spelling`).  The colours are the phrases that stand for themselves (`resolveColour?_self_iff`).
-/
namespace SiteEdit.Request

open Schema (IsStyleValue isStyleValue_iff)
open Text (Twin lefts rights PartOf Padded Settled isBlank byteLength lower trim)

variable {phrase : List Char} {colour : String}

/-- A colour that the vocabulary has a name for. -/
def IsNamedColour (colour : String) : Prop := colour ∈ colourNames.map Prod.snd

/-- Whether a character is a hexadecimal digit in lower case. -/
def isLowHexDigit (c : Char) : Bool := c.isDigit || ('a' ≤ c && c ≤ 'f')

/-- A colour in digits: three or six of lower case after `#`. -/
def IsHexColour (colour : String) : Prop :=
  ∃ digits, colour.toList = '#' :: digits ∧ (∀ d ∈ digits, isLowHexDigit d = true) ∧
    (digits.length = 3 ∨ digits.length = 6)

/-! ## Letters and digits -/

/-- Letters and digits are characters of ASCII, so what holds of all of them can be seen there. -/
theorem of_isAlphanum {P : Char → Prop} (hP : ∀ n < 128, (Char.ofNat n).isAlphanum = true → P (Char.ofNat n)) {c : Char}
    (h : c.isAlphanum = true) : P c := by
  have hc := hP c.toNat (Text.toNat_lt_of_isAlphanum h)
  rw [Char.ofNat_toNat] at hc
  exact hc h

theorem utf8Size_of_isAlphanum {c : Char} (h : c.isAlphanum = true) : c.utf8Size = 1 :=
  of_isAlphanum (P := fun c => c.utf8Size = 1) (by decide +kernel) h

theorem isBlank_of_isAlphanum {c : Char} (h : c.isAlphanum = true) : isBlank c = false :=
  of_isAlphanum (P := fun c => isBlank c = false) (by decide +kernel) h

theorem settled_iff_of_isAlphanum {c : Char} (h : c.isAlphanum = true) : Settled c ↔ c.isUpper = false :=
  of_isAlphanum (P := fun c => Settled c ↔ c.isUpper = false) (by decide +kernel) h

theorem isAlphanum_of_isHexDigit {c : Char} (h : isHexDigit c = true) : c.isAlphanum = true := by
  simp only [isHexDigit, Bool.or_eq_true, Bool.and_eq_true, decide_eq_true_eq] at h
  rw [isAlphanum_iff]
  rcases h with (h | ⟨ha, hf⟩) | ⟨ha, hf⟩
  · obtain ⟨h0, h9⟩ := Bool.and_eq_true_iff.1 h
    exact .inl ⟨of_decide_eq_true h0, of_decide_eq_true h9⟩
  · exact .inr (.inr ⟨ha, Char.le_trans hf (by decide)⟩)
  · exact .inr (.inl ⟨ha, Char.le_trans hf (by decide)⟩)

theorem isHexDigit_of_isLowHexDigit {c : Char} (h : isLowHexDigit c = true) : isHexDigit c = true := by
  rw [isHexDigit, ← isLowHexDigit, h, Bool.true_or]

/-- Of the hexadecimal digits just those of lower case are their own lower case. -/
theorem settled_iff_of_isHexDigit {c : Char} (h : isHexDigit c = true) : Settled c ↔ isLowHexDigit c = true := by
  have halphanum := isAlphanum_of_isHexDigit h
  have hupper : isHexDigit c = true → (c.isUpper = false ↔ isLowHexDigit c = true) :=
    of_isAlphanum (P := fun c => isHexDigit c = true → (c.isUpper = false ↔ isLowHexDigit c = true))
      (by decide +kernel) halphanum
  exact (settled_iff_of_isAlphanum halphanum).trans (hupper h)

/-! ## Digits after the mark -/

/-- Of a text in lower case, bytes and digits of both cases tell what characters and digits of lower case do. -/
theorem isHexColour_ofList_iff {key : List Char} (hkey : ∀ c ∈ key, Settled c) :
    IsHexColour (String.ofList key) ↔
      ∃ digits, key = '#' :: digits ∧ digits.all isHexDigit = true ∧ (byteLength digits = 3 ∨ byteLength digits = 6) := by
  unfold IsHexColour
  rw [String.toList_ofList]
  refine exists_congr fun digits => and_congr_right ?_
  rintro rfl
  have hlow : (∀ d ∈ digits, isLowHexDigit d = true) ↔ digits.all isHexDigit = true := by
    rw [List.all_eq_true]
    refine forall₂_congr fun d hd => ⟨isHexDigit_of_isLowHexDigit, fun h => ?_⟩
    exact (settled_iff_of_isHexDigit h).1 (hkey d (List.mem_cons_of_mem _ hd))
  rw [hlow]
  refine and_congr_right fun hall => ?_
  rw [Text.byteLength_eq_length fun d hd =>
    utf8Size_of_isAlphanum (isAlphanum_of_isHexDigit (List.all_eq_true.1 hall d hd))]

/-! ## Names -/

theorem colourNames_nodup : (colourNames.map Prod.fst).Nodup := by decide

theorem colourNames_unmarked : ∀ e ∈ colourNames, e.1.toList.head? ≠ some '#' := by decide

/-- What the vocabulary has names for are names in it themselves. -/
theorem colourNames_closed : ∀ e ∈ colourNames, (e.2, e.2) ∈ colourNames := by decide

theorem colourNames_lower : ∀ e ∈ colourNames, (e.2.toList.all fun c => c.isAlphanum && !c.isUpper) = true := by decide

theorem colourNames_written : ∀ e ∈ colourNames, IsStyleValue e.2 := by
  have hwritten : ∀ e ∈ colourNames, e.2.length ≤ 64 ∧ Schema.isStyleValue e.2.toList = true := by decide
  exact fun e he => isStyleValue_iff.1 (hwritten e he)

/-! ## Phrases -/

/-- **A phrase stands for what the vocabulary says, or for itself if it is a colour in digits**, both in lower case and
without the blanks around it. -/
theorem resolveColour?_eq_some_iff : resolveColour? phrase = some colour ↔
    (String.ofList (lower (trim phrase)), colour) ∈ colourNames ∨
      String.ofList (lower (trim phrase)) = colour ∧ IsHexColour colour := by
  have hsettled : ∀ c ∈ lower (trim phrase), Settled c := fun c => Text.settled_of_mem_lowerFrom
  unfold resolveColour?
  dsimp only
  generalize lower (trim phrase) = key at hsettled
  rw [← Json.lookup_eq_some_iff colourNames_nodup]
  cases hname : colourNames.lookup (String.ofList key) with
  | some css =>
    have hunmarked : ¬ (String.ofList key = colour ∧ IsHexColour colour) := by
      rintro ⟨rfl, digits, hdigits, -⟩
      refine colourNames_unmarked _ ((Json.lookup_eq_some_iff colourNames_nodup).1 hname) ?_
      rw [hdigits, List.head?_cons]
    rw [or_iff_left hunmarked]
  | none =>
    have hhex : (String.ofList key = colour ∧ IsHexColour colour) ↔
        String.ofList key = colour ∧ IsHexColour (String.ofList key) := and_congr_right fun h => by rw [h]
    rw [hhex, isHexColour_ofList_iff hsettled]
    dsimp only
    split
    · next digits =>
      rw [Option.ite_none_right_eq_some]
      simp [and_comm]
    · next hno =>
      refine iff_of_false nofun ?_
      rintro (h | ⟨-, digits, rfl, -⟩)
      · cases h
      · exact hno digits rfl

theorem named_or_hex_of_resolveColour? (h : resolveColour? phrase = some colour) :
    IsNamedColour colour ∨ IsHexColour colour := by
  rcases resolveColour?_eq_some_iff.1 h with hname | ⟨-, hhex⟩
  · exact .inl (List.mem_map_of_mem hname)
  · exact .inr hhex

theorem isStyleValue_of_resolveColour? (h : resolveColour? phrase = some colour) : IsStyleValue colour := by
  rcases named_or_hex_of_resolveColour? h with hname | ⟨digits, hcolour, hlow, hlength⟩
  · obtain ⟨e, he, rfl⟩ := List.mem_map.1 hname
    exact colourNames_written e he
  · unfold IsStyleValue
    rw [← String.length_toList, hcolour, List.length_cons]
    refine ⟨by omega, by omega, fun c hc => ?_⟩
    rcases List.mem_cons.1 hc with rfl | hc
    · exact .inr (.inl rfl)
    · exact .inl (isAlphanum_of_isHexDigit (isHexDigit_of_isLowHexDigit (hlow c hc)))

/-! ## Colours as phrases -/

/-- Neither trimming nor lower case changes a colour. -/
theorem lower_trim_colour (h : IsNamedColour colour ∨ IsHexColour colour) :
    lower (trim colour.toList) = colour.toList := by
  have hplain : ∀ c ∈ colour.toList, isBlank c = false ∧ Settled c := by
    rcases h with hname | ⟨digits, hcolour, hlow, -⟩
    · obtain ⟨e, he, rfl⟩ := List.mem_map.1 hname
      intro c hc
      have hlower := List.all_eq_true.1 (colourNames_lower e he) c hc
      rw [Bool.and_eq_true, Bool.not_eq_true'] at hlower
      obtain ⟨halphanum, hupper⟩ := hlower
      exact ⟨isBlank_of_isAlphanum halphanum, (settled_iff_of_isAlphanum halphanum).2 hupper⟩
    · intro c hc
      rw [hcolour] at hc
      rcases List.mem_cons.1 hc with rfl | hc
      · decide
      · have hhex := isHexDigit_of_isLowHexDigit (hlow c hc)
        exact ⟨isBlank_of_isAlphanum (isAlphanum_of_isHexDigit hhex), (settled_iff_of_isHexDigit hhex).2 (hlow c hc)⟩
  rw [Text.trim_eq_self fun c hc => (hplain c hc).1]
  exact Text.lowerFrom_of_settled [] fun c hc => (hplain c hc).2

/-- **The colours are the phrases that stand for themselves.** -/
theorem resolveColour?_self_iff :
    resolveColour? colour.toList = some colour ↔ IsNamedColour colour ∨ IsHexColour colour := by
  refine ⟨named_or_hex_of_resolveColour?, fun h => ?_⟩
  rw [resolveColour?_eq_some_iff, lower_trim_colour h, String.ofList_toList]
  rcases h with hname | hhex
  · obtain ⟨e, he, rfl⟩ := List.mem_map.1 hname
    exact .inl (colourNames_closed e he)
  · exact .inr ⟨rfl, hhex⟩

/-! ## Spellings -/

theorem resolveColour?_eq {xs : List Twin} {a b : List Char} (h : PartOf xs a b) :
    resolveColour? a = resolveColour? b := by
  obtain ⟨ys, -, ha, hb⟩ := h.cut Twin.isBlank_eq Twin.isBlank_eq
  unfold resolveColour?
  rw [Text.trim_eq_cut, Text.trim_eq_cut, ha, hb, Text.lower_lefts]

theorem resolveColour?_padded {core text : List Char} (h : Padded core text) :
    resolveColour? text = resolveColour? core := by
  unfold resolveColour?
  rw [Text.trim_of_padded h]

/-- The spelling of a phrase and the blanks around it do not decide what it stands for. -/
theorem resolveColour?_spelling {xs : List Twin} {a b : List Char} (ha : Padded (lefts xs) a)
    (hb : Padded (rights xs) b) : resolveColour? a = resolveColour? b := by
  rw [resolveColour?_padded ha, resolveColour?_padded hb]
  exact resolveColour?_eq ⟨xs, List.infix_refl xs, rfl, rfl⟩

/-- **Colours are closed and stable.**  What a phrase stands for is a style value and stands for itself, and the phrase
stands for it in every spelling and between any blanks; if the vocabulary has no name for it, it is in digits. -/
theorem resolveColour?_stable (h : resolveColour? phrase = some colour) :
    Schema.isStyleValue colour.toList = true ∧ resolveColour? colour.toList = some colour ∧
      (∀ (xs : List Twin) (text : List Char), Padded (lefts xs) phrase → Padded (rights xs) text →
        resolveColour? text = some colour) ∧
      (¬ IsNamedColour colour → IsHexColour colour) := by
  have hcolour := named_or_hex_of_resolveColour? h
  refine ⟨(isStyleValue_iff.2 (isStyleValue_of_resolveColour? h)).2, resolveColour?_self_iff.2 hcolour,
    fun xs text hphrase htext => ?_, hcolour.resolve_left⟩
  rw [← resolveColour?_spelling hphrase htext, h]

/-- Six digits between blanks of two kinds, and again in other cases and after a tab. -/
theorem resolveColour?_stable_digits :
    let xs : List Twin := [⟨'#', '#', rfl⟩, ⟨'A', 'a', rfl⟩, ⟨'b', 'B', rfl⟩, ⟨'C', 'C', rfl⟩, ⟨'0', '0', rfl⟩,
      ⟨'9', '9', rfl⟩, ⟨'f', 'F', rfl⟩]
    resolveColour? "　#AbC09f ".toList = some "#abc09f" ∧
      Padded (lefts xs) "　#AbC09f ".toList ∧ Padded (rights xs) "\t#aBC09F".toList ∧ ¬ IsNamedColour "#abc09f" ∧
      Schema.isStyleValue "#abc09f".toList = true ∧ resolveColour? "#abc09f".toList = some "#abc09f" ∧
      resolveColour? "\t#aBC09F".toList = some "#abc09f" ∧ IsHexColour "#abc09f" := by
  intro xs
  have h : resolveColour? "　#AbC09f ".toList = some "#abc09f" := by decide +kernel
  have hphrase : Padded (lefts xs) "　#AbC09f ".toList :=
    ⟨['　'], [' '], by decide, List.all_eq_true.1 (by decide), List.all_eq_true.1 (by decide)⟩
  have htext : Padded (rights xs) "\t#aBC09F".toList :=
    ⟨['\t'], [], by decide, List.all_eq_true.1 (by decide), List.all_eq_true.1 rfl⟩
  have hunnamed : ¬ IsNamedColour "#abc09f" := by
    unfold IsNamedColour
    decide
  obtain ⟨hvalue, hself, hspelling, hdigits⟩ := resolveColour?_stable h
  exact ⟨h, hphrase, htext, hunnamed, hvalue, hself, hspelling xs _ hphrase htext, hdigits hunnamed⟩

end SiteEdit.Request
