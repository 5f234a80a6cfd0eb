import SiteEdit.Proofs.Text.Places
import SiteEdit.Request.Normalized
import Mathlib.Data.List.MinMax
import Mathlib.Data.Prod.Lex
/-!
# The connective of a request

A connective of letters of ASCII stands as a word of its own, any other one wherever its characters are (`StandsAt`).
The one that is found is the first of a text, and of those at its place the longest (`firstConnective?_eq_some_iff`).
-/
namespace SiteEdit.Request

open Text (byteLength find? FirstPlace Passes)

/-! ## The earliest find -/

/-- One find comes before another: at an earlier place, or at the same one and no shorter. -/
def Sooner (f g : Nat × Nat) : Prop := f.1 < g.1 ∨ f.1 = g.1 ∧ g.2 ≤ f.2

/-- The order of the finds: by the place, and at one place the longest first. -/
def rank (f : Nat × Nat) : Nat ×ₗ Natᵒᵈ := toLex (f.1, OrderDual.toDual f.2)

theorem rank_le_iff {f g : Nat × Nat} : rank f ≤ rank g ↔ Sooner f g := Prod.Lex.toLex_le_toLex

theorem rank_lt_iff {f g : Nat × Nat} : rank f < rank g ↔ f.1 < g.1 ∨ f.1 = g.1 ∧ g.2 < f.2 := Prod.Lex.toLex_lt_toLex

theorem earliest_eq_argmin (finds : List (Nat × Nat)) : earliest finds = finds.argmin rank := by
  unfold earliest List.argmin
  congr 1
  funext best f
  cases best with
  | none => rfl
  | some b => simp only [List.argAux, rank_lt_iff]

theorem earliest_eq_some_iff {finds : List (Nat × Nat)} {f : Nat × Nat} :
    earliest finds = some f ↔ f ∈ finds ∧ ∀ g ∈ finds, Sooner f g := by
  rw [earliest_eq_argmin]
  constructor
  · intro h
    exact ⟨List.argmin_mem h, fun g hg => rank_le_iff.1 (List.le_of_mem_argmin hg h)⟩
  · rintro ⟨hmem, hall⟩
    cases hm : finds.argmin rank with
    | none =>
      rw [List.argmin_eq_none] at hm
      cases hm ▸ hmem
    | some m =>
      have hmf : Sooner m f := rank_le_iff.1 (List.le_of_mem_argmin hmem hm)
      have hfm := hall m (List.argmin_mem hm)
      unfold Sooner at hmf hfm
      exact congrArg some (Prod.ext (by omega) (by omega))

/-! ## Connectives -/

/-- A connective stands at a place of a text: one of letters of ASCII between characters that go on no word. -/
def StandsAt (connective before rest : List Char) : Prop :=
  connective <+: rest ∧ (connective.head?.any Char.isAlpha = true →
    before.getLast?.any joinsWord = false ∧ (rest.drop connective.length).head?.any joinsWord = false)

theorem StandsAt.rest_ne_nil {connective before rest : List Char} (hne : connective ≠ [])
    (h : StandsAt connective before rest) : rest ≠ [] := fun hr => hne (List.prefix_nil.1 (hr ▸ h.1))

theorem passes_eq_standsAt {connective : List Char} {test : Option Char → List Char → Bool} (hne : connective ≠ [])
    (h : ∀ before rest, test before.getLast? rest = true ↔ StandsAt connective before rest) :
    Passes test none = StandsAt connective := by
  funext before rest
  rw [Passes, Option.or_none, h]
  exact propext ⟨And.right, fun hs => ⟨hs.rest_ne_nil hne, hs⟩⟩

/-- A connective is found where it first stands. -/
theorem findConnective?_eq_some_iff {connective text : List Char} {i : Nat} (hne : connective ≠ []) :
    findConnective? connective text = some i ↔
      ∃ before rest, FirstPlace (StandsAt connective) text before rest ∧ i = byteLength before := by
  unfold findConnective?
  cases ha : connective.head?.any Char.isAlpha with
  | true =>
    let test : Option Char → List Char → Bool := fun o r =>
      connective.isPrefixOf r && !o.any joinsWord && !(r.drop connective.length).head?.any joinsWord
    have hstands : Passes test none = StandsAt connective := passes_eq_standsAt hne fun b r => by
      simp [StandsAt, ha, test, List.isPrefixOf_iff_prefix, and_assoc]
    rw [if_pos rfl, Text.search_eq_some_iff test (findWordFrom? connective) (fun _ => rfl) (fun _ _ _ => rfl), hstands]
  | false =>
    let test : Option Char → List Char → Bool := fun _ r => connective.isPrefixOf r
    have hstands : Passes test none = StandsAt connective := passes_eq_standsAt hne fun b r => by
      simp [StandsAt, ha, test, List.isPrefixOf_iff_prefix]
    have hnil : find? connective [] = none := by simp [find?, hne]
    rw [if_neg Bool.false_ne_true, Text.search_eq_some_iff test (fun _ => find? connective) (fun _ => hnil)
      (fun _ _ _ => rfl) (o := none), hstands]

theorem connectives_ne_nil : ∀ c ∈ connectives, c.toList ≠ [] := by decide

/-- The connective that is found in a text, between what is before and after it: no other one stands at an earlier
place, and none at its place is longer. -/
structure FirstConnective (text gap : List Char) (connective : String) (after : List Char) : Prop where
  mem : connective ∈ connectives
  text_eq : text = gap ++ (connective.toList ++ after)
  stands : StandsAt connective.toList gap (connective.toList ++ after)
  first : ∀ c ∈ connectives, ∀ b r, text = b ++ r → StandsAt c.toList b r →
    Sooner (gap.length, connective.toList.length) (b.length, c.toList.length)

/-- Places and lengths are compared alike in bytes and in characters. -/
theorem sooner_byteLength_iff {gap b p r c d : List Char} (h : gap ++ p = b ++ r) (hp : d <+: p) (hr : c <+: r) :
    Sooner (byteLength gap, byteLength d) (byteLength b, byteLength c) ↔
      Sooner (gap.length, d.length) (b.length, c.length) := by
  unfold Sooner
  rw [Text.byteLength_lt_iff h, Text.byteLength_eq_iff h]
  refine or_congr_right (and_congr_right fun hlen => ?_)
  obtain ⟨-, rfl⟩ := List.append_inj h hlen
  obtain ⟨d', hd⟩ := hp
  obtain ⟨c', hc⟩ := hr
  exact Text.byteLength_le_iff (hc.trans hd.symm)

/-- **The connective that is found is the first of the text, and of those at its place the longest.** -/
theorem firstConnective?_eq_some_iff {text : List Char} {i n : Nat} :
    firstConnective? text = some (i, n) ↔ ∃ gap connective after,
      FirstConnective text gap connective after ∧ i = byteLength gap ∧ n = byteLength connective.toList := by
  have hfind : ∀ {f : Nat × Nat},
      f ∈ connectives.filterMap (fun c => (findConnective? c.toList text).map (·, byteLength c.toList)) ↔
        ∃ c ∈ connectives, ∃ b r, FirstPlace (StandsAt c.toList) text b r ∧
          f = (byteLength b, byteLength c.toList) := by
    intro f
    rw [List.mem_filterMap]
    refine exists_congr fun c => and_congr_right fun hc => ?_
    simp only [Option.map_eq_some_iff, findConnective?_eq_some_iff (connectives_ne_nil c hc)]
    constructor
    · rintro ⟨_, ⟨b, r, hf, rfl⟩, rfl⟩
      exact ⟨b, r, hf, rfl⟩
    · rintro ⟨b, r, hf, rfl⟩
      exact ⟨_, ⟨b, r, hf, rfl⟩, rfl⟩
  rw [firstConnective?, earliest_eq_some_iff]
  constructor
  · rintro ⟨hmem, hall⟩
    obtain ⟨connective, hc, gap, _, ⟨htext, hstands, -⟩, heq⟩ := hfind.1 hmem
    obtain ⟨rfl, rfl⟩ := Prod.ext_iff.1 heq
    obtain ⟨after, rfl⟩ := hstands.1
    refine ⟨gap, connective, after, ⟨hc, htext, hstands, fun c hc b r htext' hstands' => ?_⟩, rfl, rfl⟩
    -- The find of this connective is its first place, which may be before `b`.
    obtain ⟨b', r', hf, hle⟩ := FirstPlace.exists_of_holds htext' hstands'
    have hsooner := hall _ (hfind.2 ⟨c, hc, b', r', hf, rfl⟩)
    rw [sooner_byteLength_iff (htext.symm.trans hf.text_eq) hstands.1 hf.holds.1] at hsooner
    unfold Sooner at hsooner ⊢
    omega
  · rintro ⟨gap, connective, after, h, rfl, rfl⟩
    have hfirst : FirstPlace (StandsAt connective.toList) text gap (connective.toList ++ after) :=
      ⟨h.text_eq, h.stands, fun b r htext hstands => by
        have hsooner := h.first connective h.mem b r htext hstands
        unfold Sooner at hsooner
        omega⟩
    refine ⟨hfind.2 ⟨connective, h.mem, gap, _, hfirst, rfl⟩, fun g hg => ?_⟩
    obtain ⟨c, hc, b, r, hf, rfl⟩ := hfind.1 hg
    rw [sooner_byteLength_iff (h.text_eq.symm.trans hf.text_eq) h.stands.1 hf.holds.1]
    exact h.first c hc b r hf.text_eq hf.holds

end SiteEdit.Request
