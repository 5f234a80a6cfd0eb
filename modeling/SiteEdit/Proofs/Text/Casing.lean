import SiteEdit.Proofs.Text.Lowercase
import SiteEdit.Proofs.Text.Places
import SiteEdit.Proofs.Text.Trimming
import Mathlib.Data.List.Infix
/-!
# Texts in two spellings

A text can be written with its letters of ASCII in either case.  Both spellings have the same lower case
(`lower_lefts`), the same bytes, and the same parts cut out of them (`PartOf.cut`, `rel_sliceBytes?`).
-/
namespace SiteEdit.Text

/-- A character in two spellings: twice itself, or a letter of ASCII in two cases. -/
structure Twin where
  left : Char
  right : Char
  same : left.toLower = right.toLower

/-- A text in its first spelling. -/
def lefts (xs : List Twin) : List Char := xs.map Twin.left

/-- A text in its second spelling. -/
def rights (xs : List Twin) : List Char := xs.map Twin.right

/-- Two texts are one part of a text in its two spellings. -/
def PartOf (xs : List Twin) (a b : List Char) : Prop := ∃ ys, ys <:+: xs ∧ a = lefts ys ∧ b = rights ys

variable {xs ys : List Twin} {a b : List Char} {α : Type}

/-! ## Characters -/

theorem toLower_of_not_ascii {c : Char} (h : ¬ c.toNat < 128) : c.toLower = c := by
  unfold Char.toLower
  rw [dif_neg]
  intro hc
  have hhi : c.toNat ≤ 90 := hc.2
  omega

/-- What does not tell the cases of the letters of ASCII apart does not tell spellings apart. -/
theorem Twin.congr {f : Char → α} (h : ∀ n < 128, f (Char.ofNat n).toLower = f (Char.ofNat n)) (x : Twin) :
    f x.left = f x.right := by
  have hlower : ∀ c : Char, f c.toLower = f c := by
    intro c
    by_cases hc : c.toNat < 128
    · have hn := h c.toNat hc
      rwa [Char.ofNat_toNat] at hn
    · rw [toLower_of_not_ascii hc]
  rw [← hlower x.left, x.same, hlower x.right]

theorem Twin.isBlank_eq (x : Twin) : isBlank x.left = isBlank x.right := x.congr (by decide +kernel)

theorem Twin.utf8Size_eq (x : Twin) : x.left.utf8Size = x.right.utf8Size := x.congr (by decide +kernel)

theorem Twin.lowerChar_eq (x : Twin) : lowerChar x.left = lowerChar x.right := x.congr (by decide +kernel)

theorem Twin.isSigma_eq (x : Twin) : (x.left == 'Σ') = (x.right == 'Σ') :=
  x.congr (f := (· == 'Σ')) (by decide +kernel)

theorem Twin.isCaseIgnorable_eq (x : Twin) :
    inRanges caseIgnorableRanges x.left.toNat = inRanges caseIgnorableRanges x.right.toNat :=
  x.congr (f := fun c => inRanges caseIgnorableRanges c.toNat) (by decide +kernel)

theorem Twin.isCased_eq (x : Twin) : inRanges casedRanges x.left.toNat = inRanges casedRanges x.right.toNat :=
  x.congr (f := fun c => inRanges casedRanges c.toNat) (by decide +kernel)

/-! ## Lower case -/

theorem lowerEach_lefts (xs : List Twin) : lowerEach (lefts xs) = lowerEach (rights xs) := by
  unfold lowerEach lefts rights
  rw [List.flatMap_map, List.flatMap_map]
  exact congrArg xs.flatMap (funext Twin.lowerChar_eq)

theorem byteLength_map_congr {f g : Twin → Char} (hsize : ∀ x, (f x).utf8Size = (g x).utf8Size) :
    ∀ xs : List Twin, byteLength (xs.map f) = byteLength (xs.map g)
  | [] => rfl
  | x :: xs => congrArg₂ (· + ·) (hsize x) (byteLength_map_congr hsize xs)

theorem byteLength_lefts (xs : List Twin) : byteLength (lefts xs) = byteLength (rights xs) :=
  byteLength_map_congr Twin.utf8Size_eq xs

theorem casedNext_lefts (xs : List Twin) : casedNext (lefts xs) = casedNext (rights xs) := by
  unfold casedNext lefts rights
  rw [List.dropWhile_map, List.dropWhile_map]
  have hignorable : ((fun c : Char => inRanges caseIgnorableRanges c.toNat) ∘ Twin.left) =
      (fun c : Char => inRanges caseIgnorableRanges c.toNat) ∘ Twin.right := funext Twin.isCaseIgnorable_eq
  rw [hignorable]
  cases xs.dropWhile _ with
  | nil => rfl
  | cons x xs => exact x.isCased_eq

theorem lowerAt_lefts (bs : List Twin) (x : Twin) (xs : List Twin) :
    lowerAt (lefts bs) x.left (lefts xs) = lowerAt (rights bs) x.right (rights xs) := by
  have hsigma : x.left = 'Σ' ↔ x.right = 'Σ' := by
    rw [← beq_iff_eq, x.isSigma_eq, beq_iff_eq]
  unfold lowerAt endsWord
  rw [casedNext_lefts, casedNext_lefts, x.lowerChar_eq]
  simp only [hsigma]

theorem lowerFrom_lefts : ∀ bs xs : List Twin, lowerFrom (lefts bs) (lefts xs) = lowerFrom (rights bs) (rights xs)
  | _, [] => rfl
  | bs, x :: xs => by
    have hrest := lowerFrom_lefts (x :: bs) xs
    exact congrArg₂ (· ++ ·) (lowerAt_lefts bs x xs) hrest

theorem lower_lefts (xs : List Twin) : lower (lefts xs) = lower (rights xs) := lowerFrom_lefts [] xs

/-! ## Parts -/

theorem cut_map {α : Type} {p q : Char → Bool} (f : α → Char) (ys : List α) :
    cut p q (ys.map f) = ((ys.dropWhile (p ∘ f)).rdropWhile (q ∘ f)).map f := by
  rw [cut, dropRightWhile, List.dropWhile_map, ← List.map_reverse, List.dropWhile_map, ← List.map_reverse,
    List.rdropWhile]

theorem PartOf.cut {p q : Char → Bool} (hp : ∀ x : Twin, p x.left = p x.right) (hq : ∀ x : Twin, q x.left = q x.right)
    (h : PartOf xs a b) : PartOf xs (cut p q a) (cut p q b) := by
  obtain ⟨ys, hys, rfl, rfl⟩ := h
  have hpr : p ∘ Twin.left = p ∘ Twin.right := funext hp
  have hqr : q ∘ Twin.left = q ∘ Twin.right := funext hq
  refine ⟨_, ?_, cut_map Twin.left ys, by rw [rights, cut_map, hpr, hqr]; rfl⟩
  have hcut : (ys.dropWhile (p ∘ Twin.left)).rdropWhile (q ∘ Twin.left) <:+: ys.dropWhile (p ∘ Twin.left) :=
    (List.rdropWhile_prefix (p := _) _).isInfix
  exact (hcut.trans (List.dropWhile_suffix _).isInfix).trans hys

/-- What is cut out of one spelling of a text is cut out of the other one. -/
theorem sliceBytes?_congr {i j : Nat} {f g : Twin → Char} (hsize : ∀ x, (f x).utf8Size = (g x).utf8Size)
    (h : sliceBytes? i j (ys.map f) = some a) :
    ∃ zs, zs <:+: ys ∧ a = zs.map f ∧ sliceBytes? i j (ys.map g) = some (zs.map g) := by
  obtain ⟨b, c, hys, rfl, rfl⟩ := exists_of_sliceBytes? h
  obtain ⟨bs, rs, rfl, rfl, hrs⟩ := List.map_eq_append_iff.1 hys
  obtain ⟨zs, cs, rfl, rfl, rfl⟩ := List.map_eq_append_iff.1 hrs
  refine ⟨zs, ⟨bs, cs, by rw [List.append_assoc]⟩, rfl, ?_⟩
  rw [← List.map_append, byteLength_map_congr hsize, byteLength_map_congr hsize, List.map_append, List.map_append,
    List.map_append, sliceBytes?_append]

/-- What is cut out of the two spellings of a text is a part of it in both. -/
theorem rel_sliceBytes? (i j : Nat) (h : PartOf xs a b) :
    Option.Rel (PartOf xs) (sliceBytes? i j a) (sliceBytes? i j b) := by
  obtain ⟨ys, hys, rfl, rfl⟩ := h
  cases hl : sliceBytes? i j (lefts ys) with
  | none =>
    cases hr : sliceBytes? i j (rights ys) with
    | none => exact .none
    | some r =>
      obtain ⟨zs, -, -, hl'⟩ := sliceBytes?_congr (g := Twin.left) (fun y => y.utf8Size_eq.symm) hr
      rw [lefts, hl'] at hl
      cases hl
  | some l =>
    obtain ⟨zs, hzs, rfl, hr⟩ := sliceBytes?_congr (g := Twin.right) Twin.utf8Size_eq hl
    rw [rights, hr]
    exact .some ⟨zs, hzs.trans hys, rfl, rfl⟩

end SiteEdit.Text
