import SiteEdit.Text.Lowercase
/-!
# Lower case of a text and of its parts

What is in lower case stays as it is.  Lower case goes character by character but for the capital sigma, so a part of a
text has in it the lower case that it has by itself exactly if every sigma of it does (`lowerBetween_eq_lower_iff`).
-/
namespace SiteEdit.Text

/-! ## Rows -/

namespace CaseRow

/-- The code points that a row is about. -/
def Has (r : CaseRow) (n : Nat) : Prop := r.lo ≤ n ∧ n ≤ r.hi ∧ (n - r.lo) % r.step = 0

/-- What a row makes of its code points, as a row that leaves them. -/
def image (r : CaseRow) : CaseRow :=
  ⟨((r.lo : Int) + r.shift).toNat, ((r.hi : Int) + r.shift).toNat, r.step, 0⟩

/-- Two rows are about different code points: one is past the other, or they are every other one in turn. -/
def apart (p q : CaseRow) : Bool :=
  Nat.blt p.hi q.lo || Nat.blt q.hi p.lo || (q.step == 2 && (p.step == 2 || p.lo == p.hi) && (p.lo + q.lo) % 2 == 1)

variable {r p q : CaseRow} {n : Nat}

theorem Has.image (h : r.Has n) (hr : 0 ≤ (r.lo : Int) + r.shift) : r.image.Has ((n : Int) + r.shift).toNat := by
  obtain ⟨hlo, hhi, hstep⟩ := h
  have hdiff : ((n : Int) + r.shift).toNat - ((r.lo : Int) + r.shift).toNat = n - r.lo := by omega
  refine ⟨?_, ?_, by rw [CaseRow.image, hdiff, hstep]⟩
  · show ((r.lo : Int) + r.shift).toNat ≤ ((n : Int) + r.shift).toNat
    omega
  · show ((n : Int) + r.shift).toNat ≤ ((r.hi : Int) + r.shift).toNat
    omega

theorem Has.not_of_apart (h : p.Has n) (ha : p.apart q = true) : ¬ q.Has n := by
  rintro ⟨hlo, hhi, hstep⟩
  obtain ⟨hlo', hhi', hstep'⟩ := h
  simp only [apart, Bool.or_eq_true, Bool.and_eq_true, Nat.blt_eq, beq_iff_eq] at ha
  rcases ha with (hpast | hpast) | ⟨⟨hq, hp⟩, hturn⟩
  · omega
  · omega
  · rw [hq] at hstep
    rcases hp with hp | hp
    · rw [hp] at hstep'
      omega
    · omega

end CaseRow

theorem lowerIn_cases (n : Nat) : ∀ rows : List CaseRow,
    lowerIn rows n = n ∨ ∃ r ∈ rows, r.Has n ∧ lowerIn rows n = ((n : Int) + r.shift).toNat
  | [] => .inl rfl
  | r :: rows => by
    rw [lowerIn]
    split
    · exact .inl rfl
    split
    · split
      · exact .inr ⟨r, by simp, ⟨by omega, by assumption, by assumption⟩, rfl⟩
      · exact .inl rfl
    · rcases lowerIn_cases n rows with h | ⟨q, hq, h⟩
      · exact .inl h
      · exact .inr ⟨q, List.mem_cons_of_mem _ hq, h⟩

theorem lowerIn_eq_self {n : Nat} {rows : List CaseRow} (h : ∀ r ∈ rows, ¬ r.Has n) : lowerIn rows n = n := by
  rcases lowerIn_cases n rows with hn | ⟨r, hr, hn, -⟩
  · exact hn
  · exact absurd hn (h r hr)

/-- No row is about what another one makes of its code points.  The pairs are many, so they are compared as Booleans. -/
theorem lowercaseRows_apart :
    (lowercaseRows.all fun r => lowercaseRows.all fun q => r.image.apart q) = true := by decide +kernel

/-! ## Characters -/

/-- A character that is its own lower case. -/
def Settled (c : Char) : Prop := lowerChar c = [c]

instance (c : Char) : Decidable (Settled c) := inferInstanceAs (Decidable (lowerChar c = [c]))

theorem settled_ascii : ∀ n < 128, Settled (Char.ofNat n).toLower := by decide +kernel

/-- The rows make characters that no other part of the mapping is about, but for the sign of the kelvin, a `k`. -/
theorem lowercaseRows_images : ∀ r ∈ lowercaseRows, 0 ≤ (r.lo : Int) + r.shift ∧
    (r.image.hi < 0xD800 ∨ 0xDFFF < r.image.lo ∧ r.image.hi < 0x110000) ∧
    (r.image.hi < 'İ'.toNat ∨ 'İ'.toNat < r.image.lo) ∧
    (r.hi < 128 ∨ 128 ≤ r.image.lo ∨ r.image.lo = r.image.hi ∧ Settled (Char.ofNat r.image.lo)) := by decide +kernel

theorem toNat_ofNat {n : Nat} (h : n < 0xD800 ∨ 0xDFFF < n ∧ n < 0x110000) : (Char.ofNat n).toNat = n := by
  rw [Char.ofNat, dif_pos h]
  rfl

theorem settled_image {r : CaseRow} {n : Nat} (hr : r ∈ lowercaseRows) (hn : r.Has n) (hascii : ¬ n < 128) :
    Settled (Char.ofNat ((n : Int) + r.shift).toNat) := by
  obtain ⟨hpos, hvalid, hdotted, hlows⟩ := lowercaseRows_images r hr
  have himage := hn.image hpos
  generalize ((n : Int) + r.shift).toNat = m at himage
  have hlo := himage.1
  have hhi := himage.2.1
  have hm : (Char.ofNat m).toNat = m := toNat_ofNat (by omega)
  rcases hlows with hlow | hhigh | ⟨hsingle, hsettled⟩
  · exact absurd (Nat.lt_of_le_of_lt hn.2.1 hlow) hascii
  · have happart : ∀ q ∈ lowercaseRows, ¬ q.Has m := fun q hq =>
      himage.not_of_apart (List.all_eq_true.1 (List.all_eq_true.1 lowercaseRows_apart r hr) q hq)
    have hne : Char.ofNat m ≠ 'İ' := fun h => by
      rw [h] at hm
      omega
    have hlow : ¬ (Char.ofNat m).toNat < 128 := by omega
    rw [Settled, lowerChar, if_neg hlow, if_neg hne, hm, lowerIn_eq_self happart]
  · have hm : m = r.image.lo := by omega
    exact hm ▸ hsettled

/-- What a character becomes in lower case stays as it is. -/
theorem settled_of_mem_lowerChar {c d : Char} (h : d ∈ lowerChar c) : Settled d := by
  have hc : Char.ofNat c.toNat = c := Char.ofNat_toNat c
  by_cases hascii : c.toNat < 128
  · rw [lowerChar, if_pos hascii, List.mem_singleton] at h
    rw [h, ← hc]
    exact settled_ascii _ hascii
  by_cases hdotted : c = 'İ'
  · subst hdotted
    have hall : ((lowerChar 'İ').all fun d => decide (Settled d)) = true := by decide +kernel
    exact of_decide_eq_true (List.all_eq_true.1 hall d h)
  have hlower : lowerChar c = [Char.ofNat (lowerIn lowercaseRows c.toNat)] := by
    rw [lowerChar, if_neg hascii, if_neg hdotted]
  rw [hlower, List.mem_singleton] at h
  rcases lowerIn_cases c.toNat lowercaseRows with hn | ⟨r, hr, hrow, hn⟩
  · rw [hn, hc] at hlower h
    exact h ▸ hlower
  · rw [h, hn]
    exact settled_image hr hrow hascii

theorem not_settled_sigma : ¬ Settled 'Σ' := by decide +kernel

theorem settled_small_sigmas : Settled 'σ' ∧ Settled 'ς' := by decide +kernel

/-! ## Texts -/

/-- A capital sigma between what comes before it, the nearest first, and what comes after it is final. -/
def endsWord (before after : List Char) : Bool := casedNext before && !casedNext after

/-- Lower case of one character of a text. -/
def lowerAt (before : List Char) (c : Char) (after : List Char) : List Char :=
  if c = 'Σ' then (if endsWord before after then ['ς'] else ['σ']) else lowerChar c

theorem lowerFrom_cons (before : List Char) (c : Char) (cs : List Char) :
    lowerFrom before (c :: cs) = lowerAt before c cs ++ lowerFrom (c :: before) cs := rfl

theorem length_lowerAt (before before' : List Char) (c : Char) (after after' : List Char) :
    (lowerAt before c after).length = (lowerAt before' c after').length := by
  unfold lowerAt
  by_cases hc : c = 'Σ'
  · rw [if_pos hc, if_pos hc, apply_ite List.length, apply_ite List.length]
    simp
  · rw [if_neg hc, if_neg hc]

theorem lowerAt_eq_iff {before before' after after' : List Char} {c : Char} :
    lowerAt before c after = lowerAt before' c after' ↔
      (c = 'Σ' → endsWord before after = endsWord before' after') := by
  unfold lowerAt
  by_cases hc : c = 'Σ'
  · rw [if_pos hc, if_pos hc]
    cases endsWord before after <;> cases endsWord before' after' <;> simp [hc]
  · simp [hc]

theorem settled_of_mem_lowerAt {c d : Char} {before after : List Char} (h : d ∈ lowerAt before c after) :
    Settled d := by
  unfold lowerAt at h
  split at h
  · split at h <;> rw [List.mem_singleton] at h <;> rw [h]
    · exact settled_small_sigmas.2
    · exact settled_small_sigmas.1
  · exact settled_of_mem_lowerChar h

theorem settled_of_mem_lowerFrom {d : Char} : ∀ {before cs : List Char}, d ∈ lowerFrom before cs → Settled d
  | _, [], h => by cases h
  | before, c :: cs, h => by
    rw [lowerFrom_cons, List.mem_append] at h
    rcases h with h | h
    · exact settled_of_mem_lowerAt h
    · exact settled_of_mem_lowerFrom h

theorem lowerFrom_of_settled : ∀ {cs : List Char} (before : List Char), (∀ c ∈ cs, Settled c) →
    lowerFrom before cs = cs
  | [], _, _ => rfl
  | c :: cs, before, h => by
    have hc : Settled c := h c (by simp)
    have hsigma : c ≠ 'Σ' := fun hs => not_settled_sigma (hs ▸ hc)
    rw [lowerFrom_cons, lowerAt, if_neg hsigma, show lowerChar c = [c] from hc,
      lowerFrom_of_settled _ fun d hd => h d (List.mem_cons_of_mem _ hd), List.singleton_append]

/-- Lower case is taken once. -/
theorem lower_lower (cs : List Char) : lower (lower cs) = lower cs :=
  lowerFrom_of_settled [] fun _ => settled_of_mem_lowerFrom

theorem toList_lowerString (s : String) : (lowerString s).toList = lower s.toList := String.toList_ofList

theorem lowerString_lowerString (s : String) : lowerString (lowerString s) = lowerString s := by
  rw [lowerString, toList_lowerString, lower_lower]
  rfl

/-! ## Parts of a text -/

/-- Lower case of a part of a text: as `lowerFrom`, with what comes after the part. -/
def lowerBetween (before : List Char) : List Char → List Char → List Char
  | [], _ => []
  | c :: cs, after => lowerAt before c (cs ++ after) ++ lowerBetween (c :: before) cs after

theorem lowerFrom_append (before a b : List Char) :
    lowerFrom before (a ++ b) = lowerBetween before a b ++ lowerFrom (a.reverse ++ before) b := by
  induction a generalizing before with
  | nil => rfl
  | cons c a ih =>
    rw [List.cons_append, lowerFrom_cons, ih, lowerBetween, List.append_assoc, List.reverse_cons, List.append_assoc]
    rfl

theorem lowerBetween_nil (before cs : List Char) : lowerBetween before cs [] = lowerFrom before cs := by
  simpa [lowerFrom] using (lowerFrom_append before cs []).symm

/-- The lower case of a text has the one of its middle in it. -/
theorem lowerBetween_infix_lower (l k r : List Char) : lowerBetween l.reverse k r <:+: lower (l ++ k ++ r) := by
  refine ⟨lowerBetween [] l (k ++ r), lowerFrom (k.reverse ++ l.reverse) r, ?_⟩
  rw [lower, List.append_assoc l, lowerFrom_append, lowerFrom_append, List.append_nil, List.append_assoc]

theorem lowerBetween_eq_iff {before before' after : List Char} : ∀ {k : List Char},
    lowerBetween before k after = lowerBetween before' k [] ↔
      ∀ u v, k = u ++ 'Σ' :: v →
        endsWord (u.reverse ++ before) (v ++ after) = endsWord (u.reverse ++ before') v
  | [] => by simp [lowerBetween]
  | c :: k => by
    have hparts : lowerBetween before (c :: k) after = lowerBetween before' (c :: k) [] ↔
        lowerAt before c (k ++ after) = lowerAt before' c k ∧
          lowerBetween (c :: before) k after = lowerBetween (c :: before') k [] := by
      -- One character gives as many characters in both readings, so they part at the same place.
      rw [lowerBetween, lowerBetween, List.append_nil]
      exact ⟨fun h => List.append_inj h (length_lowerAt _ _ _ _ _), fun h => by rw [h.1, h.2]⟩
    rw [hparts, lowerAt_eq_iff, lowerBetween_eq_iff]
    -- A sigma of the part is its first character or one of the rest.
    constructor
    · rintro ⟨hhead, htail⟩ u v hk
      cases u with
      | nil =>
        obtain ⟨rfl, rfl⟩ := List.cons.inj hk
        exact hhead rfl
      | cons d u =>
        obtain ⟨rfl, htl⟩ := List.cons.inj hk
        simpa using htail u v htl
    · intro h
      refine ⟨fun hc => h [] k (by rw [hc]; rfl), fun u v hk => ?_⟩
      simpa using h (c :: u) v (by rw [hk]; rfl)

/-- The capital sigmas of a part are final in the text that it is a part of exactly if they are in the part alone. -/
def SigmasStay (l k r : List Char) : Prop :=
  ∀ u v, k = u ++ 'Σ' :: v → endsWord (l ++ u).reverse (v ++ r) = endsWord u.reverse v

theorem sigmasStay_of_notMem {k : List Char} (h : 'Σ' ∉ k) (l r : List Char) : SigmasStay l k r :=
  fun u v hk => absurd (by simp [hk]) h

/-- **A part of a text has the lower case that it has alone exactly if its sigmas stay.** -/
theorem lowerBetween_eq_lower_iff {l k r : List Char} : lowerBetween l.reverse k r = lower k ↔ SigmasStay l k r := by
  rw [lower, ← lowerBetween_nil, lowerBetween_eq_iff]
  simp only [SigmasStay, List.reverse_append, List.append_nil]

/-- A part whose sigmas stay is in the lower case of the text as it is in its own. -/
theorem lower_infix_of_sigmasStay {l k r : List Char} (h : SigmasStay l k r) : lower k <:+: lower (l ++ k ++ r) := by
  rw [← lowerBetween_eq_lower_iff.2 h]
  exact lowerBetween_infix_lower l k r

end SiteEdit.Text
