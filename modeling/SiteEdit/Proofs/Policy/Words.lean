import SiteEdit.Proofs.Pattern.Classes
import SiteEdit.Proofs.Policy.Builtin
/-!
# What the redaction finds in names and identifiers

The name of a member is a short word, and no built-in rule matches in it (`redact_name`).  An identifier is a word, an
underscore and hexadecimal digits.  Only the rules for cards and for phones can match in it: they look for digits and at
nothing around them.  So it is left as it is exactly if its digits show no such number (`Joins.redact_eq_self_iff`).
-/
namespace SiteEdit.Policy

/-! ## Numbers -/

/-- As many digits as the shortest card has. -/
def IsCard (w : List Char) : Prop := w.length = 13 ∧ w.all Char.isDigit = true

/-- The number of a mobile phone. -/
def IsMobile (w : List Char) : Prop :=
  w.length = 11 ∧ w.all Char.isDigit = true ∧ w[0]? = some '1' ∧ w[1]?.any ('3' ≤ ·) = true

instance (w : List Char) : Decidable (IsCard w) := inferInstanceAs (Decidable (_ ∧ _))

instance (w : List Char) : Decidable (IsMobile w) := inferInstanceAs (Decidable (_ ∧ _ ∧ _ ∧ _))

/-- From some place on the digits go on with the number of a card or of a mobile phone. -/
def ShowsNumber (digits : List Char) : Prop :=
  ∃ i < digits.length, IsCard ((digits.drop i).take 13) ∨ IsMobile ((digits.drop i).take 11)

instance (digits : List Char) : Decidable (ShowsNumber digits) := inferInstanceAs (Decidable (∃ i < _, _))

variable {w u v : List Char}

/-- Digits that the rules take for a number. -/
def IsNumber (w : List Char) : Prop := IsCard w ∨ IsMobile w

theorem IsNumber.digits (h : IsNumber w) : ∀ c ∈ w, c.isDigit = true :=
  List.all_eq_true.1 (h.elim And.right fun h => h.2.1)

theorem IsNumber.ne_nil (h : IsNumber w) : w ≠ [] := by
  rintro rfl
  rcases h with ⟨h, -⟩ | ⟨h, -⟩ <;> cases h

theorem showsNumber_iff {digits : List Char} : ShowsNumber digits ↔ ∃ w, w <:+: digits ∧ IsNumber w := by
  constructor
  · rintro ⟨i, -, h⟩
    have hpart (n : Nat) : (digits.drop i).take n <:+: digits :=
      (List.take_prefix n _).isInfix.trans (List.drop_suffix i digits).isInfix
    rcases h with h | h
    · exact ⟨_, hpart 13, .inl h⟩
    · exact ⟨_, hpart 11, .inr h⟩
  · rintro ⟨w, ⟨s, t, rfl⟩, h⟩
    have hpos : 0 < w.length := List.length_pos_iff.2 h.ne_nil
    have htake : ((s ++ w ++ t).drop s.length).take w.length = w := by
      rw [List.append_assoc, List.drop_left, List.take_left]
    refine ⟨s.length, by simp only [List.length_append]; omega, h.imp (fun hw => ?_) fun hw => ?_⟩
    · rw [← hw.1, htake]
      exact hw
    · rw [← hw.1, htake]
      exact hw

/-! ## The rules -/

/-- The digits of ASCII. -/
def decimals : List Char := "0123456789".toList

/-- The other characters of identifiers and of the keys made of them. -/
def letters : List Char := "abcdefinops_:".toList

/-- The characters of the names of members. -/
def nameLetters : List Char := "abcdefghijklmnopqrstuvwxyz_".toList

def digitClass : CharClass := ⟨false, [.digit]⟩

def cardClasses : List CharClass := List.replicate 13 digitClass

def mobileClasses : List CharClass :=
  ⟨false, [.range '1' '1']⟩ :: ⟨false, [.range '3' '9']⟩ :: List.replicate 9 digitClass

/-- What a rule can match in an identifier: nothing, since it needs other characters or more of them than there are on
one side of the underscore, or digits alone, and then a number. -/
def Seeks (p : Pattern) : Prop :=
  p.leaves (decimals ++ letters) = true ∨ (p.avoids '_' = true ∧ 40 ≤ p.minLength) ∨
    (letters.all p.avoids = true ∧ (13 ≤ p.minLength ∨ p.endsWith mobileClasses = true))

instance (p : Pattern) : Decidable (Seeks p) := inferInstanceAs (Decidable (_ ∨ _ ∨ _))

/-- All that is computed of the built-in rules here, in one go. -/
theorem builtin_seeks : (∀ r ∈ Redactor.builtin.rules, Seeks r.pattern) ∧
    (∀ ks ∈ [cardClasses, mobileClasses], ∃ r ∈ Redactor.builtin.rules,
      r.pattern.unanchored = true ∧ r.pattern.edgeless = true ∧ r.pattern.shortest = ks) ∧
    ∀ r ∈ Redactor.builtin.rules, r.pattern.leaves nameLetters = true ∨ 14 ≤ r.pattern.minLength := by decide +kernel

theorem digitClass_has {c : Char} (h : c.isDigit = true) : digitClass.has c = true := by
  simp [digitClass, CharClass.has, CharItem.has, Text.isDecimalDigit_of_isDigit h]

theorem isDigit_of_mem_decimals {c : Char} (h : c ∈ decimals) : c.isDigit = true := by
  have hall : decimals.all Char.isDigit = true := by decide
  exact List.all_eq_true.1 hall c h

theorem isDigit_of_mem_letters {c : Char} (h : c ∈ letters) : c.isDigit = false := by
  have hall : (letters.all fun c => !c.isDigit) = true := by decide
  simpa using List.all_eq_true.1 hall c h

/-! ## Names -/

/-- A word of small letters and underscores, less than 14 of them. -/
def isName (t : String) : Bool := t.toList.all nameLetters.contains && decide (t.toList.length < 14)

theorem redact_name {t : String} (ht : isName t = true) : Redactor.builtin.redact t = ⟨t, []⟩ := by
  rw [isName, Bool.and_eq_true, decide_eq_true_eq] at ht
  refine Redactor.redact_of_clear _ t fun r hr s w rest htext hspans => ?_
  have hpart : w <:+: t.toList := ⟨s, rest, by rw [htext, List.append_assoc]⟩
  rcases builtin_seeks.2.2 r hr with hleaves | hmin
  · obtain ⟨c, hc, hcs⟩ := hspans.exists_notMem hleaves
    exact hcs (List.contains_iff_mem.1 (List.all_eq_true.1 ht.1 c (hpart.subset hc)))
  · have hlong : 14 ≤ t.toList.length := Nat.le_trans (Nat.le_trans hmin hspans.minLength_le) hpart.length_le
    omega

theorem redactText_names {names : List String} (h : names.all isName = true) :
    ∀ k ∈ names, Redactor.builtin.redactText k = k := fun k hk => by
  rw [Redactor.redactText, redact_name (List.all_eq_true.1 h k hk)]

/-! ## Numbers are matched -/

theorem IsCard.fitsClasses (h : IsCard w) : FitsClasses cardClasses w := by
  rw [cardClasses, ← h.1]
  exact fitsClasses_replicate fun c hc => digitClass_has (List.all_eq_true.1 h.2 c hc)

theorem IsMobile.fitsClasses (h : IsMobile w) : FitsClasses mobileClasses w := by
  obtain ⟨hl, hall, hfirst, hsecond⟩ := h
  have hd : ∀ c ∈ w, c.isDigit = true := List.all_eq_true.1 hall
  match w, hl with
  | c :: d :: w, hl =>
    obtain rfl : c = '1' := Option.some.inj hfirst
    have hw : w.length = 9 := by simpa using hl
    have hnine : d ≤ '9' := by
      have hdigit := hd d (by simp)
      simp only [Char.isDigit, Bool.and_eq_true, decide_eq_true_eq] at hdigit
      exact hdigit.2
    refine .cons (by decide) (.cons ?_ ?_)
    · have hthree : '3' ≤ d := of_decide_eq_true hsecond
      simpa [CharClass.has, CharItem.has] using ⟨hthree, hnine⟩
    · rw [← hw]
      exact fitsClasses_replicate fun c hc => digitClass_has (hd c (by simp [hc]))

theorem IsNumber.exists_fitsClasses (h : IsNumber w) : ∃ ks ∈ [cardClasses, mobileClasses], FitsClasses ks w := by
  rcases h with h | h
  · exact ⟨_, by simp, h.fitsClasses⟩
  · exact ⟨_, by simp, h.fitsClasses⟩

/-- Wherever a number stands, a rule matches it. -/
theorem exists_spans_of_isNumber (h : IsNumber w) (b a : Option Char) :
    ∃ r ∈ Redactor.builtin.rules, r.pattern.Spans b w a := by
  obtain ⟨ks, hks, hw⟩ := h.exists_fitsClasses
  obtain ⟨r, hr, hu, he, rfl⟩ := builtin_seeks.2.1 ks hks
  exact ⟨r, hr, Pattern.spans_of_shortest hu he hw⟩

/-! ## What is matched shows a number -/

theorem isMobile_of_fitsClasses (h : FitsClasses mobileClasses w) (hdigits : ∀ c ∈ w, c.isDigit = true) :
    IsMobile w := by
  refine ⟨h.length_eq.symm, List.all_eq_true.2 hdigits, ?_⟩
  obtain ⟨c, w, hfirst, hw, rfl⟩ := List.forall₂_cons_left_iff.1 h
  obtain ⟨d, w, hsecond, -, rfl⟩ := List.forall₂_cons_left_iff.1 hw
  have hc : '1' ≤ c ∧ c ≤ '1' := by simpa [CharClass.has, CharItem.has] using hfirst
  have hd : '3' ≤ d ∧ d ≤ '9' := by simpa [CharClass.has, CharItem.has] using hsecond
  exact ⟨congrArg some (Char.le_antisymm hc.2 hc.1), decide_eq_true hd.1⟩

/-- A match of digits alone has a number in it. -/
theorem exists_number_of_spans {p : Pattern} {b a : Option Char} (h : p.Spans b w a)
    (hp : 13 ≤ p.minLength ∨ p.endsWith mobileClasses = true) (hd : ∀ c ∈ w, c.isDigit = true) :
    ∃ v, v <:+: w ∧ IsNumber v := by
  rcases hp with hp | hp
  · have hl : 13 ≤ w.length := Nat.le_trans hp h.minLength_le
    have hcard : IsCard (w.take 13) :=
      ⟨by rw [List.length_take]; omega, List.all_eq_true.2 fun c hc => hd c (List.mem_of_mem_take hc)⟩
    exact ⟨_, (List.take_prefix 13 w).isInfix, .inl hcard⟩
  · obtain ⟨u, v, rfl, hv⟩ := h.exists_suffix hp
    have hmobile := isMobile_of_fitsClasses hv fun c hc => hd c (List.mem_append_right u hc)
    exact ⟨v, (List.suffix_append u v).isInfix, .inr hmobile⟩

theorem infix_of_notMem {x : Char} (hx : x ∉ w) (h : w <:+: u ++ x :: v) : w <:+: u ∨ w <:+: v := by
  have hstart : ∀ l, l <+: x :: v → x ∉ l → l = [] := fun l hl hx => by
    rcases List.prefix_cons_iff.1 hl with rfl | ⟨t, rfl, -⟩
    · rfl
    · exact absurd List.mem_cons_self hx
  rcases List.infix_append_iff.1 h with h | h | ⟨l, r, rfl, hl, hr⟩
  · exact .inl h
  · rcases List.infix_cons_iff.1 h with h | h
    · rw [hstart w h hx]
      exact .inl List.nil_infix
    · exact .inr h
  · rw [hstart r hr fun hm => hx (List.mem_append_right l hm), List.append_nil]
    exact .inl hl.isInfix

/-! ## Identifiers -/

/-- A word and hexadecimal digits, to be joined by an underscore. -/
structure Joins (word digits : List Char) : Prop where
  word_mem : ∀ c ∈ word, c ∈ letters
  digits_mem : ∀ c ∈ digits, c ∈ decimals ++ letters
  word_short : word.length < 40
  digits_short : digits.length < 40

variable {word digits : List Char}

theorem Joins.mem (h : Joins word digits) {c : Char} (hc : c ∈ word ++ '_' :: digits) : c ∈ decimals ++ letters := by
  rcases List.mem_append.1 hc with hc | hc
  · exact List.mem_append_right _ (h.word_mem c hc)
  rcases List.mem_cons.1 hc with rfl | hc
  · decide
  · exact h.digits_mem c hc

/-- A number in an identifier stands in its digits. -/
theorem Joins.infix_digits (h : Joins word digits) (hv : IsNumber v) (hi : v <:+: word ++ '_' :: digits) :
    v <:+: digits := by
  have hunderscore : '_' ∉ v := fun hm => absurd (hv.digits '_' hm) (by decide)
  rcases infix_of_notMem hunderscore hi with hw | hd
  · obtain ⟨c, hc⟩ := List.exists_mem_of_ne_nil v hv.ne_nil
    have hletter := isDigit_of_mem_letters (h.word_mem c (hw.subset hc))
    rw [hv.digits c hc] at hletter
    cases hletter
  · exact hd

theorem Joins.clear_iff (h : Joins word digits) :
    (∀ r ∈ Redactor.builtin.rules, r.pattern.Clear (word ++ '_' :: digits)) ↔ ¬ ShowsNumber digits := by
  rw [showsNumber_iff]
  constructor
  · rintro hclear ⟨w, ⟨s, t, rfl⟩, hw⟩
    obtain ⟨r, hr, hspans⟩ := exists_spans_of_isNumber hw (Pattern.lastOf none (word ++ '_' :: s)) t.head?
    exact hclear r hr (word ++ '_' :: s) w t (by simp) hspans
  · intro hno r hr s w t ht hspans
    have hpart : w <:+: word ++ '_' :: digits := ⟨s, t, by rw [ht, List.append_assoc]⟩
    rcases builtin_seeks.1 r hr with hleaves | ⟨havoids, hmin⟩ | ⟨havoids, hp⟩
    · obtain ⟨c, hc, hcs⟩ := hspans.exists_notMem hleaves
      exact hcs (h.mem (hpart.subset hc))
    · have hl : 40 ≤ w.length := Nat.le_trans hmin hspans.minLength_le
      rcases infix_of_notMem (hspans.notMem havoids) hpart with hw | hw
      · exact Nat.not_lt.2 (Nat.le_trans hl hw.length_le) h.word_short
      · exact Nat.not_lt.2 (Nat.le_trans hl hw.length_le) h.digits_short
    · -- only digits are left, and the numbers among them stand on one side of the underscore
      have hd : ∀ c ∈ w, c.isDigit = true := fun c hc =>
        (List.mem_append.1 (h.mem (hpart.subset hc))).elim isDigit_of_mem_decimals
          fun hl => absurd hc (hspans.notMem (List.all_eq_true.1 havoids c hl))
      obtain ⟨v, hv, hnumber⟩ := exists_number_of_spans hspans hp hd
      exact hno ⟨v, h.infix_digits hnumber (hv.trans hpart), hnumber⟩

/-- Redaction leaves an identifier as it is exactly if its digits show no number. -/
theorem Joins.redact_eq_self_iff {t : String} (h : Joins word digits) (ht : t.toList = word ++ '_' :: digits) :
    Redactor.builtin.redact t = ⟨t, []⟩ ↔ ¬ ShowsNumber digits := by
  rw [← h.clear_iff, ← ht]
  constructor
  · intro hkept r hr
    have hclear := Redactor.redact_clear _ t builtin_tame r hr
    rwa [hkept] at hclear
  · exact Redactor.redact_of_clear _ t

end SiteEdit.Policy
