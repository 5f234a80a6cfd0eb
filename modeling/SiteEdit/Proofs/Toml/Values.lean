import SiteEdit.Toml.Reader
import SiteEdit.Toml.Printer
import SiteEdit.Proofs.Toml.Quoted
import Mathlib.Tactic.IntervalCases
/-!
# Values of TOML are read back

A value ends with its line or with its place in an array, and nothing that is written in it could go on there.  Whole
numbers are read back if they fit in 64 bits.
-/
namespace SiteEdit.Toml

variable {cs rest tail es ds w : List Char} {c q x : Char} {n fuel levels : Nat} {j : Json} {i : Int}

/-! ## Whole numbers -/

theorem ofDigits_of_isDigit (h : ∀ c ∈ ds, c.isDigit = true) : ofDigits 10 ds = Nat.ofDigitChars 10 ds 0 := by
  rw [Nat.ofDigitChars_eq_foldl]
  refine List.foldl_ext _ _ 0 fun a c hc => ?_
  have hd := Char.isDigit_iff_toNat.1 (h c hc)
  have hvalue : Json.hexValue? c = some (c.toNat - 48) := if_pos hd
  rw [hvalue, Nat.mul_comm]
  rfl

theorem ofDigits_toDigits (n : Nat) : ofDigits 10 (Nat.toDigits 10 n) = n := by
  rw [ofDigits_of_isDigit fun c hc => Nat.isDigit_of_mem_toDigits (by omega) (by omega) hc,
    Nat.ofDigitChars_ten_toDigits]

theorem digits?_of_isDigit {p : Char → Bool} {after : Bool} : ∀ {ds : List Char}, (∀ c ∈ ds, p c = true) →
    (after = true ∨ ds ≠ []) → digits? p after ds = some ds
  | [], _, h => by
    rw [digits?, if_pos (h.resolve_right fun h => h rfl)]
  | c :: ds, hd, _ => by
    rw [List.forall_mem_cons] at hd
    rw [digits?, if_pos hd.1, digits?_of_isDigit hd.2 (.inl rfl)]
    rfl

theorem head?_toDigits {n : Nat} (h : 0 < n) : (Nat.toDigits 10 n).head? ≠ some '0' := by
  induction n using Nat.strongRecOn with
  | ind n ih =>
    rw [Nat.toDigits_eq_if (by omega)]
    split_ifs with hn
    · interval_cases n <;> decide
    · rw [List.head?_append_of_ne_nil _ Nat.toDigits_ne_nil]
      exact ih (n / 10) (by omega) (by omega)

theorem isDigit_of_mem_toDigits (h : c ∈ Nat.toDigits 10 n) : c.isDigit = true :=
  Nat.isDigit_of_mem_toDigits (by omega) (by omega) h

theorem plainDigits?_toDigits (n : Nat) : plainDigits? (Nat.toDigits 10 n) = some (Nat.toDigits 10 n) := by
  unfold plainDigits?
  rw [digits?_of_isDigit (fun c hc => isDigit_of_mem_toDigits hc) (.inr Nat.toDigits_ne_nil)]
  split
  · next heq =>
    rw [Option.some.injEq] at heq
    rcases Nat.eq_zero_or_pos n with rfl | hn
    · cases heq
    · exact absurd (by rw [heq]; rfl) (head?_toDigits hn)
  · rfl

theorem splitSign_of_isDigit (h : ∀ c ∈ ds, c.isDigit = true) : splitSign ds = (false, ds) := by
  unfold splitSign
  split
  · exact absurd (h '-' List.mem_cons_self) (by decide)
  · exact absurd (h '+' List.mem_cons_self) (by decide)
  · rfl

theorem readWhole?_of_isDigit (h : ∀ c ∈ ds, c.isDigit = true) :
    readWhole? ds = (plainDigits? ds).bind fun ds => whole? false (ofDigits 10 ds) := by
  unfold readWhole?
  split
  · exact absurd (h 'x' (by simp)) (by decide)
  · exact absurd (h 'o' (by simp)) (by decide)
  · exact absurd (h 'b' (by simp)) (by decide)
  · rw [splitSign_of_isDigit h]

theorem whole?_natAbs (hlow : -Int.pow 2 63 ≤ i) (hhigh : i < Int.pow 2 63) :
    whole? (decide (i < 0)) i.natAbs = some (.num (.int i)) := by
  have hpow : Int.pow 2 63 = (Nat.pow 2 63 : Nat) := rfl
  rw [hpow] at hlow hhigh
  unfold whole?
  by_cases hneg : i < 0
  · have habs : -(i.natAbs : Int) = i := by omega
    rw [if_pos (by simpa using hneg), if_pos (by omega), habs]
  · have habs : (i.natAbs : Int) = i := by omega
    rw [if_neg (by simpa using hneg), if_pos (by omega), habs]

/-- A whole number of 64 bits is read back from its digits. -/
theorem readWhole?_intText (hlow : -Int.pow 2 63 ≤ i) (hhigh : i < Int.pow 2 63) :
    readWhole? (Json.intText i) = some (.num (.int i)) := by
  have hwhole := whole?_natAbs hlow hhigh
  unfold Json.intText
  split_ifs with hneg
  · have hread : readWhole? ('-' :: Nat.toDigits 10 i.natAbs) =
        (plainDigits? (Nat.toDigits 10 i.natAbs)).bind fun ds => whole? true (ofDigits 10 ds) := rfl
    rw [hread, plainDigits?_toDigits, Option.bind_some, ofDigits_toDigits, ← decide_eq_true hneg, hwhole]
  · rw [readWhole?_of_isDigit fun c hc => isDigit_of_mem_toDigits hc, plainDigits?_toDigits, Option.bind_some,
      ofDigits_toDigits, ← decide_eq_false hneg, hwhole]

/-! ## Words -/

theorem isWordChar_of_isDigit (h : c.isDigit = true) : isWordChar c = true := by
  simp [isWordChar, Char.isAlphanum, h]

theorem mem_intText (hc : c ∈ Json.intText i) : c = '-' ∨ c.isDigit = true := by
  unfold Json.intText at hc
  split_ifs at hc
  · exact (List.mem_cons.1 hc).imp_right isDigit_of_mem_toDigits
  · exact .inr (isDigit_of_mem_toDigits hc)

theorem intText_ne_nil (i : Int) : Json.intText i ≠ [] := by
  unfold Json.intText
  split_ifs
  · exact List.cons_ne_nil _ _
  · exact Nat.toDigits_ne_nil

theorem splitSign_intText (i : Int) : (splitSign (Json.intText i)).2 = Nat.toDigits 10 i.natAbs := by
  unfold Json.intText
  split_ifs
  · rfl
  · rw [splitSign_of_isDigit fun c hc => isDigit_of_mem_toDigits hc]

theorem readWord?_intText (hlow : -Int.pow 2 63 ≤ i) (hhigh : i < Int.pow 2 63) :
    readWord? (Json.intText i) = some (.num (.int i)) := by
  -- A word with a letter is no number.
  have hword : ∀ {c : Char} {w : List Char}, c ∈ w → ¬(c = '-' ∨ c.isDigit = true) → Json.intText i ≠ w := by
    rintro c w hc hletter rfl
    exact hletter (mem_intText hc)
  have hunbounded : isUnbounded (Json.intText i) = false := by
    unfold isUnbounded
    rw [splitSign_intText]
    simp only [Bool.or_eq_false_iff, decide_eq_false_iff_not]
    have hdigits : ∀ {c : Char} {w : List Char}, c ∈ w → ¬c.isDigit = true → Nat.toDigits 10 i.natAbs ≠ w := by
      rintro c w hc hletter rfl
      exact hletter (isDigit_of_mem_toDigits hc)
    exact ⟨hdigits (c := 'i') (by decide) (by decide), hdigits (c := 'n') (by decide) (by decide)⟩
  unfold readWord?
  rw [if_neg (hword (c := 't') (by decide) (by decide)), if_neg (hword (c := 'f') (by decide) (by decide)),
    if_neg (by rw [hunbounded]; decide), readWhole?_intText hlow hhigh]
  rfl

/-! ## Values -/

/-- What may follow a value: the end of its line, or of its place in an array. -/
def EndsValue : List Char → Prop
  | c :: _ => c ∈ ['\n', ',', ']']
  | [] => False

theorem EndsValue.exists_cons (h : EndsValue rest) : ∃ c t, rest = c :: t ∧ c ∈ ['\n', ',', ']'] := by
  cases rest with
  | nil => exact h.elim
  | cons c t => exact ⟨c, t, rfl, h⟩

theorem EndsValue.head?_ne (h : EndsValue rest) (hq : q ∉ ['\n', ',', ']']) : rest.head? ≠ some q := by
  obtain ⟨c, t, rfl, hc⟩ := h.exists_cons
  rintro heq
  exact hq (Option.some.inj heq ▸ hc)

/-- Characters of one kind end where one of another kind follows. -/
theorem span_append {p : Char → Bool} (hw : ∀ c ∈ w, p c = true) (hrest : ∀ c ∈ rest.head?, p c = false) :
    (w ++ rest).takeWhile p = w ∧ (w ++ rest).dropWhile p = rest := by
  rw [List.takeWhile_append_of_pos hw, List.dropWhile_append_of_pos hw]
  cases rest with
  | nil => exact ⟨List.append_nil w, rfl⟩
  | cons c rest =>
    have hc := hrest c rfl
    rw [List.takeWhile_cons_of_neg (by simp [hc]), List.dropWhile_cons_of_neg (by simp [hc])]
    exact ⟨List.append_nil w, rfl⟩

theorem EndsValue.isWordChar (h : EndsValue rest) : ∀ c ∈ rest.head?, isWordChar c = false := by
  obtain ⟨c, t, rfl, hc⟩ := h.exists_cons
  rintro d hd
  rw [← Option.some.inj hd]
  simp only [List.mem_cons, List.not_mem_nil, or_false] at hc
  rcases hc with rfl | rfl | rfl <;> decide

theorem readValue?_word (hw : ∀ c ∈ w, isWordChar c = true) (hne : w ≠ []) (hrest : EndsValue rest)
    (hj : readWord? w = some j) : readValue? (fuel + 1) levels (w ++ rest) = some (j, rest) := by
  obtain ⟨htake, hdrop⟩ := span_append hw hrest.isWordChar
  have hhead : ∀ {q : Char} {t : List Char}, isWordChar q = false → w ++ rest ≠ q :: t := by
    obtain ⟨c, w, rfl⟩ := List.exists_cons_of_ne_nil hne
    rintro q t hq heq
    rw [← (List.cons.inj heq).1, hw c List.mem_cons_self] at hq
    cases hq
  rw [readValue?]
  · rw [htake, hj, hdrop]
  all_goals exact fun t => hhead (by decide)

/-- Whether a value is written as a word or a string of its own. -/
def isScalar : Json → Bool
  | .bool _ => true
  | .num (.int i) => decide (-Int.pow 2 63 ≤ i ∧ i < Int.pow 2 63)
  | .str _ => true
  | _ => false

theorem exists_writeString (cs : List Char) : ∃ q t, writeString cs = q :: t ∧ (q = '"' ∨ q = '\'') := by
  unfold writeString
  split
  · exact ⟨_, _, rfl, .inl rfl⟩
  · exact ⟨_, _, rfl, .inr rfl⟩
  · exact ⟨_, _, rfl, .inl rfl⟩
  · exact ⟨_, _, rfl, .inr rfl⟩

theorem readValue?_string (hrest : EndsValue rest) (s : String) :
    readValue? (fuel + 1) levels (writeString s.toList ++ rest) = some (.str s, rest) := by
  have hread := readString?_writeString (hrest.head?_ne (by decide)) (hrest.head?_ne (by decide)) s.toList
  obtain ⟨q, t, ht, rfl | rfl⟩ := exists_writeString s.toList <;>
    rw [ht, List.cons_append] at hread ⊢ <;> rw [readValue?, hread] <;> simp

theorem readValue?_scalar (h : isScalar j = true) (hrest : EndsValue rest) :
    readValue? (fuel + 1) levels (writeScalar j ++ rest) = some (j, rest) := by
  match j with
  | .bool true => exact readValue?_word (w := "true".toList) (by simp [isWordChar]) (by simp) hrest (if_pos rfl)
  | .bool false =>
    exact readValue?_word (w := "false".toList) (by simp [isWordChar]) (by simp) hrest
      ((if_neg (by decide)).trans (if_pos rfl))
  | .num (.int i) =>
    obtain ⟨hlow, hhigh⟩ := of_decide_eq_true h
    refine readValue?_word (fun c hc => ?_) (intText_ne_nil i) hrest (readWord?_intText hlow hhigh)
    rcases mem_intText hc with rfl | hd
    · decide
    · exact isWordChar_of_isDigit hd
  | .str s => exact readValue?_string hrest s

/-! ## Arrays -/

/-- A text that starts neither with a blank nor with a comment or the end of a line. -/
def Settled (cs : List Char) : Prop := ∀ c ∈ cs.head?, c ∉ [' ', '\t', '#', '\n', '\r']

theorem Settled.skip (h : Settled cs) : skipBlanks cs = cs ∧ skipComment cs = cs ∧ afterBreak? cs = none := by
  cases cs with
  | nil => exact ⟨rfl, rfl, rfl⟩
  | cons c cs =>
    have hc := h c rfl
    simp only [List.mem_cons, List.not_mem_nil, or_false, not_or] at hc
    obtain ⟨hspace, htab, hhash, hbreak, hreturn⟩ := hc
    refine ⟨List.dropWhile_cons_of_neg (by simp [isBlank, hspace, htab]), ?_, ?_⟩
    · unfold skipComment
      split <;> simp_all
    · unfold afterBreak?
      split <;> simp_all

theorem Settled.skipLines (h : Settled cs) : ∀ fuel, skipLines fuel cs = cs
  | 0 => rfl
  | fuel + 1 => by
    obtain ⟨hblanks, hcomment, hbreak⟩ := h.skip
    rw [Toml.skipLines, hblanks, hcomment, hbreak]

theorem settled_cons (h : c ∉ [' ', '\t', '#', '\n', '\r']) (cs : List Char) : Settled (c :: cs) := by
  rintro d hd
  rwa [← Option.some.inj hd]

theorem skipLines_break (fuel : Nat) (cs : List Char) : skipLines (fuel + 1) ('\n' :: cs) = skipLines fuel cs := rfl

/-- Blanks at the start of a line are left out. -/
theorem skipLines_line (h : Settled cs) (fuel n : Nat) :
    skipLines (fuel + 2) ('\n' :: (List.replicate n ' ' ++ cs)) = cs := by
  obtain ⟨hblanks, hcomment, hbreak⟩ := h.skip
  have hline : skipBlanks (List.replicate n ' ' ++ cs) = cs := by
    unfold skipBlanks at hblanks ⊢
    rw [List.dropWhile_append_of_pos fun c hc => by rw [List.eq_of_mem_replicate hc]; rfl, hblanks]
  rw [skipLines_break, Toml.skipLines, hline, hcomment, hbreak]

theorem exists_writeScalar (h : isScalar j = true) :
    ∃ c t, writeScalar j = c :: t ∧ c ∉ [' ', '\t', '#', '\n', '\r', ']'] := by
  match j with
  | .bool true => exact ⟨'t', ['r', 'u', 'e'], rfl, by decide⟩
  | .bool false => exact ⟨'f', ['a', 'l', 's', 'e'], rfl, by decide⟩
  | .num (.int i) =>
    obtain ⟨c, t, ht⟩ := List.exists_cons_of_ne_nil (intText_ne_nil i)
    refine ⟨c, t, ht, fun hc => ?_⟩
    have hdigit : c = '-' ∨ c.isDigit = true := mem_intText (i := i) (by rw [ht]; exact List.mem_cons_self)
    simp only [List.mem_cons, List.not_mem_nil, or_false] at hc
    rcases hc with rfl | rfl | rfl | rfl | rfl | rfl <;> exact absurd hdigit (by decide)
  | .str s =>
    obtain ⟨q, t, ht, hq⟩ := exists_writeString s.toList
    refine ⟨q, t, ht, ?_⟩
    rcases hq with rfl | rfl <;> decide

theorem settled_writeScalar (h : isScalar j = true) (rest : List Char) : Settled (writeScalar j ++ rest) := by
  obtain ⟨c, t, ht, hc⟩ := exists_writeScalar h
  rw [ht]
  exact settled_cons (fun hm => hc (List.mem_append_left [']'] hm)) _

theorem readItems?_cons (h : isScalar j = true) (hrest : EndsValue rest) :
    readItems? (fuel + 2) levels (writeScalar j ++ rest) =
      match skipLines (fuel + 1) rest with
      | ',' :: rest => (readItems? (fuel + 1) levels (skipLines (fuel + 1) rest)).map fun r => (j :: r.1, r.2)
      | ']' :: rest => some ([j], rest)
      | _ => none := by
  obtain ⟨c, t, ht, hc⟩ := exists_writeScalar h
  rw [readItems?, readValue?_scalar h hrest]
  · rfl
  · rintro t' heq
    rw [ht] at heq
    exact hc (by rw [(List.cons.inj heq).1]; decide)

theorem readItems?_items : ∀ {items : List Json} (fuel k : Nat), (∀ j ∈ items, isScalar j = true) →
    items.length + 2 ≤ fuel → 2 ≤ k →
      readItems? fuel levels (skipLines k (items.flatMap writeItem ++ '\n' :: ']' :: rest)) = some (items, rest)
  | [], fuel, k, _, hfuel, hk => by
    obtain ⟨k, rfl⟩ := Nat.exists_eq_add_of_le' hk
    obtain ⟨fuel, rfl⟩ : ∃ f, fuel = f + 1 := ⟨fuel - 1, by omega⟩
    rw [List.flatMap_nil, List.nil_append, skipLines_break, (settled_cons (by decide) rest).skipLines, readItems?]
  | j :: items, fuel, k, h, hfuel, hk => by
    rw [List.length_cons] at hfuel
    rw [List.forall_mem_cons] at h
    obtain ⟨k, rfl⟩ := Nat.exists_eq_add_of_le' hk
    obtain ⟨fuel, rfl⟩ : ∃ f, fuel = f + 2 := ⟨fuel - 2, by omega⟩
    have htext : (j :: items).flatMap writeItem ++ '\n' :: ']' :: rest = '\n' :: (List.replicate 4 ' ' ++
        (writeScalar j ++ ',' :: (items.flatMap writeItem ++ '\n' :: ']' :: rest))) := by
      simp [writeItem, List.replicate]
    rw [htext, skipLines_line (settled_writeScalar h.1 _), readItems?_cons h.1 (by simp [EndsValue]),
      (settled_cons (by decide) _).skipLines]
    exact congrArg (Option.map fun r => (j :: r.1, r.2))
      (readItems?_items (fuel + 1) (fuel + 1) h.2 (by omega) (by omega))

/-- Whether a value is written on the line of its key. -/
def isWritable : Json → Bool
  | .arr items => items.all isScalar
  | j => isScalar j

theorem length_flatMap_writeItem (items : List Json) : 6 * items.length ≤ (items.flatMap writeItem).length := by
  induction items with
  | nil => exact Nat.le_refl 0
  | cons j items ih =>
    simp only [List.flatMap_cons, List.length_append, List.length_cons, writeItem, List.length_nil] at ih ⊢
    omega

theorem settled_writeValue (h : isWritable j = true) (rest : List Char) : Settled (writeValue j ++ rest) := by
  match j with
  | .arr [] => exact settled_cons (by decide) _
  | .arr [_] => exact settled_cons (by decide) _
  | .arr (_ :: _ :: _) => exact settled_cons (by decide) _
  | .bool b => exact settled_writeScalar (j := .bool b) h rest
  | .num n => exact settled_writeScalar (j := .num n) h rest
  | .str s => exact settled_writeScalar (j := .str s) h rest

/-- **A value is read back**, if something that ends it follows. -/
theorem readValue?_writeValue (h : isWritable j = true) (hrest : EndsValue rest)
    (hfuel : (writeValue j).length < fuel) :
    readValue? fuel (levels + 1) (writeValue j ++ rest) = some (j, rest) := by
  obtain ⟨fuel, rfl⟩ : ∃ f, fuel = f + 1 := ⟨fuel - 1, by omega⟩
  match j with
  | .arr [] =>
    obtain ⟨fuel, rfl⟩ : ∃ f, fuel = f + 1 := ⟨fuel - 1, by simp only [writeValue, List.length_cons] at hfuel; omega⟩
    have hitems : readItems? (fuel + 1) levels (']' :: rest) = some ([], rest) := by rw [readItems?]
    show readValue? (fuel + 1 + 1) (levels + 1) ('[' :: ']' :: rest) = _
    rw [readValue?, (settled_cons (by decide) rest).skipLines, hitems]
    rfl
  | .arr [j] =>
    have hj : isScalar j = true := by simpa [isWritable] using h
    obtain ⟨fuel, rfl⟩ : ∃ f, fuel = f + 2 := ⟨fuel - 2, by
      simp only [writeValue, List.length_append, List.length_cons] at hfuel
      omega⟩
    have htext : writeValue (.arr [j]) ++ rest = '[' :: (writeScalar j ++ ']' :: rest) := by simp [writeValue]
    rw [htext, readValue?, (settled_writeScalar hj _).skipLines, readItems?_cons hj (by simp [EndsValue]),
      (settled_cons (by decide) rest).skipLines]
    rfl
  | .arr (j :: k :: items) =>
    have hscalar : ∀ i ∈ j :: k :: items, isScalar i = true := List.all_eq_true.1 h
    have hlength := length_flatMap_writeItem (j :: k :: items)
    have htext : writeValue (.arr (j :: k :: items)) =
        '[' :: ((j :: k :: items).flatMap writeItem ++ ['\n', ']']) := by
      simp [writeValue]
    simp only [htext, List.length_cons, List.length_append, List.length_nil] at hfuel hlength
    rw [htext, List.cons_append, List.append_assoc, readValue?]
    exact congrArg (Option.map fun r => (Json.arr r.1, r.2))
      (readItems?_items fuel fuel hscalar (by simp only [List.length_cons]; omega) (by omega))
  | .bool b => exact readValue?_scalar (j := .bool b) h hrest
  | .num n => exact readValue?_scalar (j := .num n) h hrest
  | .str s => exact readValue?_scalar (j := .str s) h hrest

end SiteEdit.Toml
