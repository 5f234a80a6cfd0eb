import SiteEdit.Proofs.Request.Connectives
import SiteEdit.Proofs.Request.Offsets
import SiteEdit.Proofs.Text.Lowercase
import SiteEdit.Proofs.Text.Trimming
/-!
# The values of a request

A value is looked for in the lower case of a request and taken from the request itself.  It is what the clause has after
its first connective, in the letters of the request, without the blanks and marks around it (`valueFrom?_spec`).
-/
namespace SiteEdit.Request

open Text (byteLength byteLength_append dropBytes? dropBytes?_append sliceBytes? findChar? isBlank lowerChar lowerEach
  trim LeftOf Settled)

variable {text lower before gap stretch after raw value : List Char} {connective : String} {start : Nat}

/-! ## The stretch of a value -/

/-- A place of the lower case, the first connective behind it, and what the clause has after the connective. -/
structure Clause (lower : List Char) (start : Nat) (before gap : List Char) (connective : String)
    (stretch after : List Char) : Prop where
  lower_eq : lower = before ++ (gap ++ (connective.toList ++ (stretch ++ after)))
  start_eq : start = byteLength before
  first : FirstConnective (gap ++ (connective.toList ++ (stretch ++ after))) gap connective (stretch ++ after)
  within : ∀ c ∈ stretch, endsClause c = false
  ends : ∀ c ∈ after.head?, endsClause c = true

/-- The part of a text whose lower case is a stretch of the text's lower case, between `before` and `after`. -/
def IsSource (text before stretch after raw : List Char) : Prop :=
  ∃ a b, text = a ++ (raw ++ b) ∧ lowerEach a = before ∧ lowerEach raw = stretch ∧ lowerEach b = after

theorem exists_clause {rest : List Char} {at_ length : Nat} (hrest : dropBytes? start lower = some rest)
    (hfirst : firstConnective? rest = some (at_, length)) :
    ∃ before gap connective stretch after, Clause lower start before gap connective stretch after ∧
      rest = gap ++ (connective.toList ++ (stretch ++ after)) ∧
      at_ = byteLength gap ∧ length = byteLength connective.toList := by
  obtain ⟨before, hlower, hstart⟩ := Text.exists_of_dropBytes? hrest
  obtain ⟨gap, connective, tail, hf, rfl, rfl⟩ := firstConnective?_eq_some_iff.1 hfirst
  have htail : tail = tail.takeWhile (!endsClause ·) ++ tail.dropWhile (!endsClause ·) :=
    List.takeWhile_append_dropWhile.symm
  have htext := hf.text_eq
  refine ⟨before, gap, connective, tail.takeWhile (!endsClause ·), tail.dropWhile (!endsClause ·),
    ⟨?_, hstart.symm, ?_, fun c hc => ?_, fun c hc => ?_⟩, ?_, rfl, rfl⟩
  · rw [← htail, ← htext, hlower]
  · rw [← htail, ← htext]
    exact hf
  · simpa using List.mem_takeWhile_imp hc
  · simpa using Text.not_of_mem_head?_dropWhile hc
  · rw [← htail, htext]

theorem getLast?_connective : ∀ c ∈ connectives, ∃ l, c.toList.getLast? = some l ∧ l ≠ 'i' := by
  have hlast : ∀ c ∈ connectives, c.toList.getLast?.any (· != 'i') = true := by decide
  intro c hc
  simpa [Option.any_eq_true] using hlast c hc

theorem endsClause_dot : endsClause (Char.ofNat 0x307) = false := by decide

/-- A connective does not end with the `i` of a dotted capital I and no clause ends with its dot, so what is between
them comes from a part of the text. -/
theorem exists_source (h : Clause (lowerEach text) start before gap connective stretch after) :
    ∃ raw, IsSource text (before ++ (gap ++ connective.toList)) stretch after raw := by
  obtain ⟨l, hl, hi⟩ := getLast?_connective connective h.first.mem
  have hlast : (before ++ (gap ++ connective.toList)).getLast? ≠ some 'i' := by
    rw [List.getLast?_append, List.getLast?_append, hl, Option.some_or, Option.some_or]
    exact fun he => hi (Option.some.inj he)
  have hparts : lowerEach text = before ++ (gap ++ connective.toList) ++ (stretch ++ after) := by
    rw [h.lower_eq]
    simp only [List.append_assoc]
  obtain ⟨a, r, rfl, ha, hr⟩ := exists_of_lowerEach_eq_append hparts fun hp => absurd hp hlast
  obtain ⟨raw, b, rfl, hraw, hb⟩ := exists_of_lowerEach_eq_append hr fun _ hdot => by
    have hends := h.ends _ hdot
    rw [endsClause_dot] at hends
    cases hends
  exact ⟨raw, a, b, rfl, ha, hraw, hb⟩

/-! ## Cutting the stretch out -/

/-- The byte of the lower case where the clause ends whose part from byte `i` on is the start of `tail`. -/
def Normalized.clauseEnd (n : Normalized) (i : Nat) (tail : List Char) : Nat :=
  match findChar? endsClause tail with
  | some j => i + j
  | none => byteLength n.lower

theorem valueFrom?_def (n : Normalized) (start : Nat) : n.valueFrom? start = (do
    let rest ← dropBytes? start n.lower
    let (at_, length) ← firstConnective? rest
    let tail ← dropBytes? (start + at_ + length) n.lower
    let raw ← sliceBytes? (n.toTrimmed (start + at_ + length))
      (n.toTrimmed (n.clauseEnd (start + at_ + length) tail)) n.trimmed
    if (trimValue raw).isEmpty ∨ maxValue < (trimValue raw).length then none else some (trimValue raw)) := rfl

namespace Clause

theorem firstConnective?_eq (h : Clause lower start before gap connective stretch after) :
    firstConnective? (gap ++ (connective.toList ++ (stretch ++ after))) =
      some (byteLength gap, byteLength connective.toList) :=
  firstConnective?_eq_some_iff.2 ⟨gap, connective, _, h.first, rfl, rfl⟩

theorem clauseEnd_eq {n : Normalized} (h : Clause n.lower start before gap connective stretch after) :
    n.clauseEnd (start + byteLength gap + byteLength connective.toList) (stretch ++ after) =
      byteLength (before ++ (gap ++ connective.toList) ++ stretch) := by
  have hwithin : ∀ c ∈ stretch, (!endsClause c) = true := fun c hc => by rw [h.within c hc, Bool.not_false]
  have hlength : byteLength (before ++ (gap ++ connective.toList) ++ stretch) =
      start + byteLength gap + byteLength connective.toList + byteLength stretch := by
    rw [h.start_eq]
    simp only [byteLength_append, Nat.add_assoc]
  unfold Normalized.clauseEnd
  rw [Text.findChar?_eq, List.dropWhile_append_of_pos hwithin, List.takeWhile_append_of_pos hwithin, hlength]
  cases after with
  | nil =>
    show byteLength n.lower = _
    rw [← hlength, h.lower_eq]
    simp only [List.append_nil, List.append_assoc]
  | cons c after =>
    have hc : endsClause c = true := h.ends c rfl
    simp [hc]

/-- Nothing that is cut out on the way is off a character or out of the text. -/
theorem slices (h : Clause (normalize text).lower start before gap connective stretch after)
    (hs : IsSource (normalize text).trimmed (before ++ (gap ++ connective.toList)) stretch after raw) :
    let n := normalize text
    let i := start + byteLength gap + byteLength connective.toList
    dropBytes? start n.lower = some (gap ++ (connective.toList ++ (stretch ++ after))) ∧
      dropBytes? i n.lower = some (stretch ++ after) ∧
      sliceBytes? (n.toTrimmed i) (n.toTrimmed (n.clauseEnd i (stretch ++ after))) n.trimmed = some raw := by
  obtain ⟨a, b, htrimmed, ha, hraw, -⟩ := hs
  have hi : start + byteLength gap + byteLength connective.toList = byteLength (lowerEach a) := by
    rw [ha, h.start_eq]
    simp only [byteLength_append, Nat.add_assoc]
  have hstop : before ++ (gap ++ connective.toList) ++ stretch = lowerEach (a ++ raw) := by
    rw [lowerEach_append, ha, hraw]
  refine ⟨?_, ?_, ?_⟩
  · rw [h.start_eq, h.lower_eq, dropBytes?_append]
  · have hlower : (normalize text).lower = lowerEach a ++ (stretch ++ after) := by
      rw [h.lower_eq, ha]
      simp only [List.append_assoc]
    rw [hi, hlower, dropBytes?_append]
  · have hsplit : trim text = a ++ raw ++ b := htrimmed.trans (List.append_assoc a raw b).symm
    rw [h.clauseEnd_eq, hi, hstop, toTrimmed_place htrimmed, toTrimmed_place hsplit, htrimmed, Text.sliceBytes?_append]

theorem valueFrom?_eq (h : Clause (normalize text).lower start before gap connective stretch after)
    (hs : IsSource (normalize text).trimmed (before ++ (gap ++ connective.toList)) stretch after raw) :
    (normalize text).valueFrom? start =
      if (trimValue raw).isEmpty ∨ maxValue < (trimValue raw).length then none else some (trimValue raw) := by
  obtain ⟨hrest, htail, hraw⟩ := h.slices hs
  rw [valueFrom?_def, hrest]
  simp only [Option.bind_eq_bind, Option.bind_some, h.firstConnective?_eq, htail, hraw]

end Clause

/-! ## Values -/

/-- What is left of a stretch of a request without the blanks and marks around it. -/
abbrev IsTrimmed (raw value : List Char) : Prop :=
  LeftOf (fun c => isBlank c || isOpeningMark c) (fun c => isBlank c || isClosingMark c) raw value

/-- The value that a text has from a byte of its lower case on. -/
def IsValue (text : List Char) (start : Nat) (value : List Char) : Prop :=
  ∃ before gap connective stretch after raw,
    Clause (lowerEach (trim text)) start before gap connective stretch after ∧
    IsSource (trim text) (before ++ (gap ++ connective.toList)) stretch after raw ∧
    IsTrimmed raw value ∧ 1 ≤ value.length ∧ value.length ≤ maxValue

theorem trimValue_eq_iff (hne : value ≠ []) : trimValue raw = value ↔ IsTrimmed raw value := Text.cut_eq_iff hne

theorem settled_of_endsClause {c : Char} (h : endsClause c = true) : Settled c := by
  have hall : (['，', ',', '。', '；', ';', '！', '!', '？', '?', '\n'].all fun c => decide (Settled c)) = true := by
    decide +kernel
  exact of_decide_eq_true (List.all_eq_true.1 hall c (List.contains_iff_mem.1 h))

theorem valueFrom?_eq_some_iff : (normalize text).valueFrom? start = some value ↔ IsValue text start value := by
  constructor
  · intro h
    have h' := h
    rw [valueFrom?_def] at h'
    simp only [Option.bind_eq_bind, Option.bind_eq_some_iff] at h'
    obtain ⟨rest, hrest, ⟨at_, length⟩, hfirst, -⟩ := h'
    obtain ⟨before, gap, connective, stretch, after, hc, -, -, -⟩ := exists_clause hrest hfirst
    obtain ⟨raw, hs⟩ := exists_source hc
    rw [hc.valueFrom?_eq hs] at h
    split_ifs at h with hv
    obtain ⟨hempty, hlong⟩ := not_or.1 hv
    obtain rfl := Option.some.inj h
    have hpos := List.length_pos_iff.2 fun he => hempty (List.isEmpty_iff.2 he)
    exact ⟨before, gap, connective, stretch, after, raw, hc, hs, Text.leftOf_cut _ _ _, hpos, Nat.not_lt.1 hlong⟩
  · rintro ⟨before, gap, connective, stretch, after, raw, hc, hs, htrimmed, hpos, hlong⟩
    have hne := List.length_pos_iff.1 hpos
    rw [hc.valueFrom?_eq hs, (trimValue_eq_iff hne).2 htrimmed, if_neg]
    rintro (hempty | hlong')
    · exact hne (List.isEmpty_iff.1 hempty)
    · omega

theorem IsValue.endsClause_eq_false (h : IsValue text start value) : ∀ c ∈ value, endsClause c = false := by
  obtain ⟨before, gap, connective, stretch, after, raw, hc, ⟨a, b, -, -, hraw, -⟩, hleft, -⟩ := h
  intro c hcv
  by_contra hends
  rw [Bool.not_eq_false] at hends
  -- A mark that ends a clause is its own lower case, so it would be in the stretch too.
  have hmem : c ∈ stretch := by
    rw [← hraw, lowerEach, List.mem_flatMap]
    have hsettled : lowerChar c = [c] := settled_of_endsClause hends
    exact ⟨c, hleft.infix.subset hcv, hsettled ▸ List.mem_singleton_self c⟩
  rw [hc.within c hmem] at hends
  cases hends

theorem IsValue.infix (h : IsValue text start value) : value <:+: trim text := by
  obtain ⟨before, gap, connective, stretch, after, raw, -, ⟨a, b, htrimmed, -, -, -⟩, hleft, -⟩ := h
  exact hleft.infix.trans ⟨a, b, by rw [htrimmed, List.append_assoc]⟩

/-- **A value is what the clause has after its first connective**, in the letters of the text and without the blanks and
marks around it.  It has no mark that ends a clause, and nothing that is cut out on the way is off a character or out of
the text. -/
theorem valueFrom?_spec (text : List Char) (start : Nat) :
    let n := normalize text
    (∀ value, n.valueFrom? start = some value ↔ IsValue text start value) ∧
    (∀ value, n.valueFrom? start = some value → (∀ c ∈ value, endsClause c = false) ∧ value <:+: trim text) ∧
    ∀ rest at_ length, dropBytes? start n.lower = some rest → firstConnective? rest = some (at_, length) →
      ∃ tail raw, dropBytes? (start + at_ + length) n.lower = some tail ∧
        sliceBytes? (n.toTrimmed (start + at_ + length)) (n.toTrimmed (n.clauseEnd (start + at_ + length) tail))
          n.trimmed = some raw := by
  refine ⟨fun value => valueFrom?_eq_some_iff, fun value h => ?_, fun rest at_ length hrest hfirst => ?_⟩
  · have hv := valueFrom?_eq_some_iff.1 h
    exact ⟨hv.endsClause_eq_false, hv.infix⟩
  · obtain ⟨before, gap, connective, stretch, after, hc, -, rfl, rfl⟩ := exists_clause hrest hfirst
    obtain ⟨raw, hs⟩ := exists_source hc
    exact ⟨stretch ++ after, raw, (hc.slices hs).2⟩

/-- A capital I with its dot is two characters in lower case, and the value behind it is found in its own letters. -/
theorem valueFrom?_spec_dotted :
    let text := "İ title to “Straße”, now".toList
    let n := normalize text
    dropBytes? 9 n.lower = some " to “straße”, now".toList ∧
      firstConnective? " to “straße”, now".toList = some (1, 2) ∧
      IsValue text 9 "Straße".toList ∧ (∀ c ∈ "Straße".toList, endsClause c = false) ∧ "Straße".toList <:+: trim text ∧
      ∃ tail raw, dropBytes? 12 n.lower = some tail ∧
        sliceBytes? (n.toTrimmed 12) (n.toTrimmed (n.clauseEnd 12 tail)) n.trimmed = some raw := by
  intro text n
  have hspec := valueFrom?_spec text 9
  have hvalue : n.valueFrom? 9 = some "Straße".toList := by decide +kernel
  have hrest : dropBytes? 9 n.lower = some " to “straße”, now".toList := by decide +kernel
  have hfirst : firstConnective? " to “straße”, now".toList = some (1, 2) := by decide +kernel
  exact ⟨hrest, hfirst, (hspec.1 _).1 hvalue, (hspec.2.1 _ hvalue).1, (hspec.2.1 _ hvalue).2,
    hspec.2.2 _ 1 2 hrest hfirst⟩

end SiteEdit.Request
