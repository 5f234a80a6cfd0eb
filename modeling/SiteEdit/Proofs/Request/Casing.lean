import SiteEdit.Proofs.Request.Colours
import SiteEdit.Proofs.Request.Values
import SiteEdit.Request.Intent
/-!
# Requests in two spellings

A request is understood in lower case and without the blanks around it.  So the case of its letters of ASCII and these
blanks decide nothing but the letters of the texts that are taken from it (`parse?_spelling`).
-/
namespace SiteEdit.Request

open Text (Twin lefts rights PartOf Padded isBlank byteLength dropBytes? sliceBytes?)

variable {xs : List Twin} {a b : List Char} {n m : Normalized}

/-! ## Two results -/

section

variable {α β γ δ : Type} {R : α → β → Prop} {S : γ → δ → Prop}

theorem rel_bind {o : Option α} {p : Option β} {f : α → Option γ} {g : β → Option δ} (h : Option.Rel R o p)
    (hf : ∀ a b, R a b → Option.Rel S (f a) (g b)) : Option.Rel S (o.bind f) (p.bind g) := by
  cases h with
  | none => exact .none
  | some hab => exact hf _ _ hab

theorem rel_bind_self {o : Option α} {f : α → Option γ} {g : α → Option δ} (hf : ∀ a, Option.Rel S (f a) (g a)) :
    Option.Rel S (o.bind f) (o.bind g) := by
  cases o with
  | none => exact .none
  | some a => exact hf a

end

/-! ## Values -/

/-- Two normalized requests have one lower case, and their texts are one part of a text in its two spellings. -/
structure Alike (xs : List Twin) (n m : Normalized) : Prop where
  trimmed : PartOf xs n.trimmed m.trimmed
  lower : n.lower = m.lower
  offsets : n.offsets = m.offsets

theorem offsetsFrom_lefts : ∀ (ys : List Twin) (s t : Nat), offsetsFrom s t (lefts ys) = offsetsFrom s t (rights ys)
  | [], _, _ => rfl
  | y :: ys, s, t => by
    show offsetsOfChar s t (Text.lowerChar y.left) ++ _ = offsetsOfChar s t (Text.lowerChar y.right) ++ _
    rw [y.lowerChar_eq, y.utf8Size_eq]
    exact congrArg _ (offsetsFrom_lefts ys _ _)

theorem alike_normalize (ha : Padded (lefts xs) a) (hb : Padded (rights xs) b) :
    Alike xs (normalize a) (normalize b) := by
  have htrim : PartOf xs (Text.trim (lefts xs)) (Text.trim (rights xs)) :=
    PartOf.cut Twin.isBlank_eq Twin.isBlank_eq ⟨xs, List.infix_refl xs, rfl, rfl⟩
  rw [← Text.trim_of_padded ha, ← Text.trim_of_padded hb] at htrim
  obtain ⟨ys, hys, hl, hr⟩ := htrim
  refine ⟨⟨ys, hys, hl, hr⟩, ?_, ?_⟩
  · show Text.lowerEach (Text.trim a) = Text.lowerEach (Text.trim b)
    rw [hl, hr, Text.lowerEach_lefts]
  · show offsetsFrom 0 0 (Text.trim a) = offsetsFrom 0 0 (Text.trim b)
    rw [hl, hr, offsetsFrom_lefts]

theorem isOpening_eq (x : Twin) :
    (isBlank x.left || isOpeningMark x.left) = (isBlank x.right || isOpeningMark x.right) :=
  x.congr (f := fun c => isBlank c || isOpeningMark c) (by decide +kernel)

theorem isClosing_eq (x : Twin) :
    (isBlank x.left || isClosingMark x.left) = (isBlank x.right || isClosingMark x.right) :=
  x.congr (f := fun c => isBlank c || isClosingMark c) (by decide +kernel)

theorem partOf_trimValue (h : PartOf xs a b) : PartOf xs (trimValue a) (trimValue b) := h.cut isOpening_eq isClosing_eq

namespace Alike

theorem toTrimmed_eq (h : Alike xs n m) (i : Nat) : n.toTrimmed i = m.toTrimmed i := by
  obtain ⟨ys, -, hn, hm⟩ := h.trimmed
  unfold Normalized.toTrimmed
  rw [h.lower, h.offsets, hn, hm, Text.byteLength_lefts]

theorem rel_valueFrom? (h : Alike xs n m) (start : Nat) :
    Option.Rel (PartOf xs) (n.valueFrom? start) (m.valueFrom? start) := by
  have hend : ∀ i tail, n.clauseEnd i tail = m.clauseEnd i tail := fun i tail => by
    unfold Normalized.clauseEnd
    rw [h.lower]
  rw [valueFrom?_def, valueFrom?_def, h.lower]
  simp only [hend, h.toTrimmed_eq, Option.bind_eq_bind]
  -- Only the last cut is of the texts themselves.
  refine rel_bind_self fun rest => rel_bind_self fun found => rel_bind_self fun tail =>
    rel_bind (Text.rel_sliceBytes? _ _ h.trimmed) fun a b hraw => ?_
  obtain ⟨ys, hys, ha, hb⟩ := partOf_trimValue hraw
  rw [ha, hb, lefts, rights, List.isEmpty_map, List.isEmpty_map, List.length_map, List.length_map]
  split_ifs with hbounds
  · exact .none
  · exact .some ⟨ys, hys, rfl, rfl⟩

end Alike

/-! ## Changes -/

/-- Two changes are the same, but for the spelling of a new text. -/
inductive SameChange (xs : List Twin) : Change → Change → Prop where
  | setText (selector : String) {a b : List Char} (h : PartOf xs a b) :
    SameChange xs (.setText selector (String.ofList a)) (.setText selector (String.ofList b))
  | setStyleVar (selector var value : String) :
    SameChange xs (.setStyleVar selector var value) (.setStyleVar selector var value)
  | toggle (selector : String) (visible : Bool) : SameChange xs (.toggle selector visible) (.toggle selector visible)

theorem Alike.rel_change? (h : Alike xs n m) (rule : Rule) :
    Option.Rel (SameChange xs) (rule.change? n) (rule.change? m) := by
  have hcontains : ∀ needles, n.containsAny needles = m.containsAny needles := fun needles => by
    unfold Normalized.containsAny
    rw [h.lower]
  have htrigger : ∀ triggers, n.findTrigger? triggers = m.findTrigger? triggers := fun triggers => by
    unfold Normalized.findTrigger?
    rw [h.lower]
  cases rule with
  | text name triggers suppressedBy selector =>
    simp only [Rule.change?, hcontains, htrigger, Option.bind_eq_bind]
    split_ifs with hsuppressed
    · exact .none
    · exact rel_bind_self fun place => rel_bind (h.rel_valueFrom? place.2) fun a b hab => .some (.setText selector hab)
  | themeColour =>
    simp only [Rule.change?, htrigger, Option.bind_eq_bind]
    refine rel_bind_self fun place => rel_bind (h.rel_valueFrom? place.2) fun a b hab => ?_
    rw [resolveColour?_eq hab]
    exact rel_bind_self fun colour => .some (.setStyleVar _ _ colour)
  | banner =>
    simp only [Rule.change?, hcontains, htrigger, Option.bind_eq_bind]
    refine rel_bind_self fun _ => ?_
    cases m.containsAny hideWords <;> cases m.containsAny showWords
    · exact .none
    · exact .some (.toggle _ true)
    · exact .some (.toggle _ false)
    · exact .none

/-- Two documents are the same, but for the spelling of new texts. -/
structure SameDocument (xs : List Twin) (d e : Document) : Prop where
  version : d.version = e.version
  changes : List.Forall₂ (SameChange xs) d.changes e.changes

theorem Alike.rel_changes (h : Alike xs n m) : ∀ rules : List Rule,
    List.Forall₂ (SameChange xs) (rules.filterMap (Rule.change? n)) (rules.filterMap (Rule.change? m))
  | [] => .nil
  | rule :: rules => by
    rw [List.filterMap_cons, List.filterMap_cons]
    have hrest := h.rel_changes rules
    have hrule := h.rel_change? rule
    revert hrule
    generalize rule.change? n = c
    generalize rule.change? m = d
    rintro (hc | _)
    · exact .cons hc hrest
    · exact hrest

/-- **The spelling of a request and the blanks around it decide only the spelling of the texts taken from it.** -/
theorem parse?_spelling {text text' : String} (h : Padded (lefts xs) text.toList)
    (h' : Padded (rights xs) text'.toList) :
    Option.Rel (SameDocument xs) (parse? text) (parse? text') := by
  have hn := alike_normalize h h'
  have hchanges := hn.rel_changes Rule.builtin
  unfold parse? parseWith?
  dsimp only
  rw [hn.lower]
  cases hempty : (normalize text'.toList).lower.isEmpty with
  | true => exact .none
  | false =>
    simp only [Bool.false_eq_true, if_false]
    revert hchanges
    generalize Rule.builtin.filterMap (Rule.change? (normalize text.toList)) = cs
    generalize Rule.builtin.filterMap (Rule.change? (normalize text'.toList)) = ds
    rintro (_ | ⟨hc, hcs⟩)
    · exact .none
    · exact .some ⟨rfl, .cons hc hcs⟩

/-- The second time in the other case and between other blanks. -/
theorem parse?_spelling_title :
    let xs : List Twin := [⟨'T', 't', rfl⟩, ⟨'i', 'I', rfl⟩, ⟨'t', 'T', rfl⟩, ⟨'l', 'L', rfl⟩, ⟨'e', 'E', rfl⟩,
      ⟨' ', ' ', rfl⟩, ⟨'t', 'T', rfl⟩, ⟨'o', 'O', rfl⟩, ⟨' ', ' ', rfl⟩, ⟨'K', 'k', rfl⟩,
      ⟨'İ', 'İ', rfl⟩, ⟨'!', '!', rfl⟩]
    Padded (lefts xs) "\t Title to Kİ!".toList ∧ Padded (rights xs) "tITLE TO kİ!\n".toList ∧
      parse? "\t Title to Kİ!" = some (Document.ofChanges [.setText "#main-title" "Kİ"]) ∧
      Option.Rel (SameDocument xs) (parse? "\t Title to Kİ!") (parse? "tITLE TO kİ!\n") := by
  intro xs
  have h : Padded (lefts xs) "\t Title to Kİ!".toList :=
    ⟨['\t', ' '], [], by decide +kernel, List.all_eq_true.1 (by decide), List.all_eq_true.1 rfl⟩
  have h' : Padded (rights xs) "tITLE TO kİ!\n".toList :=
    ⟨[], ['\n'], by decide +kernel, List.all_eq_true.1 rfl, List.all_eq_true.1 (by decide)⟩
  exact ⟨h, h', by decide +kernel, parse?_spelling h h'⟩

end SiteEdit.Request
