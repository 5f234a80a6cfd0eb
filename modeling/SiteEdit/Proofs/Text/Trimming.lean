import SiteEdit.Text.Blank
import Mathlib.Data.List.DropRight
/-!
# Cutting characters off the ends of a text

What is left of a text when characters are cut off its front and its end is the part between them that starts and ends
with characters that stay (`cut_eq_iff`).
-/
namespace SiteEdit.Text

variable {p q : Char → Bool} {raw value front back : List Char}

theorem dropRightWhile_eq_rdropWhile (p : Char → Bool) (cs : List Char) : dropRightWhile p cs = cs.rdropWhile p := rfl

/-- What is left of a text when the characters with `p` are cut off its front and those with `q` off its end. -/
def cut (p q : Char → Bool) (cs : List Char) : List Char := dropRightWhile q (cs.dropWhile p)

theorem trim_eq_cut (cs : List Char) : trim cs = cut isBlank isBlank cs := rfl

/-- A part of a text that starts and ends with characters that stay, between characters that go. -/
structure LeftOf (p q : Char → Bool) (raw value : List Char) : Prop where
  parts : ∃ front back, raw = front ++ value ++ back ∧ (∀ c ∈ front, p c = true) ∧ ∀ c ∈ back, q c = true
  head : ∀ c ∈ value.head?, p c = false
  last : ∀ c ∈ value.getLast?, q c = false

theorem LeftOf.infix (h : LeftOf p q raw value) : value <:+: raw := by
  obtain ⟨⟨front, back, rfl, -, -⟩, -, -⟩ := h
  exact ⟨front, back, rfl⟩

theorem not_of_mem_head?_dropWhile {c : Char} {cs : List Char} (h : c ∈ (cs.dropWhile p).head?) : p c = false := by
  have hhead := List.head?_dropWhile_not p cs
  rw [Option.mem_def] at h
  rwa [h] at hhead

theorem leftOf_cut (p q : Char → Bool) (raw : List Char) : LeftOf p q raw (cut p q raw) where
  parts := by
    refine ⟨raw.takeWhile p, (raw.dropWhile p).rtakeWhile q, ?_, fun c hc => List.mem_takeWhile_imp hc,
      fun c hc => List.mem_rtakeWhile_imp hc⟩
    rw [List.append_assoc, cut, dropRightWhile_eq_rdropWhile, List.rdropWhile_append_rtakeWhile,
      List.takeWhile_append_dropWhile]
  head := fun c hc => by
    -- What is left is a prefix of what the front is cut off from, so they have one head.
    obtain ⟨back, hback⟩ := List.rdropWhile_prefix (p := q) (l := raw.dropWhile p)
    have hhead : c ∈ (raw.dropWhile p).head? := by
      rw [← hback, List.head?_append, show (raw.dropWhile p).rdropWhile q = cut p q raw from rfl, Option.mem_def.1 hc]
      rfl
    exact not_of_mem_head?_dropWhile hhead
  last := fun c hc => by
    rw [cut, dropRightWhile, List.getLast?_reverse] at hc
    exact not_of_mem_head?_dropWhile hc

/-- Of a text of which something is left there is only one such part. -/
theorem cut_eq_iff (hne : value ≠ []) : cut p q raw = value ↔ LeftOf p q raw value := by
  refine ⟨fun h => h ▸ leftOf_cut p q raw, ?_⟩
  rintro ⟨⟨front, back, rfl, hfront, hback⟩, hhead, hlast⟩
  have hvalue : (value ++ back).dropWhile p = value ++ back := by
    obtain ⟨c, cs, rfl⟩ := List.exists_cons_of_ne_nil hne
    rw [List.cons_append, List.dropWhile_cons, hhead c rfl, if_neg Bool.false_ne_true]
  have hreverse : value.reverse.dropWhile q = value.reverse := by
    cases hr : value.reverse with
    | nil => rfl
    | cons c cs =>
      have hc : c ∈ value.getLast? := by rw [← List.head?_reverse, hr]; rfl
      rw [List.dropWhile_cons, hlast c hc, if_neg Bool.false_ne_true]
  rw [cut, List.append_assoc, List.dropWhile_append_of_pos hfront, hvalue, dropRightWhile, List.reverse_append,
    List.dropWhile_append_of_pos fun c hc => hback c (List.mem_reverse.1 hc), hreverse, List.reverse_reverse]

/-! ## Blanks around a text -/

theorem trim_eq_self {cs : List Char} (h : ∀ c ∈ cs, isBlank c = false) : trim cs = cs := by
  cases cs with
  | nil => rfl
  | cons c cs =>
    refine (cut_eq_iff (List.cons_ne_nil c cs)).2 ⟨⟨[], [], ?_, nofun, nofun⟩, fun d hd => ?_, fun d hd => ?_⟩
    · rw [List.nil_append, List.append_nil]
    · exact h d (List.mem_of_mem_head? hd)
    · exact h d (List.mem_of_getLast? hd)

/-- A text with blanks around it. -/
def Padded (core text : List Char) : Prop :=
  ∃ l r, text = l ++ core ++ r ∧ (∀ c ∈ l, isBlank c = true) ∧ ∀ c ∈ r, isBlank c = true

theorem trim_of_padded {core text : List Char} (h : Padded core text) : trim text = trim core := by
  obtain ⟨l, r, rfl, hl, hr⟩ := h
  rw [trim, trim, List.append_assoc, List.dropWhile_append_of_pos hl, List.dropWhile_append]
  split_ifs with hblank
  · rw [List.isEmpty_iff.1 hblank, List.dropWhile_eq_nil_iff.2 hr]
  · rw [dropRightWhile, List.reverse_append, List.dropWhile_append_of_pos fun c hc => hr c (List.mem_reverse.1 hc)]
    rfl

end SiteEdit.Text
