import SiteEdit.Text.Find
import Mathlib.Data.List.Infix
/-!
# Places in a text

A place is given by the bytes before it.  Of two places of a text the earlier one has fewer bytes and fewer characters
before it, so either number tells it.  Cutting a text at a place gives what stands there, and a search finds the first
place at which its test holds (`search_eq_some_iff`).
-/
namespace SiteEdit.Text

variable {a b c d text rest : List Char} {n i : Nat}

/-! ## Two places of one text -/

theorem byteLength_lt_iff (h : a ++ b = c ++ d) : byteLength a < byteLength c ↔ a.length < c.length := by
  rcases List.append_eq_append_iff.1 h with ⟨e, rfl, -⟩ | ⟨e, rfl, -⟩
  · rw [byteLength_append, List.length_append]
    cases e with
    | nil => simp [byteLength]
    | cons x e =>
      have hpos := x.utf8Size_pos
      rw [byteLength, List.length_cons]
      omega
  · rw [byteLength_append, List.length_append]
    omega

theorem byteLength_eq_iff (h : a ++ b = c ++ d) : byteLength a = byteLength c ↔ a.length = c.length := by
  have hlt := byteLength_lt_iff h
  have hgt := byteLength_lt_iff h.symm
  omega

theorem byteLength_le_iff (h : a ++ b = c ++ d) : byteLength a ≤ byteLength c ↔ a.length ≤ c.length := by
  have hgt := byteLength_lt_iff h.symm
  omega

/-- A text of characters of one byte has as many bytes as characters. -/
theorem byteLength_eq_length : ∀ {cs : List Char}, (∀ c ∈ cs, c.utf8Size = 1) → byteLength cs = cs.length
  | [], _ => rfl
  | c :: cs, h => by
    rw [byteLength, h c List.mem_cons_self, byteLength_eq_length fun d hd => h d (List.mem_cons_of_mem _ hd),
      List.length_cons, Nat.add_comm]

/-! ## Cutting -/

theorem dropBytes?_zero (cs : List Char) : dropBytes? 0 cs = some cs := by rw [dropBytes?]

theorem takeBytes?_zero (cs : List Char) : takeBytes? 0 cs = some [] := by rw [takeBytes?]

theorem dropBytes?_cons (c : Char) (n : Nat) (cs : List Char) :
    dropBytes? (c.utf8Size + n) (c :: cs) = dropBytes? n cs := by
  have hpos := c.utf8Size_pos
  obtain ⟨m, hm⟩ : ∃ m, c.utf8Size + n = m + 1 := ⟨c.utf8Size + n - 1, by omega⟩
  rw [hm, dropBytes?, if_pos (by omega), show m + 1 - c.utf8Size = n by omega]

theorem takeBytes?_cons (c : Char) (n : Nat) (cs : List Char) :
    takeBytes? (c.utf8Size + n) (c :: cs) = (takeBytes? n cs).map (c :: ·) := by
  have hpos := c.utf8Size_pos
  obtain ⟨m, hm⟩ : ∃ m, c.utf8Size + n = m + 1 := ⟨c.utf8Size + n - 1, by omega⟩
  rw [hm, takeBytes?, if_pos (by omega), show m + 1 - c.utf8Size = n by omega]

theorem dropBytes?_append (b : List Char) : ∀ a : List Char, dropBytes? (byteLength a) (a ++ b) = some b
  | [] => dropBytes?_zero b
  | c :: a => by rw [byteLength, List.cons_append, dropBytes?_cons, dropBytes?_append b a]

theorem takeBytes?_append (b : List Char) : ∀ a : List Char, takeBytes? (byteLength a) (a ++ b) = some a
  | [] => takeBytes?_zero b
  | c :: a => by rw [byteLength, List.cons_append, takeBytes?_cons, takeBytes?_append b a, Option.map_some]

theorem sliceBytes?_append (a b c : List Char) :
    sliceBytes? (byteLength a) (byteLength (a ++ b)) (a ++ (b ++ c)) = some b := by
  unfold sliceBytes?
  rw [byteLength_append, if_pos (Nat.le_add_right _ _), dropBytes?_append, Option.bind_some, Nat.add_sub_cancel_left,
    takeBytes?_append]

/-- A text can be cut where one of its characters starts, and at its end. -/
theorem exists_of_dropBytes? : ∀ {text : List Char} {n : Nat}, dropBytes? n text = some rest →
    ∃ before, text = before ++ rest ∧ byteLength before = n
  | text, 0, h => by
    rw [dropBytes?_zero] at h
    exact ⟨[], Option.some.inj h, rfl⟩
  | [], n + 1, h => by
    rw [dropBytes?] at h
    cases h
  | c :: text, n + 1, h => by
    rw [dropBytes?] at h
    split_ifs at h with hsize
    obtain ⟨before, rfl, hlen⟩ := exists_of_dropBytes? h
    exact ⟨c :: before, rfl, by rw [byteLength]; omega⟩

theorem exists_of_takeBytes? : ∀ {text a : List Char} {n : Nat}, takeBytes? n text = some a →
    ∃ after, text = a ++ after ∧ byteLength a = n
  | text, _, 0, h => by
    rw [takeBytes?_zero] at h
    obtain rfl := Option.some.inj h
    exact ⟨text, rfl, rfl⟩
  | [], _, n + 1, h => by
    rw [takeBytes?] at h
    cases h
  | c :: text, _, n + 1, h => by
    rw [takeBytes?] at h
    split_ifs at h with hsize
    obtain ⟨a, ha, rfl⟩ := Option.map_eq_some_iff.1 h
    obtain ⟨after, rfl, hlen⟩ := exists_of_takeBytes? ha
    exact ⟨after, rfl, by rw [byteLength]; omega⟩

theorem exists_of_sliceBytes? {start stop : Nat} (h : sliceBytes? start stop text = some b) :
    ∃ a c, text = a ++ (b ++ c) ∧ byteLength a = start ∧ byteLength (a ++ b) = stop := by
  unfold sliceBytes? at h
  split_ifs at h with hle
  obtain ⟨rest, hdrop, htake⟩ := Option.bind_eq_some_iff.1 h
  obtain ⟨a, rfl, ha⟩ := exists_of_dropBytes? hdrop
  obtain ⟨c, rfl, hb⟩ := exists_of_takeBytes? htake
  exact ⟨a, c, rfl, ha, by rw [byteLength_append]; omega⟩

/-! ## Searching -/

/-- A character that is searched for is found after those that are none. -/
theorem findChar?_eq (p : Char → Bool) : ∀ cs : List Char,
    findChar? p cs = if cs.dropWhile (!p ·) = [] then none else some (byteLength (cs.takeWhile (!p ·)))
  | [] => rfl
  | c :: cs => by
    rw [findChar?, List.dropWhile_cons, List.takeWhile_cons]
    cases hc : p c with
    | true => simp [byteLength]
    | false =>
      rw [if_neg Bool.false_ne_true, findChar?_eq p cs]
      by_cases hnone : cs.dropWhile (!p ·) = []
      · simp [hnone]
      · simp [hnone, byteLength]

/-- The first place of a text at which a test holds of what is before and after it. -/
structure FirstPlace (test : List Char → List Char → Prop) (text before rest : List Char) : Prop where
  text_eq : text = before ++ rest
  holds : test before rest
  first : ∀ b r, text = b ++ r → test b r → before.length ≤ b.length

namespace FirstPlace

variable {test : List Char → List Char → Prop} {before : List Char}

theorem iff_of_holds (h : test [] text) : FirstPlace test text before rest ↔ before = [] ∧ rest = text := by
  constructor
  · intro hf
    obtain rfl : before = [] := List.length_eq_zero_iff.1 (Nat.le_zero.1 (hf.first [] text rfl h))
    exact ⟨rfl, hf.text_eq.symm⟩
  · rintro ⟨rfl, rfl⟩
    exact ⟨rfl, h, fun _ _ _ _ => Nat.zero_le _⟩

theorem cons_iff {x : Char} {cs : List Char} (h : ¬ test [] (x :: cs)) :
    FirstPlace test (x :: cs) before rest ↔
      ∃ b, before = x :: b ∧ FirstPlace (fun b r => test (x :: b) r) cs b rest := by
  constructor
  · rintro ⟨heq, holds, first⟩
    cases before with
    | nil =>
      obtain rfl := heq
      exact absurd holds h
    | cons y b =>
      obtain ⟨rfl, htail⟩ := List.cons.inj heq
      refine ⟨b, rfl, htail, holds, fun b' r' heq' holds' => ?_⟩
      exact Nat.le_of_succ_le_succ (first (x :: b') r' (by rw [heq']; rfl) holds')
  · rintro ⟨b, rfl, heq, holds, first⟩
    refine ⟨by rw [heq]; rfl, holds, fun b' r' heq' holds' => ?_⟩
    cases b' with
    | nil =>
      obtain rfl := heq'
      exact absurd holds' h
    | cons y b' =>
      obtain ⟨rfl, htail⟩ := List.cons.inj heq'
      exact Nat.succ_le_succ (first b' r' htail holds')

/-- Where a test holds of some place, it holds of a first one. -/
theorem exists_of_holds {test : List Char → List Char → Prop} : ∀ {b text : List Char}, text = b ++ rest → test b rest →
    ∃ before r, FirstPlace test text before r ∧ before.length ≤ b.length
  | [], text, htext, h => ⟨[], text, (iff_of_holds (htext ▸ h)).2 ⟨rfl, rfl⟩, Nat.le_refl _⟩
  | x :: b, _, rfl, h => by
    by_cases hnow : test [] (x :: (b ++ rest))
    · exact ⟨[], _, (iff_of_holds hnow).2 ⟨rfl, rfl⟩, Nat.zero_le _⟩
    · obtain ⟨before, r, hf, hle⟩ :
          ∃ before r, FirstPlace (fun b r => test (x :: b) r) (b ++ rest) before r ∧ before.length ≤ b.length :=
        exists_of_holds rfl h
      exact ⟨x :: before, r, (cons_iff hnow).2 ⟨before, rfl, hf⟩, Nat.succ_le_succ hle⟩

end FirstPlace

/-- A place passes the test of a search, which is about the character before it and the rest of the text; `o` is the
character before the text, and the end is no such place. -/
def Passes (test : Option Char → List Char → Bool) (o : Option Char) (before rest : List Char) : Prop :=
  rest ≠ [] ∧ test (before.getLast?.or o) rest = true

theorem passes_nil {test : Option Char → List Char → Bool} {o : Option Char} {x : Char} {cs : List Char} :
    Passes test o [] (x :: cs) ↔ test o (x :: cs) = true := by simp [Passes]

theorem passes_cons {test : Option Char → List Char → Bool} {o : Option Char} (x : Char) :
    (fun b r => Passes test o (x :: b) r) = Passes test (some x) := by
  funext b r
  cases h : b.getLast? <;> simp [Passes, List.getLast?_cons, h]

/-- **A search from left to right finds the first place that passes its test.** -/
theorem search_eq_some_iff (test : Option Char → List Char → Bool) (search : Option Char → List Char → Option Nat)
    (hnil : ∀ o, search o [] = none)
    (hcons : ∀ o c cs, search o (c :: cs) =
      if test o (c :: cs) then some 0 else (search (some c) cs).map (c.utf8Size + ·)) :
    ∀ {text : List Char} {o : Option Char} {i : Nat}, search o text = some i ↔
      ∃ before rest, FirstPlace (Passes test o) text before rest ∧ i = byteLength before
  | [], o, i => by
    rw [hnil]
    refine iff_of_false nofun ?_
    rintro ⟨before, rest, ⟨heq, ⟨hne, -⟩, -⟩, -⟩
    exact hne (List.append_eq_nil_iff.1 heq.symm).2
  | c :: cs, o, i => by
    rw [hcons]
    -- A character that is passed is the one before the rest, so the induction is for every `o`.
    cases ht : test o (c :: cs) with
    | true =>
      have hplace : ∀ before rest, FirstPlace (Passes test o) (c :: cs) before rest ↔ before = [] ∧ rest = c :: cs :=
        fun _ _ => FirstPlace.iff_of_holds (passes_nil.2 ht)
      simp only [if_true, Option.some.injEq, hplace]
      constructor
      · rintro rfl
        exact ⟨[], _, ⟨rfl, rfl⟩, rfl⟩
      · rintro ⟨before, rest, ⟨rfl, -⟩, rfl⟩
        rfl
    | false =>
      have hplace : ∀ before rest, FirstPlace (Passes test o) (c :: cs) before rest ↔
          ∃ b, before = c :: b ∧ FirstPlace (Passes test (some c)) cs b rest := fun _ _ => by
        rw [FirstPlace.cons_iff (passes_nil.not.2 (Bool.eq_false_iff.1 ht)), passes_cons]
      simp only [Bool.false_eq_true, if_false, Option.map_eq_some_iff, search_eq_some_iff test search hnil hcons,
        hplace]
      constructor
      · rintro ⟨j, ⟨b, rest, hf, rfl⟩, rfl⟩
        exact ⟨c :: b, rest, ⟨b, rfl, hf⟩, rfl⟩
      · rintro ⟨before, rest, ⟨b, rfl, hf⟩, rfl⟩
        exact ⟨_, ⟨b, rest, hf, rfl⟩, rfl⟩

end SiteEdit.Text
