import SiteEdit.Proofs.Text.Places
import SiteEdit.Request.Normalized
/-!
# From the lower case back to the text

Every byte of the lower case belongs to a character of it, which comes from a character of the text.  The offsets of a
normalized text give the byte where that one starts (`toTrimmed_within`).  A place of the lower case comes from a place
of the text unless it parts the two characters of a dotted capital I (`exists_of_lowerEach_eq_append`).
-/
namespace SiteEdit.Request

open Text (byteLength byteLength_append lowerChar lowerEach)

variable {text a b p q : List Char} {c : Char} {i : Nat}

/-! ## Lower case character by character -/

theorem lowerEach_append (a b : List Char) : lowerEach (a ++ b) = lowerEach a ++ lowerEach b := List.flatMap_append

theorem lowerEach_cons (c : Char) (cs : List Char) : lowerEach (c :: cs) = lowerChar c ++ lowerEach cs :=
  List.flatMap_cons

theorem lowerChar_cases (c : Char) :
    (∃ d, lowerChar c = [d]) ∨ c = 'İ' ∧ lowerChar c = ['i', Char.ofNat 0x307] := by
  unfold lowerChar
  split_ifs with hascii hdotted
  · exact .inl ⟨_, rfl⟩
  · exact .inr ⟨hdotted, rfl⟩
  · exact .inl ⟨_, rfl⟩

theorem lowerChar_ne_nil (c : Char) : lowerChar c ≠ [] := by
  rcases lowerChar_cases c with ⟨d, hd⟩ | ⟨-, hd⟩ <;> simp [hd]

/-- A place of the lower case that does not part the `i` and the dot of a dotted capital I is one of the text. -/
theorem exists_of_lowerEach_eq_append :
    ∀ {text p : List Char}, lowerEach text = p ++ q →
      (p.getLast? = some 'i' → q.head? ≠ some (Char.ofNat 0x307)) →
      ∃ a b, text = a ++ b ∧ lowerEach a = p ∧ lowerEach b = q
  | text, [], h, _ => ⟨[], text, rfl, rfl, h⟩
  | c :: text, x :: p, h, hdot => by
    have hlast : ∀ {p' : List Char}, p' <:+ x :: p → p'.getLast? = some 'i' → q.head? ≠ some (Char.ofNat 0x307) := by
      rintro p' ⟨r, hr⟩ hi
      exact hdot (by rw [← hr, List.getLast?_append, hi, Option.some_or])
    rw [lowerEach_cons] at h
    rcases lowerChar_cases c with ⟨d, hd⟩ | ⟨-, hd⟩
    · rw [hd, List.singleton_append, List.cons_append] at h
      obtain ⟨rfl, htext⟩ := List.cons.inj h
      obtain ⟨a, b, rfl, rfl, rfl⟩ := exists_of_lowerEach_eq_append htext (hlast (List.suffix_cons d p))
      exact ⟨c :: a, b, rfl, by rw [lowerEach_cons, hd, List.singleton_append], rfl⟩
    · rw [hd, List.cons_append, List.singleton_append, List.cons_append] at h
      obtain ⟨rfl, htext⟩ := List.cons.inj h
      cases p with
      | nil =>
        -- The place would be between the two characters.
        rw [List.nil_append] at htext
        exact absurd (by rw [← htext, List.head?_cons]) (hdot rfl)
      | cons y p =>
        rw [List.cons_append] at htext
        obtain ⟨rfl, htail⟩ := List.cons.inj htext
        obtain ⟨a, b, rfl, rfl, rfl⟩ := exists_of_lowerEach_eq_append htail (hlast ⟨['i', Char.ofNat 0x307], rfl⟩)
        exact ⟨c :: a, b, rfl, by rw [lowerEach_cons, hd, List.cons_append, List.singleton_append], rfl⟩

/-! ## Offsets -/

theorem offsetsFrom_append (b : List Char) : ∀ (a : List Char) (s t : Nat),
    offsetsFrom s t (a ++ b) = offsetsFrom s t a ++ offsetsFrom (s + byteLength a) (t + byteLength (lowerEach a)) b
  | [], s, t => rfl
  | c :: a, s, t => by
    rw [List.cons_append, offsetsFrom, offsetsFrom, offsetsFrom_append b a, List.append_assoc, lowerEach_cons,
      byteLength_append, byteLength, Nat.add_assoc, Nat.add_assoc]

theorem mem_offsetsOfChar {s : Nat} {o : Nat × Nat} : ∀ {t : Nat} {ls : List Char}, o ∈ offsetsOfChar s t ls →
    t ≤ o.1 ∧ o.1 < t + byteLength ls ∧ o.2 = s
  | t, l :: ls, h => by
    have hpos := l.utf8Size_pos
    rw [offsetsOfChar, List.mem_cons] at h
    rw [byteLength]
    rcases h with rfl | h
    · exact ⟨Nat.le_refl _, by omega, rfl⟩
    · obtain ⟨hle, hlt, hs⟩ := mem_offsetsOfChar h
      exact ⟨by omega, by omega, hs⟩

theorem mem_offsetsFrom {o : Nat × Nat} : ∀ {s t : Nat} {cs : List Char}, o ∈ offsetsFrom s t cs →
    t ≤ o.1 ∧ o.1 < t + byteLength (lowerEach cs)
  | s, t, c :: cs, h => by
    rw [offsetsFrom, List.mem_append] at h
    rw [lowerEach_cons, byteLength_append]
    rcases h with h | h
    · obtain ⟨hle, hlt, -⟩ := mem_offsetsOfChar h
      exact ⟨hle, by omega⟩
    · obtain ⟨hle, hlt⟩ := mem_offsetsFrom h
      exact ⟨by omega, by omega⟩

/-- The last offset up to a byte in the lower case of a character is one of that character. -/
theorem getLast?_takeWhile_offsetsFrom {s t : Nat} (hle : t + byteLength (lowerEach a) ≤ i)
    (hlt : i < t + byteLength (lowerEach a) + byteLength (lowerChar c)) :
    ∃ o, ((offsetsFrom s t (a ++ c :: b)).takeWhile fun o => o.1 ≤ i).getLast? = some o ∧ o.2 = s + byteLength a := by
  have hbefore : ∀ o ∈ offsetsFrom s t a, decide (o.1 ≤ i) = true := fun o ho =>
    decide_eq_true ((mem_offsetsFrom ho).2.le.trans hle)
  rw [offsetsFrom_append, List.takeWhile_append_of_pos hbefore, offsetsFrom]
  -- At least the first offset of the character is passed, and none of what comes after it.
  generalize hown : offsetsOfChar (s + byteLength a) (t + byteLength (lowerEach a)) (lowerChar c) = own
  generalize hrest : offsetsFrom (s + byteLength a + c.utf8Size) _ b = rest
  obtain ⟨l, ls, hl⟩ := List.exists_cons_of_ne_nil (lowerChar_ne_nil c)
  have hne : (own ++ rest).takeWhile (fun o => o.1 ≤ i) ≠ [] := by
    rw [← hown, hl, offsetsOfChar, List.cons_append, List.takeWhile_cons, if_pos (decide_eq_true hle)]
    exact List.cons_ne_nil _ _
  refine ⟨_, by rw [List.getLast?_append, List.getLast?_eq_some_getLast hne, Option.some_or], ?_⟩
  have hlast := List.getLast_mem hne
  generalize ((own ++ rest).takeWhile fun o => o.1 ≤ i).getLast hne = o at hlast
  have hoi : o.1 ≤ i := of_decide_eq_true (List.all_eq_true.1 List.all_takeWhile o hlast)
  rcases List.mem_append.1 ((List.takeWhile_prefix _).mem hlast) with ho | ho
  · exact (mem_offsetsOfChar (hown ▸ ho)).2.2
  · have := (mem_offsetsFrom (hrest ▸ ho)).1
    omega

/-! ## Bytes of a normalized text -/

/-- **A byte within the lower case of a character comes from where the character starts.** -/
theorem toTrimmed_within (h : Text.trim text = a ++ c :: b) (hle : byteLength (lowerEach a) ≤ i)
    (hlt : i < byteLength (lowerEach (a ++ [c]))) : (normalize text).toTrimmed i = byteLength a := by
  have hwhole : lowerEach (Text.trim text) = lowerEach (a ++ [c]) ++ lowerEach b := by
    rw [h, ← lowerEach_append, List.append_assoc, List.singleton_append]
  have hend : ¬ byteLength (normalize text).lower ≤ i := by
    show ¬ byteLength (lowerEach (Text.trim text)) ≤ i
    rw [hwhole, byteLength_append]
    omega
  rw [lowerEach_append, byteLength_append, lowerEach_cons, show lowerEach [] = [] from rfl, List.append_nil] at hlt
  obtain ⟨o, ho, hsource⟩ := getLast?_takeWhile_offsetsFrom (a := a) (c := c) (b := b) (i := i) (s := 0) (t := 0)
    (by rwa [Nat.zero_add]) (by rwa [Nat.zero_add])
  rw [Nat.zero_add] at hsource
  unfold Normalized.toTrimmed
  rw [if_neg hend, show (normalize text).offsets = offsetsFrom 0 0 (a ++ c :: b) from h ▸ rfl, ho]
  exact hsource

/-- A place of the text is found back from the one of its lower case. -/
theorem toTrimmed_place (h : Text.trim text = a ++ b) :
    (normalize text).toTrimmed (byteLength (lowerEach a)) = byteLength a := by
  cases b with
  | nil =>
    rw [List.append_nil] at h
    unfold Normalized.toTrimmed normalize
    rw [h, if_pos (Nat.le_refl _)]
  | cons c b =>
    refine toTrimmed_within h (Nat.le_refl _) ?_
    obtain ⟨l, ls, hl⟩ := List.exists_cons_of_ne_nil (lowerChar_ne_nil c)
    have hpos := l.utf8Size_pos
    rw [lowerEach_append, byteLength_append, lowerEach_cons, hl, List.cons_append, byteLength]
    omega

end SiteEdit.Request
