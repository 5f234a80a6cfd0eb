import SiteEdit.Proofs.Toml.Values
/-!
# Statements of TOML are read back

Keys, dotted paths and whole statements are read back, each from its own line.  A text of blocks with an empty line
between each two has the statements of its blocks, one after the other.
-/
namespace SiteEdit.Toml

variable {cs rest : List Char} {c : Char} {fuel : Nat} {path : List String} {s : Statement}

/-! ## Keys -/

theorem writeKey_cases (key : String) :
    (key.toList ≠ [] ∧ (∀ c ∈ key.toList, isBare c = true) ∧ writeKey key = key.toList) ∨
      writeKey key = '"' :: (writeBasic key.toList ++ ['"']) := by
  unfold writeKey
  dsimp only
  split_ifs with hbare
  · rw [Bool.and_eq_true, Bool.not_eq_true', List.all_eq_true] at hbare
    exact .inl ⟨fun hnil => by simp [hnil] at hbare, hbare.2, rfl⟩
  · exact .inr rfl

theorem exists_writeKey (key : String) : ∃ c t, writeKey key = c :: t ∧ (isBare c = true ∨ c = '"') := by
  rcases writeKey_cases key with ⟨hne, hbare, hw⟩ | hw
  · obtain ⟨c, t, ht⟩ := List.exists_cons_of_ne_nil hne
    exact ⟨c, t, hw.trans ht, .inl (hbare c (by rw [ht]; exact List.mem_cons_self))⟩
  · exact ⟨_, _, hw, .inr rfl⟩

theorem settled_of_isBare (h : isBare c = true ∨ c = '"') (cs : List Char) : Settled (c :: cs) := by
  refine settled_cons (fun hc => ?_) cs
  simp only [List.mem_cons, List.not_mem_nil, or_false] at hc
  rcases hc with rfl | rfl | rfl | rfl | rfl <;> exact absurd h (by decide)

/-- A key is read back, if no other character of a key follows. -/
theorem readKey?_writeKey (hrest : ∀ c ∈ rest.head?, isBare c = false) (key : String) :
    readKey? (writeKey key ++ rest) = some (key, rest) := by
  rcases writeKey_cases key with ⟨hne, hbare, hw⟩ | hw
  · obtain ⟨htake, hdrop⟩ := span_append hbare hrest
    obtain ⟨c, t, ht⟩ := List.exists_cons_of_ne_nil hne
    have hhead : ∀ {q : Char} {u : List Char}, isBare q = false → key.toList ++ rest ≠ q :: u := by
      rintro q u hq heq
      rw [ht, List.cons_append] at heq
      rw [← (List.cons.inj heq).1, hbare c (by rw [ht]; exact List.mem_cons_self)] at hq
      cases hq
    rw [hw, readKey?, htake, hdrop]
    · split
      · exact absurd ‹_› hne
      · rw [String.ofList_toList]
    all_goals exact fun t => hhead (by decide)
  · rw [hw, List.cons_append, List.append_assoc, List.singleton_append, readKey?, readBasic_writeBasic]
    simp

theorem writePath_cons (key : String) (path : List String) :
    ∃ c t, writePath (key :: path) = c :: t ∧ (isBare c = true ∨ c = '"') := by
  obtain ⟨c, t, ht, hc⟩ := exists_writeKey key
  cases path with
  | nil => exact ⟨c, t, ht, hc⟩
  | cons k path => exact ⟨c, t ++ '.' :: writePath (k :: path), by simp [writePath, ht], hc⟩

theorem length_writePath : ∀ path : List String, path.length ≤ (writePath path).length
  | [] => Nat.le_refl 0
  | [key] => by
    obtain ⟨c, t, ht, -⟩ := exists_writeKey key
    rw [writePath, ht]
    simp
  | key :: k :: path => by
    have ih := length_writePath (k :: path)
    simp only [writePath, List.length_append, List.length_cons] at ih ⊢
    omega

theorem readKeys?_writeKey (hrest : ∀ c ∈ rest.head?, isBare c = false) (fuel : Nat) (key : String) :
    readKeys? (fuel + 1) (writeKey key ++ rest) =
      match skipBlanks rest with
      | '.' :: rest => (readKeys? fuel rest).map fun r => (key :: r.1, r.2)
      | rest => some ([key], rest) := by
  obtain ⟨c, t, ht, hc⟩ := exists_writeKey key
  have hsettled : Settled (writeKey key ++ rest) := by
    rw [ht]
    exact settled_of_isBare hc _
  rw [readKeys?, hsettled.skip.1, readKey?_writeKey hrest]
  rfl

/-- A path is read back, and the blanks after it are left out. -/
theorem readKeys?_writePath (hrest : ∀ c ∈ rest.head?, isBare c = false) (hdot : ∀ t, skipBlanks rest ≠ '.' :: t) :
    ∀ {path : List String} {fuel : Nat}, path ≠ [] → path.length ≤ fuel →
      readKeys? fuel (writePath path ++ rest) = some (path, skipBlanks rest)
  | [key], fuel, _, hfuel => by
    obtain ⟨fuel, rfl⟩ := Nat.exists_eq_add_of_le' hfuel
    rw [writePath, List.length_singleton, readKeys?_writeKey hrest]
    split
    · exact absurd ‹_› (hdot _)
    · rfl
  | key :: k :: path, fuel, _, hfuel => by
    obtain ⟨fuel, rfl⟩ : ∃ f, fuel = f + 1 := ⟨fuel - 1, by rw [List.length_cons] at hfuel; omega⟩
    have ih := readKeys?_writePath hrest hdot (List.cons_ne_nil k path) (Nat.le_of_succ_le_succ hfuel)
    have htext : writePath (key :: k :: path) ++ rest = writeKey key ++ '.' :: (writePath (k :: path) ++ rest) := by
      simp [writePath]
    have hblanks : ∀ cs, skipBlanks ('.' :: cs) = '.' :: cs := fun cs =>
      (settled_cons (c := '.') (by decide) cs).skip.1
    rw [htext, readKeys?_writeKey (by simp [isBare]), hblanks]
    exact congrArg (Option.map fun r => (key :: r.1, r.2)) ih

/-- A path that can be written. -/
def IsPath (path : List String) : Prop := path ≠ [] ∧ path.length ≤ maxDepth

theorem readPath?_writePath (hrest : ∀ c ∈ rest.head?, isBare c = false) (hdot : ∀ t, skipBlanks rest ≠ '.' :: t)
    (hpath : IsPath path) (hfuel : path.length ≤ fuel) :
    readPath? fuel (writePath path ++ rest) = some (path, skipBlanks rest) := by
  unfold readPath?
  rw [readKeys?_writePath hrest hdot hpath.1 hfuel]
  exact if_pos hpath.2

theorem readPath?_bracket (hpath : IsPath path) (hfuel : path.length ≤ fuel) (rest : List Char) :
    readPath? fuel (writePath path ++ ']' :: rest) = some (path, ']' :: rest) := by
  have hblanks : skipBlanks (']' :: rest) = ']' :: rest := (settled_cons (by decide) rest).skip.1
  rw [readPath?_writePath (by simp [isBare]) (by simp [hblanks]) hpath hfuel, hblanks]

theorem IsPath.head (hpath : IsPath path) (rest : List Char) :
    ∃ c t, writePath path ++ rest = c :: t ∧ (isBare c = true ∨ c = '"') := by
  obtain ⟨key, path, rfl⟩ := List.exists_cons_of_ne_nil hpath.1
  obtain ⟨c, t, ht, hc⟩ := writePath_cons key path
  exact ⟨c, t ++ rest, by rw [ht]; rfl, hc⟩

theorem IsPath.settled (hpath : IsPath path) (rest : List Char) : Settled (writePath path ++ rest) := by
  obtain ⟨c, t, ht, hc⟩ := hpath.head rest
  rw [ht]
  exact settled_of_isBare hc t

theorem IsPath.ne_bracket (hpath : IsPath path) (rest t : List Char) : writePath path ++ rest ≠ '[' :: t := by
  obtain ⟨c, u, hu, hc⟩ := hpath.head rest
  rw [hu]
  rintro heq
  rw [(List.cons.inj heq).1] at hc
  exact absurd hc (by decide)

/-! ## Statements -/

namespace Statement

/-- A statement on a line of its own. -/
def text : Statement → List Char
  | .header path => '[' :: (writePath path ++ [']', '\n'])
  | .itemHeader path => '[' :: '[' :: (writePath path ++ [']', ']', '\n'])
  | .assign path j => writePath path ++ ' ' :: '=' :: ' ' :: (writeValue j ++ ['\n'])

/-- A statement that can be written. -/
def IsWritable : Statement → Prop
  | .header path | .itemHeader path => IsPath path
  | .assign path j => IsPath path ∧ isWritable j = true

/-- **A statement is read back.** -/
theorem readStatement?_text (h : s.IsWritable) (hfuel : s.text.length ≤ fuel) (rest : List Char) :
    readStatement? fuel (s.text ++ rest) = some (s, rest) := by
  cases s with
  | header path =>
    have hlength := length_writePath path
    simp only [text, List.length_cons, List.length_append] at hfuel
    have htext : text (.header path) ++ rest = '[' :: (writePath path ++ ']' :: '\n' :: rest) := by simp [text]
    rw [htext, readStatement?, readPath?_bracket h (by omega)]
    · rfl
    · exact fun t ht => h.ne_bracket _ t ht
  | itemHeader path =>
    have hlength := length_writePath path
    simp only [text, List.length_cons, List.length_append] at hfuel
    have htext : text (.itemHeader path) ++ rest = '[' :: '[' :: (writePath path ++ ']' :: ']' :: '\n' :: rest) := by
      simp [text]
    rw [htext, readStatement?, readPath?_bracket h (by omega)]
    rfl
  | assign path j =>
    obtain ⟨hpath, hj⟩ := h
    have hlength := length_writePath path
    simp only [text, List.length_cons, List.length_append] at hfuel
    have htext : text (.assign path j) ++ rest =
        writePath path ++ ' ' :: '=' :: ' ' :: (writeValue j ++ '\n' :: rest) := by
      simp [text]
    have hequals : skipBlanks (' ' :: '=' :: ' ' :: (writeValue j ++ '\n' :: rest)) =
        '=' :: ' ' :: (writeValue j ++ '\n' :: rest) := rfl
    have hblank : skipBlanks (' ' :: (writeValue j ++ '\n' :: rest)) = writeValue j ++ '\n' :: rest :=
      (settled_writeValue hj _).skip.1
    rw [htext, readStatement?, readPath?_writePath (by simp [isBare]) (by simp [hequals]) hpath (by omega), hequals]
    · show (readValue? fuel (78 + 1) (skipBlanks (' ' :: (writeValue j ++ '\n' :: rest)))).bind _ = _
      rw [hblank, readValue?_writeValue hj (by simp [EndsValue]) (by omega)]
      rfl
    · exact fun t ht => hpath.ne_bracket _ _ ht
    · exact fun t ht => hpath.ne_bracket _ _ ht

/-- A statement starts neither with what is left out before it nor with the mark of a text. -/
theorem IsWritable.exists_text (h : s.IsWritable) :
    ∃ c t, s.text = c :: t ∧ c ∉ [' ', '\t', '#', '\n', '\r', Char.ofNat 0xFEFF] := by
  cases s with
  | header path => exact ⟨'[', _, rfl, by decide⟩
  | itemHeader path => exact ⟨'[', _, rfl, by decide⟩
  | assign path j =>
    obtain ⟨c, t, ht, hc⟩ := h.1.head (' ' :: '=' :: ' ' :: (writeValue j ++ ['\n']))
    refine ⟨c, t, ht, fun hm => ?_⟩
    simp only [List.mem_cons, List.not_mem_nil, or_false] at hm
    rcases hm with rfl | rfl | rfl | rfl | rfl | rfl <;> exact absurd hc (by decide)

theorem IsWritable.settled_text (h : s.IsWritable) (rest : List Char) : Settled (s.text ++ rest) := by
  obtain ⟨c, t, ht, hc⟩ := h.exists_text
  rw [ht]
  exact settled_cons (fun hm => hc (List.mem_append_left [Char.ofNat 0xFEFF] hm)) _

end Statement

/-! ## Documents -/

variable {ss : List Statement}

/-- A text with these statements: they are read with any fuel that is more than the text is long. -/
def Reads (cs : List Char) (ss : List Statement) : Prop :=
  ∀ fuel, cs.length < fuel → readStatements? fuel cs = some ss

namespace Reads

theorem nil : Reads [] [] := by
  intro fuel hfuel
  obtain ⟨fuel, rfl⟩ := Nat.exists_eq_add_of_le' hfuel
  have hempty : Settled [] := by simp [Settled]
  show readStatements? (fuel + 1) [] = some []
  unfold readStatements?
  rw [hempty.skipLines]

theorem statement (hs : s.IsWritable) (h : Reads rest ss) : Reads (s.text ++ rest) (s :: ss) := by
  intro fuel hfuel
  obtain ⟨fuel, rfl⟩ : ∃ f, fuel = f + 1 := ⟨fuel - 1, by omega⟩
  obtain ⟨c, t, ht, -⟩ := hs.exists_text
  have hne : s.text ++ rest ≠ [] := by simp [ht]
  have hpos : 0 < s.text.length := by simp [ht]
  rw [List.length_append] at hfuel
  unfold readStatements?
  rw [(hs.settled_text rest).skipLines]
  split
  · exact absurd ‹_› hne
  · rw [Statement.readStatement?_text hs (by omega), Option.bind_some]
    dsimp only
    rw [h fuel (by omega)]
    rfl

/-- An empty line is left out. -/
theorem emptyLine (hcs : Settled cs) (h : Reads cs ss) : Reads ('\n' :: cs) ss := by
  intro fuel hfuel
  rw [List.length_cons] at hfuel
  obtain ⟨fuel, rfl⟩ : ∃ f, fuel = f + 2 := ⟨fuel - 2, by omega⟩
  have hread := h (fuel + 2) (by omega)
  unfold readStatements? at hread ⊢
  rw [hcs.skipLines] at hread
  rwa [skipLines_break, hcs.skipLines]

theorem block (h : Reads rest ss) : ∀ {b : List Statement}, (∀ s ∈ b, s.IsWritable) →
    Reads (b.flatMap Statement.text ++ rest) (b ++ ss)
  | [], _ => h
  | s :: b, hb => by
    rw [List.forall_mem_cons] at hb
    rw [List.flatMap_cons, List.append_assoc]
    exact .statement hb.1 (h.block hb.2)

end Reads

/-- The text of blocks of statements, with an empty line between each two. -/
def blocksText (blocks : List (List Statement)) : List Char :=
  List.intercalate ['\n'] (blocks.map (List.flatMap Statement.text))

/-- Blocks that can be written: none of them is empty. -/
def AreWritable (blocks : List (List Statement)) : Prop := ∀ b ∈ blocks, b ≠ [] ∧ ∀ s ∈ b, s.IsWritable

namespace AreWritable

variable {b : List Statement} {blocks : List (List Statement)}

theorem exists_text (h : AreWritable (b :: blocks)) :
    ∃ (s : Statement) (t : List Char), s.IsWritable ∧ blocksText (b :: blocks) = s.text ++ t := by
  obtain ⟨hne, hb⟩ := h b List.mem_cons_self
  obtain ⟨s, b, rfl⟩ := List.exists_cons_of_ne_nil hne
  have hs := hb s List.mem_cons_self
  cases blocks with
  | nil => exact ⟨s, b.flatMap Statement.text, hs, by simp [blocksText]⟩
  | cons b' blocks =>
    exact ⟨s, b.flatMap Statement.text ++ '\n' :: blocksText (b' :: blocks), hs, by simp [blocksText]⟩

theorem reads : ∀ {blocks : List (List Statement)}, AreWritable blocks → Reads (blocksText blocks) blocks.flatten
  | [], _ => .nil
  | [b], h => by
    have hb := (h b List.mem_cons_self).2
    simpa [blocksText] using Reads.nil.block hb
  | b :: b' :: blocks, h => by
    have hrest : AreWritable (b' :: blocks) := fun c hc => h c (List.mem_cons_of_mem _ hc)
    have htext : blocksText (b :: b' :: blocks) = b.flatMap Statement.text ++ '\n' :: blocksText (b' :: blocks) := by
      simp [blocksText]
    have hsettled : Settled (blocksText (b' :: blocks)) := by
      obtain ⟨s, t, hs, ht⟩ := hrest.exists_text
      rw [ht]
      exact hs.settled_text t
    rw [htext]
    exact (hrest.reads.emptyLine hsettled).block (h b List.mem_cons_self).2

theorem withoutMark (h : AreWritable blocks) : withoutMark (blocksText blocks) = blocksText blocks := by
  cases blocks with
  | nil => rfl
  | cons b blocks =>
    obtain ⟨s, t, hs, ht⟩ := h.exists_text
    obtain ⟨c, u, hu, hc⟩ := hs.exists_text
    rw [ht, hu, List.cons_append, Toml.withoutMark]
    exact if_neg fun hmark => hc (by rw [hmark]; decide)

/-- **The text of blocks has their statements.** -/
theorem parse?_blocksText (h : AreWritable blocks) :
    parse? (String.ofList (blocksText blocks)) = ofStatements? blocks.flatten := by
  unfold parse?
  rw [String.toList_ofList, h.withoutMark]
  dsimp only
  rw [h.reads _ (by omega), Option.bind_some]

end AreWritable

end SiteEdit.Toml
