import SiteEdit.Toml.Quoted
import Mathlib.Data.List.Infix
import Mathlib.Tactic.SplitIfs
/-!
# Strings of TOML are read back

In each of its four forms a string ends where it is meant to end: a quote of its own is escaped, or two more do not
follow it.  The form is chosen so that everything in the string can stand in it.
-/
namespace SiteEdit.Toml

variable {cs rest tail es : List Char} {c q x : Char}

/-! ## Between quotes -/

/-- What a character is written as between quotes. -/
inductive Escape (c : Char) : List Char → Prop where
  | plain (h : isPlain c = true) (hslash : c ≠ '\\') (hquote : c ≠ '"') : Escape c [c]
  | short {x : Char} (h : shortEscape? x = some c) : Escape c ['\\', x]
  | scalar {x y z w : Char} (h : shortScalar? x y z w = some c) : Escape c ['\\', 'u', x, y, z, w]

theorem shortScalar?_hexDigits :
    ∀ n < 0x80, shortScalar? '0' '0' (hexDigit (n / 16)) (hexDigit (n % 16)) = some (Char.ofNat n) := by
  decide

theorem toNat_lt_of_not_plain (h : ¬ isPlain c = true) : c.toNat < 0x80 := by
  unfold isPlain at h
  simp only [Bool.or_eq_true, beq_iff_eq, Bool.and_eq_true, decide_eq_true_eq, bne_iff_ne, not_or, not_and,
    not_not] at h
  omega

theorem escape_escapeChar (hquote : c ≠ '"') : Escape c (escapeChar c) := by
  unfold escapeChar
  split_ifs with hslash htab hbreak hreturn hback hfeed hplain
  · exact .short (by rw [hslash]; rfl)
  · exact .short (by rw [htab]; rfl)
  · exact .short (by rw [hbreak]; rfl)
  · exact .short (by rw [hreturn]; rfl)
  · exact .short (by rw [hback]; rfl)
  · exact .short (by rw [hfeed]; rfl)
  · exact .plain hplain hslash hquote
  · refine .scalar ?_
    rw [shortScalar?_hexDigits c.toNat (toNat_lt_of_not_plain hplain), Char.ofNat_toNat]

theorem mem_of_shortEscape? (h : shortEscape? x = some c) : x ∈ ['"', '\\', 'b', 'f', 'n', 'r', 't'] := by
  unfold shortEscape? at h
  split_ifs at h with hself hb hf hn hr ht
  · rcases hself with rfl | rfl <;> simp
  all_goals simp [*]

theorem readBasic_escape (h : Escape c es) (tail : List Char) :
    readBasic (es ++ tail) = (readBasic tail).map fun r => (c :: r.1, r.2) := by
  cases h with
  | plain h hslash hquote =>
    rw [List.singleton_append, readBasic.eq_def]
    split <;> simp_all
  | short h =>
    have hx := mem_of_shortEscape? h
    simp only [List.mem_cons, List.not_mem_nil, or_false] at hx
    rcases hx with rfl | rfl | rfl | rfl | rfl | rfl | rfl <;> simp [readBasic, h]
  | scalar h => simp [readBasic, h]

theorem writeBasic_cons (c : Char) (cs : List Char) :
    ∃ es, Escape c es ∧ writeBasic (c :: cs) = es ++ writeBasic cs := by
  refine ⟨_, ?_, List.flatMap_cons⟩
  split_ifs with hquote
  · exact .short (by rw [hquote]; rfl)
  · exact escape_escapeChar hquote

theorem readBasic_writeBasic (rest : List Char) : ∀ cs : List Char,
    readBasic (writeBasic cs ++ '"' :: rest) = some (cs, rest)
  | [] => rfl
  | c :: cs => by
    obtain ⟨es, he, hw⟩ := writeBasic_cons c cs
    rw [hw, List.append_assoc, readBasic_escape he, readBasic_writeBasic rest cs]
    rfl

theorem readBasicLines_escape (h : Escape c es) (tail : List Char) :
    readBasicLines false (es ++ tail) = (readBasicLines false tail).map fun r => (c :: r.1, r.2) := by
  cases h with
  | plain h hslash hquote =>
    have hreturn : c ≠ '\r' := by
      rintro rfl
      exact absurd h (by decide)
    rw [List.singleton_append, readBasicLines.eq_def]
    split <;> simp_all
  | short h =>
    have hx := mem_of_shortEscape? h
    simp only [List.mem_cons, List.not_mem_nil, or_false] at hx
    rcases hx with rfl | rfl | rfl | rfl | rfl | rfl | rfl <;>
      simp [readBasicLines, breaksHere, isBlank, afterBreak?, h]
  | scalar h => simp [readBasicLines, h]

theorem readBasicLines_break (tail : List Char) :
    readBasicLines false ('\n' :: tail) = (readBasicLines false tail).map fun r => ('\n' :: r.1, r.2) := by
  simp [readBasicLines]

/-- A quote stands for itself unless two more follow. -/
theorem readBasicLines_quote (h : ∀ t, tail ≠ '"' :: '"' :: t) :
    readBasicLines false ('"' :: tail) = (readBasicLines false tail).map fun r => ('"' :: r.1, r.2) := by
  rw [readBasicLines]
  · rfl
  all_goals simp_all

theorem closing_of_ne (h : rest.head? ≠ some q) : closing q rest = ([], rest) := by
  match rest with
  | [] => rfl
  | [a] => simp_all [closing]
  | a :: b :: t => simp_all [closing]

theorem closing_one (h : rest.head? ≠ some q) : closing q (q :: rest) = ([q], rest) := by
  match rest with
  | [] => simp [closing]
  | b :: t => simp_all [closing]

theorem closing_two (q : Char) (rest : List Char) : closing q (q :: q :: rest) = ([q, q], rest) := by
  simp [closing]

theorem Escape.head? (h : Escape c es) (tail : List Char) : (es ++ tail).head? ≠ some '"' := by
  cases h with
  | plain _ _ hquote => simpa using hquote
  | short => simp
  | scalar => simp

theorem head?_writeBasicLines {run : Nat} (h : c ≠ '"' ∨ 2 ≤ run) (cs tail : List Char) :
    (writeBasicLines run (c :: cs) ++ tail).head? ≠ some '"' := by
  rw [writeBasicLines]
  split_ifs with hquote hrun hbreak
  · rcases h with h | h
    · exact absurd hquote h
    · omega
  · simp
  · simp
  · rw [List.append_assoc]
    exact (escape_escapeChar hquote).head? _

/-- After a quote two more follow only where the string ends in both of them. -/
theorem eq_of_writeBasicLines_eq {run : Nat} {d : Char} {ds t : List Char}
    (h : writeBasicLines (run + 1) (d :: ds) ++ '"' :: tail = '"' :: '"' :: t) : d = '"' ∧ ds = [] ∧ run = 0 := by
  have hd : d = '"' ∧ run + 1 < 2 := by
    by_contra hd
    refine head?_writeBasicLines ((not_and_or.1 hd).imp_right Nat.not_lt.1) ds ('"' :: tail) ?_
    rw [h]
    rfl
  obtain ⟨rfl, hrun⟩ := hd
  obtain rfl : run = 0 := by omega
  cases ds with
  | nil => exact ⟨rfl, rfl, rfl⟩
  | cons e ds =>
    have hnext : (writeBasicLines 2 (e :: ds) ++ '"' :: tail).head? ≠ some '"' :=
      head?_writeBasicLines (.inr (Nat.le_refl 2)) ds _
    rw [writeBasicLines, if_pos rfl, if_pos hrun, List.cons_append, List.cons_inj_right] at h
    rw [h] at hnext
    exact absurd rfl hnext

theorem readBasicLines_writeBasicLines (hrest : rest.head? ≠ some '"') : ∀ (cs : List Char) (run : Nat),
    readBasicLines false (writeBasicLines run cs ++ '"' :: '"' :: '"' :: rest) = some (cs, rest)
  | [], _ => congrArg some (closing_of_ne hrest)
  | c :: cs, run => by
    have ih : ∀ run, readBasicLines false (writeBasicLines run cs ++ '"' :: '"' :: '"' :: rest) = some (cs, rest) :=
      readBasicLines_writeBasicLines hrest cs
    rw [writeBasicLines]
    split_ifs with hc hrun hbreak
    · subst hc
      cases cs with
      | nil => exact congrArg some (closing_one hrest)
      | cons d ds =>
        by_cases hend : d = '"' ∧ ds = [] ∧ run = 0
        · obtain ⟨rfl, rfl, rfl⟩ := hend
          exact congrArg some (closing_two '"' rest)
        · rw [List.cons_append, readBasicLines_quote fun t ht => hend (eq_of_writeBasicLines_eq ht), ih]
          rfl
    · rw [hc, List.cons_append, List.cons_append]
      exact (readBasicLines_escape (.short rfl) _).trans (congrArg _ (ih 0))
    · rw [hbreak]
      exact (readBasicLines_break _).trans (congrArg _ (ih 0))
    · rw [List.append_assoc]
      exact (readBasicLines_escape (escape_escapeChar hc) _).trans (congrArg _ (ih 0))

/-! ## Between apostrophes -/

theorem readLiteral_append (rest : List Char) : ∀ {cs : List Char}, (∀ c ∈ cs, isPlain c = true ∧ c ≠ '\'') →
    readLiteral (cs ++ '\'' :: rest) = some (cs, rest)
  | [], _ => rfl
  | c :: cs, h => by
    rw [List.forall_mem_cons] at h
    rw [List.cons_append, readLiteral, if_pos h.1.1, readLiteral_append rest h.2]
    · rfl
    · exact h.1.2

theorem le_longestRun (q : Char) : ∀ (cs : List Char) (run longest : Nat), longest ≤ longestRun q run longest cs
  | [], _, _ => Nat.le_refl _
  | c :: cs, run, longest => by
    rw [longestRun]
    split_ifs
    · exact (Nat.le_max_left _ _).trans (le_longestRun q cs _ _)
    · exact le_longestRun q cs _ _

theorem succ_le_longestRun (q : Char) (cs : List Char) (run longest : Nat) :
    run + 1 ≤ longestRun q run longest (q :: cs) := by
  rw [longestRun, if_pos rfl]
  exact (Nat.le_max_right _ _).trans (le_longestRun q cs _ _)

theorem notMem_of_longestRun : ∀ {cs : List Char} {run longest : Nat}, longestRun q run longest cs = 0 → q ∉ cs
  | [], _, _, _ => List.not_mem_nil
  | c :: cs, run, longest, h => by
    by_cases hc : c = q
    · have := succ_le_longestRun q cs run longest
      rw [hc] at h
      omega
    · rw [longestRun, if_neg hc] at h
      exact List.not_mem_cons_of_ne_of_not_mem (Ne.symm hc) (notMem_of_longestRun h)

/-- An apostrophe stands for itself unless two more follow. -/
theorem readLiteralLines_apostrophe (h : ∀ t, tail ≠ '\'' :: '\'' :: t) :
    readLiteralLines ('\'' :: tail) = (readLiteralLines tail).map fun r => ('\'' :: r.1, r.2) := by
  rw [readLiteralLines]
  · rfl
  all_goals simp_all

theorem readLiteralLines_cons (hc : c ≠ '\'') (hp : isPlain c = true ∨ c = '\n') :
    readLiteralLines (c :: tail) = (readLiteralLines tail).map fun r => (c :: r.1, r.2) := by
  have hreturn : c ≠ '\r' := by
    rintro rfl
    exact absurd hp (by decide)
  rw [readLiteralLines, if_pos (by simpa using hp)]
  all_goals simp_all

/-- Between triple apostrophes a string stands as it is, as long as it has no three of its own in a row. -/
theorem readLiteralLines_append (hrest : rest.head? ≠ some '\'') : ∀ {cs : List Char} {run longest : Nat},
    (∀ c ∈ cs, isPlain c = true ∨ c = '\n') → longestRun '\'' run longest cs ≤ 2 →
      readLiteralLines (cs ++ '\'' :: '\'' :: '\'' :: rest) = some (cs, rest)
  | [], _, _, _, _ => congrArg some (closing_of_ne hrest)
  | c :: cs, run, longest, h, hruns => by
    rw [List.forall_mem_cons] at h
    by_cases hc : c = '\''
    · subst hc
      rw [longestRun, if_pos rfl] at hruns
      have ih := readLiteralLines_append hrest h.2 hruns
      cases cs with
      | nil => exact congrArg some (closing_one hrest)
      | cons d ds =>
        by_cases hend : d = '\'' ∧ ds = []
        · obtain ⟨rfl, rfl⟩ := hend
          exact congrArg some (closing_two '\'' rest)
        · rw [List.cons_append, readLiteralLines_apostrophe, ih]
          · rfl
          · intro t ht
            obtain ⟨rfl, hds⟩ := List.cons.inj ht
            obtain ⟨e, es, rfl⟩ := List.exists_cons_of_ne_nil fun hnil => hend ⟨rfl, hnil⟩
            obtain ⟨rfl, -⟩ := List.cons.inj hds
            rw [longestRun, if_pos rfl] at hruns
            have := succ_le_longestRun '\'' es (run + 1 + 1) (max (max longest (run + 1)) (run + 1 + 1))
            omega
    · rw [longestRun, if_neg hc] at hruns
      rw [List.cons_append, readLiteralLines_cons hc h.1, readLiteralLines_append hrest h.2 hruns]
      rfl

/-! ## The form of a string -/

theorem isPlain_of_not_needsEscape (h : ¬ cs.any needsEscape = true) : ∀ c ∈ cs, isPlain c = true ∨ c = '\n' := by
  intro c hc
  have hn : needsEscape c = false := by
    by_contra hn
    exact h (List.any_eq_true.2 ⟨c, hc, by simpa using hn⟩)
  unfold needsEscape at hn
  simp only [Bool.and_eq_false_imp, Bool.not_eq_true', bne_eq_false_iff_eq] at hn
  cases hp : isPlain c with
  | true => exact .inl rfl
  | false => exact .inr (hn hp)

theorem of_formOf_literal (h : formOf cs = .literal) : cs ≠ [] ∧ ∀ c ∈ cs, isPlain c = true ∧ c ≠ '\'' := by
  constructor
  · rintro rfl
    exact absurd h (by decide)
  · unfold formOf at h
    dsimp only at h
    split_ifs at h with hbasic hliteral
    simp only [Bool.and_eq_true, Bool.not_eq_true', beq_iff_eq] at hliteral
    obtain ⟨⟨hescapes, happ⟩, hbroken⟩ := hliteral
    intro c hc
    refine ⟨?_, fun heq => notMem_of_longestRun happ (heq ▸ hc)⟩
    rcases isPlain_of_not_needsEscape (by rw [hescapes]; decide) c hc with hp | hbreak
    · exact hp
    · exact absurd (hbreak ▸ hc) (by simpa using hbroken)

theorem of_formOf_literalLines (h : formOf cs = .literalLines) :
    (∀ c ∈ cs, isPlain c = true ∨ c = '\n') ∧ longestRun '\'' 0 0 cs ≤ 2 := by
  unfold formOf at h
  dsimp only at h
  split_ifs at h with hbasic hliteral hbasicLines hliteralLines
  simp only [Bool.and_eq_true, Bool.not_eq_true', decide_eq_true_eq] at hliteralLines
  exact ⟨isPlain_of_not_needsEscape (by rw [hliteralLines.1]; decide), hliteralLines.2⟩

theorem readString?_quote (h : ∀ t, tail ≠ '"' :: '"' :: t) : readString? ('"' :: tail) = readBasic tail := by
  rw [readString?]
  simpa using h

theorem readString?_apostrophe (h : ∀ t, tail ≠ '\'' :: '\'' :: t) : readString? ('\'' :: tail) = readLiteral tail := by
  rw [readString?]
  simpa using h

theorem readString?_basic (hrest : rest.head? ≠ some '"') (cs : List Char) :
    readString? ('"' :: (writeBasic cs ++ '"' :: rest)) = some (cs, rest) := by
  rw [readString?_quote, readBasic_writeBasic]
  intro t ht
  cases cs with
  | nil =>
    rw [(List.cons.inj ht).2] at hrest
    exact hrest rfl
  | cons c cs =>
    obtain ⟨es, he, hw⟩ := writeBasic_cons c cs
    rw [hw, List.append_assoc] at ht
    exact he.head? _ (by rw [ht]; rfl)

theorem readString?_literal (hne : cs ≠ []) (h : ∀ c ∈ cs, isPlain c = true ∧ c ≠ '\'') (rest : List Char) :
    readString? ('\'' :: (cs ++ '\'' :: rest)) = some (cs, rest) := by
  rw [readString?_apostrophe, readLiteral_append rest h]
  intro t ht
  obtain ⟨c, cs, rfl⟩ := List.exists_cons_of_ne_nil hne
  exact (h c List.mem_cons_self).2 (List.cons.inj ht).1

theorem afterBreak?_of_plain (h : isPlain c = true) (tail : List Char) : afterBreak? (c :: tail) = none := by
  unfold afterBreak?
  split
  · simp_all [isPlain]
  · simp_all [isPlain]
  · rfl

theorem Escape.afterBreak? (h : Escape c es) (tail : List Char) : afterBreak? (es ++ tail) = none := by
  cases h with
  | plain h => exact afterBreak?_of_plain h _
  | short => rfl
  | scalar => rfl

/-- The line break after triple quotes is not part of the string. -/
theorem getD_opening (h : '\n' ∉ cs → afterBreak? tail = none) :
    (afterBreak? (opening cs ++ tail)).getD (opening cs ++ tail) = tail := by
  unfold opening
  split_ifs with hbreak
  · rfl
  · rw [List.nil_append, h (by simpa using hbreak)]
    rfl

theorem readString?_basicLines (hrest : rest.head? ≠ some '"') (cs : List Char) :
    readString? ('"' :: '"' :: '"' :: (opening cs ++ (writeBasicLines 0 cs ++ '"' :: '"' :: '"' :: rest))) =
      some (cs, rest) := by
  rw [readString?, getD_opening, readBasicLines_writeBasicLines hrest]
  intro hbreak
  cases cs with
  | nil => rfl
  | cons c cs =>
    rw [writeBasicLines]
    split_ifs with hc hrun hn
    · rfl
    · rfl
    · exact absurd (hn ▸ List.mem_cons_self) hbreak
    · rw [List.append_assoc]
      exact (escape_escapeChar hc).afterBreak? _

theorem readString?_literalLines (hrest : rest.head? ≠ some '\'') (h : ∀ c ∈ cs, isPlain c = true ∨ c = '\n')
    (hruns : longestRun '\'' 0 0 cs ≤ 2) :
    readString? ('\'' :: '\'' :: '\'' :: (opening cs ++ (cs ++ '\'' :: '\'' :: '\'' :: rest))) = some (cs, rest) := by
  rw [readString?, getD_opening, readLiteralLines_append hrest h hruns]
  intro hbreak
  cases cs with
  | nil => rfl
  | cons c cs =>
    rcases h c List.mem_cons_self with hp | hn
    · exact afterBreak?_of_plain hp _
    · exact absurd (hn ▸ List.mem_cons_self) hbreak

/-- **A string is read back from the form in which it is written.** -/
theorem readString?_writeString (hquote : rest.head? ≠ some '"') (happ : rest.head? ≠ some '\'') (cs : List Char) :
    readString? (writeString cs ++ rest) = some (cs, rest) := by
  unfold writeString
  cases hform : formOf cs with
  | basic => simpa using readString?_basic hquote cs
  | literal =>
    obtain ⟨hne, hplain⟩ := of_formOf_literal hform
    simpa using readString?_literal hne hplain rest
  | basicLines => simpa using readString?_basicLines hquote cs
  | literalLines =>
    obtain ⟨hplain, hruns⟩ := of_formOf_literalLines hform
    simpa using readString?_literalLines happ hplain hruns

end SiteEdit.Toml
