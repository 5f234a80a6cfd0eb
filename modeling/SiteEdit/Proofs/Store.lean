import SiteEdit.Store
/-!
# Stores under several operations

What a store holds after records were dropped one after the other, and when dropping undoes inserting.  A store whose
records are changed by a function keeps its keys, and every operation on the changed store is the changed operation.
-/
namespace SiteEdit.Store

variable {α β : Type}

theorem ext_entries : ∀ {s t : Store α}, s.entries = t.entries → s = t
  | ⟨_, _⟩, ⟨_, _⟩, rfl => rfl

/-! ## Entries and look-ups -/

/-- A look-up finds what is stored. -/
theorem get?_eq_some_iff {s : Store α} {key : String} {a : α} : s.get? key = some a ↔ (key, a) ∈ s.entries := by
  unfold get?
  rw [List.lookup_eq_some_iff]
  constructor
  · rintro ⟨l₁, l₂, hs, -⟩
    rw [hs]
    exact List.mem_append_right _ List.mem_cons_self
  · intro h
    obtain ⟨l₁, l₂, hs⟩ := List.append_of_mem h
    refine ⟨l₁, l₂, hs, fun e he => ?_⟩
    have hnd := s.nodup
    rw [hs, List.map_append, List.nodup_append] at hnd
    simpa using (hnd.2.2 e.1 (List.mem_map_of_mem he) key (by simp)).symm

theorem get?_eq_none_iff {s : Store α} {key : String} : s.get? key = none ↔ key ∉ s.entries.map Prod.fst := by
  refine ⟨fun h hk => ?_, lookup_of_notMem⟩
  obtain ⟨⟨k, a⟩, ha, rfl⟩ := List.mem_map.1 hk
  rw [get?_eq_some_iff.2 ha] at h
  cases h

theorem mem_keys_iff {s : Store α} {key : String} : key ∈ s.entries.map Prod.fst ↔ ∃ a, s.get? key = some a := by
  constructor
  · intro h
    obtain ⟨⟨k, a⟩, ha, rfl⟩ := List.mem_map.1 h
    exact ⟨a, get?_eq_some_iff.2 ha⟩
  · rintro ⟨a, ha⟩
    exact List.mem_map.2 ⟨(key, a), get?_eq_some_iff.1 ha, rfl⟩

/-! ## Order -/

theorem mem_toSorted {s : Store α} {e : String × α} : e ∈ s.toSorted ↔ e ∈ s.entries := List.mem_mergeSort

/-- The records are listed by strictly ascending keys. -/
theorem toSorted_keys_lt (s : Store α) : (s.toSorted.map Prod.fst).Pairwise (· < ·) := by
  have htrans : ∀ a b c : String × α, decide (a.1 ≤ b.1) = true → decide (b.1 ≤ c.1) = true →
      decide (a.1 ≤ c.1) = true := fun a b c hab hbc =>
    decide_eq_true (String.le_trans (of_decide_eq_true hab) (of_decide_eq_true hbc))
  have htotal : ∀ a b : String × α, (decide (a.1 ≤ b.1) || decide (b.1 ≤ a.1)) = true := fun a b => by
    simpa using String.le_total a.1 b.1
  have hle : s.toSorted.Pairwise fun a b => a.1 ≤ b.1 :=
    (List.pairwise_mergeSort htrans htotal s.entries).imp of_decide_eq_true
  have hne : (s.toSorted.map Prod.fst).Nodup :=
    (((List.mergeSort_perm s.entries _).map Prod.fst).nodup_iff).2 s.nodup
  refine List.pairwise_map.2 ((hle.and (List.pairwise_map.1 hne)).imp fun {a b} h => ?_)
  exact Std.lt_of_le_of_ne h.1 h.2

/-- Under a key stands one record. -/
theorem filter_toSorted {s : Store α} {key : String} {a : α} (h : s.get? key = some a) :
    s.toSorted.filter (fun e => e.1 = key) = [(key, a)] := by
  have hnodup : s.toSorted.Nodup := (List.pairwise_map.1 s.toSorted_keys_lt).imp fun hlt heq => by
    rw [heq] at hlt
    exact String.lt_irrefl _ hlt
  refine List.perm_singleton.1 ((List.perm_ext_iff_of_nodup (hnodup.sublist List.filter_sublist) (by simp)).2 ?_)
  rintro ⟨k, b⟩
  rw [List.mem_filter, List.mem_singleton, mem_toSorted, ← get?_eq_some_iff, decide_eq_true_iff, Prod.mk.injEq]
  constructor
  · rintro ⟨hb, rfl⟩
    exact ⟨rfl, Option.some.inj (hb.symm.trans h)⟩
  · rintro ⟨rfl, rfl⟩
    exact ⟨h, rfl⟩

theorem toSorted_filter (s : Store α) (keep : String → α → Bool) :
    (s.filter keep).toSorted = s.toSorted.filter fun e => keep e.1 e.2 := by
  have hperm : (s.filter keep).toSorted.Perm (s.toSorted.filter fun e => keep e.1 e.2) :=
    (List.mergeSort_perm _ _).trans ((List.mergeSort_perm s.entries _).symm.filter _)
  have hleft := List.pairwise_map.1 (s.filter keep).toSorted_keys_lt
  have hright := (List.pairwise_map.1 s.toSorted_keys_lt).sublist (List.filter_sublist (p := fun e => keep e.1 e.2))
  -- both are sorted by keys that are all different
  exact hperm.eq_of_pairwise (fun a b _ _ hab hba => absurd (String.lt_trans hab hba) (String.lt_irrefl _)) hleft hright

/-! ## Dropping -/

theorem filter_filter (s : Store α) (keep keep' : String → α → Bool) :
    (s.filter keep).filter keep' = s.filter fun k a => keep k a && keep' k a := by
  apply ext_entries
  simp only [filter, List.filter_filter]
  exact List.filter_congr fun e _ => Bool.and_comm _ _

/-- What is kept and what is dropped make up the store. -/
theorem size_filter_add {s : Store α} {keep drop : String → α → Bool} (h : ∀ k a, drop k a = !keep k a) :
    (s.filter keep).size + (s.filter drop).size = s.size := by
  have hdrop : (fun e : String × α => drop e.1 e.2) = fun e => decide ¬keep e.1 e.2 = true := by
    funext e
    rw [h]
    cases keep e.1 e.2 <;> rfl
  have hparts : s.entries.length = _ := List.length_eq_countP_add_countP fun e => keep e.1 e.2
  rw [List.countP_eq_length_filter, List.countP_eq_length_filter, ← hdrop] at hparts
  exact hparts.symm

theorem filter_congr {s : Store α} {keep keep' : String → α → Bool}
    (h : ∀ k a, s.get? k = some a → keep k a = keep' k a) : s.filter keep = s.filter keep' :=
  ext_entries (List.filter_congr fun e he => h e.1 e.2 (get?_eq_some_iff.2 he))

theorem filter_eq_self {s : Store α} {keep : String → α → Bool} (h : ∀ k a, s.get? k = some a → keep k a = true) :
    s.filter keep = s :=
  ext_entries (List.filter_eq_self.2 fun e he => h e.1 e.2 (get?_eq_some_iff.2 he))

theorem erase_of_get?_eq_none {s : Store α} {key : String} (h : s.get? key = none) : s.erase key = s := by
  refine filter_eq_self fun k a ha => ?_
  rw [bne_iff_ne]
  rintro rfl
  rw [ha] at h
  cases h

/-- Dropping undoes inserting under a new key. -/
theorem erase_insert {s : Store α} {key : String} (a : α) (h : s.get? key = none) :
    (s.insert key a).erase key = s := by
  have hs : (s.insert key a).erase key = (s.erase key).erase key := by
    apply ext_entries
    simp [erase, filter, insert]
  rw [hs, erase_of_get?_eq_none h, erase_of_get?_eq_none h]

/-- A filter that refuses a new record does not see that it was inserted. -/
theorem filter_insert_of_neg {s : Store α} {key : String} {a : α} {keep : String → α → Bool}
    (h : s.get? key = none) (hk : keep key a = false) : (s.insert key a).filter keep = s.filter keep := by
  apply ext_entries
  show ((key, a) :: (s.erase key).entries).filter (fun e => keep e.1 e.2) = _
  rw [List.filter_cons_of_neg (by simpa using hk), erase_of_get?_eq_none h]
  rfl

/-- Dropping keys one after the other drops them all. -/
theorem eraseAll_eq_filter : ∀ (keys : List String) (s : Store α),
    keys.foldl erase s = s.filter fun k _ => decide (k ∉ keys)
  | [], s => (filter_eq_self fun _ _ _ => by simp).symm
  | key :: keys, s => by
    rw [List.foldl_cons, eraseAll_eq_filter keys]
    apply ext_entries
    simp only [erase, filter, List.filter_filter]
    refine List.filter_congr fun e _ => ?_
    by_cases h : e.1 = key <;> simp [h]

theorem get?_eraseAll (key : String) (keys : List String) (s : Store α) :
    (keys.foldl erase s).get? key = if key ∈ keys then none else s.get? key := by
  rw [eraseAll_eq_filter, get?_filter]
  cases s.get? key with
  | none => simp
  | some a => by_cases h : key ∈ keys <;> simp [h]

theorem adjust_adjust (s : Store α) (key : String) (f g : α → α) :
    (s.adjust key f).adjust key g = s.adjust key fun a => g (f a) := by
  apply ext_entries
  simp only [adjust, List.map_map, List.map_inj_left, Function.comp_apply]
  intro e _
  split <;> rfl

/-- Only the record that is there matters to a change. -/
theorem adjust_congr {s : Store α} {key : String} {a : α} {f g : α → α} (h : s.get? key = some a) (hfg : f a = g a) :
    s.adjust key f = s.adjust key g := by
  apply ext_entries
  simp only [adjust, List.map_inj_left]
  rintro ⟨k, b⟩ he
  split
  · rename_i hk
    subst hk
    rw [get?_eq_some_iff.2 he, Option.some.injEq] at h
    rw [h, hfg]
  · rfl

/-- A record that is replaced by itself. -/
theorem adjust_const {s : Store α} {key : String} {a : α} (h : s.get? key = some a) :
    (s.adjust key fun _ => a) = s := by
  rw [adjust_congr h (show a = id a from rfl)]
  apply ext_entries
  simp [adjust]

/-! ## Changing every record -/

/-- Changes every record. -/
def map (f : α → β) (s : Store α) : Store β :=
  { entries := s.entries.map fun e => (e.1, f e.2)
    nodup := by simpa [Function.comp_def] using s.nodup }

variable (f : α → β) (s : Store α)

theorem get?_map (key : String) : (s.map f).get? key = (s.get? key).map f := by
  show (s.entries.map fun e => (e.1, f e.2)).lookup key = (s.entries.lookup key).map f
  induction s.entries with
  | nil => rfl
  | cons e l ih =>
    rw [List.map_cons, List.lookup_cons, List.lookup_cons, ih]
    split <;> rfl

theorem size_map : (s.map f).size = s.size := by simp [size, map]

theorem map_filter (keep : String → α → Bool) (keep' : String → β → Bool) (h : ∀ k a, keep' k (f a) = keep k a) :
    (s.map f).filter keep' = (s.filter keep).map f := by
  apply ext_entries
  simp only [map, filter, List.filter_map]
  congr 2
  funext e
  exact h e.1 e.2

theorem map_erase (key : String) : (s.map f).erase key = (s.erase key).map f := map_filter f s _ _ fun _ _ => rfl

theorem map_insert (key : String) (a : α) : (s.map f).insert key (f a) = (s.insert key a).map f := by
  apply ext_entries
  show (key, f a) :: ((s.map f).erase key).entries = _
  rw [map_erase]
  rfl

theorem map_adjust (key : String) (g : α → α) (g' : β → β) (h : ∀ a, g' (f a) = f (g a)) :
    (s.map f).adjust key g' = (s.adjust key g).map f := by
  apply ext_entries
  simp only [map, adjust, List.map_map, List.map_inj_left, Function.comp_apply]
  intro e _
  split <;> simp [h]

end SiteEdit.Store
