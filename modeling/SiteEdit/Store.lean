/-!
# Stores

A store holds one record for each of its keys.  That no key occurs twice is part of the type.  The main statements
say what a look-up finds after each operation.
-/
namespace SiteEdit

/-- Records by key, no key twice. -/
structure Store (α : Type) where
  entries : List (String × α)
  nodup : (entries.map Prod.fst).Nodup
  deriving DecidableEq, Repr

namespace Store

variable {α : Type}

/-- The store without records. -/
def empty : Store α := { entries := [], nodup := List.nodup_nil }

instance : Inhabited (Store α) := ⟨empty⟩

/-- The record of a key. -/
def get? (s : Store α) (key : String) : Option α := s.entries.lookup key

/-- How many records there are. -/
def size (s : Store α) : Nat := s.entries.length

/-- Keeps the records that satisfy `keep`. -/
def filter (s : Store α) (keep : String → α → Bool) : Store α :=
  { entries := s.entries.filter fun e => keep e.1 e.2
    nodup := s.nodup.sublist (List.filter_sublist.map _) }

/-- Removes the record of a key. -/
def erase (s : Store α) (key : String) : Store α := s.filter fun k _ => k != key

theorem key_notMem_erase (s : Store α) (key : String) : key ∉ (s.erase key).entries.map Prod.fst := by
  simp [erase, filter]

/-- Puts a record under a key, in the place of the one that may be there. -/
def insert (s : Store α) (key : String) (a : α) : Store α :=
  { entries := (key, a) :: (s.erase key).entries
    nodup := List.nodup_cons.2 ⟨s.key_notMem_erase key, (s.erase key).nodup⟩ }

/-- Changes the record of a key, if there is one. -/
def adjust (s : Store α) (key : String) (f : α → α) : Store α :=
  { entries := s.entries.map fun e => if e.1 = key then (e.1, f e.2) else e
    nodup := by
      have : (fun e : String × α => (if e.1 = key then (e.1, f e.2) else e).1) = Prod.fst := by
        funext e
        split <;> rfl
      rw [List.map_map]
      simpa only [Function.comp_def, this] using s.nodup }

/-- The records in the order of their keys. -/
def toSorted (s : Store α) : List (String × α) := s.entries.mergeSort fun a b => decide (a.1 ≤ b.1)

/-! ## Look-ups -/

theorem lookup_of_notMem {key : String} : ∀ {l : List (String × α)}, key ∉ l.map Prod.fst → l.lookup key = none
  | [], _ => rfl
  | (k, a) :: l, h => by
    rw [List.map_cons, List.mem_cons, not_or] at h
    have hb : (key == k) = false := by simpa using h.1
    rw [List.lookup_cons, hb]
    exact lookup_of_notMem h.2

theorem lookup_filter (keep : String → α → Bool) (key : String) :
    ∀ l : List (String × α), (l.map Prod.fst).Nodup →
      (l.filter fun e => keep e.1 e.2).lookup key = (l.lookup key).filter (keep key)
  | [], _ => rfl
  | (k, a) :: l, h => by
    rw [List.map_cons, List.nodup_cons] at h
    have ih := lookup_filter keep key l h.2
    by_cases hk : key = k
    · subst hk
      rw [lookup_of_notMem h.1] at ih
      cases hx : keep key a
      · rw [List.filter_cons_of_neg (by simp [hx]), ih]
        simp [Option.filter, hx]
      · rw [List.filter_cons_of_pos (by simpa using hx)]
        simp [Option.filter, hx]
    · have hb : (key == k) = false := by simpa using hk
      cases hx : keep k a
      · rw [List.filter_cons_of_neg (by simp [hx]), ih, List.lookup_cons, hb]
      · rw [List.filter_cons_of_pos (by simpa using hx), List.lookup_cons, hb, List.lookup_cons, hb]
        exact ih

theorem lookup_adjusted (key k : String) (f : α → α) :
    ∀ l : List (String × α), (l.map fun e => if e.1 = key then (e.1, f e.2) else e).lookup k
      = if k = key then (l.lookup k).map f else l.lookup k
  | [] => by simp
  | (k', a) :: l => by
    have ih := lookup_adjusted key k f l
    by_cases h2 : k = k'
    · subst h2
      by_cases h1 : k = key <;> simp [h1]
    · have hb : (k == k') = false := by simpa using h2
      by_cases h1 : k' = key
      · simp only [List.map_cons, h1, if_true] at *
        rw [List.lookup_cons, hb, List.lookup_cons, hb]
        exact ih
      · simp only [List.map_cons, h1, if_false] at *
        rw [List.lookup_cons, hb, List.lookup_cons, hb]
        exact ih

@[simp] theorem get?_empty (key : String) : (empty : Store α).get? key = none := rfl

theorem get?_filter (s : Store α) (keep : String → α → Bool) (key : String) :
    (s.filter keep).get? key = (s.get? key).filter (keep key) :=
  lookup_filter keep key s.entries s.nodup

theorem get?_erase (s : Store α) (key k : String) :
    (s.erase key).get? k = if k = key then none else s.get? k := by
  unfold erase
  rw [get?_filter]
  by_cases h : k = key
  · cases s.get? k <;> simp [h]
  · cases s.get? k <;> simp [h]

theorem get?_insert (s : Store α) (key k : String) (a : α) :
    (s.insert key a).get? k = if k = key then some a else s.get? k := by
  have h := s.get?_erase key k
  unfold get? insert at *
  by_cases hk : k = key
  · subst hk
    simp
  · have hb : (k == key) = false := by simpa using hk
    rw [List.lookup_cons, hb, if_neg hk]
    rw [if_neg hk] at h
    exact h

theorem get?_adjust (s : Store α) (key k : String) (f : α → α) :
    (s.adjust key f).get? k = if k = key then (s.get? k).map f else s.get? k :=
  lookup_adjusted key k f s.entries

end Store

end SiteEdit
