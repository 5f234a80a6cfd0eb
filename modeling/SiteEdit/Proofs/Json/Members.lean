import SiteEdit.Json.Reader
import SiteEdit.Json.Record
import SiteEdit.Proofs.Store
import Mathlib.Data.List.Induction
import Mathlib.Data.List.Sort
/-!
# The members of objects

An object is what its members say: lists with the same look-ups are the same object (`HasJust`), and records and
variants are read from it alike.  In an `Ordered` value the members of every object stand in the order of their names,
each name once, so there the look-ups leave one list only.  Every value that is read from a text is ordered.
-/
namespace SiteEdit.Json

variable {ms ns fields : List (String × Json)} {k : String} {v : Json}

/-! ## Look-ups -/

/-- The members are these fields and no others. -/
def HasJust (ms fields : List (String × Json)) : Prop := ∀ k, ms.lookup k = fields.lookup k

theorem lookup_cons (l k : String) (v : Json) (ms : List (String × Json)) :
    ((k, v) :: ms).lookup l = if l = k then some v else ms.lookup l := by
  rw [List.lookup_cons]
  by_cases h : l = k
  · rw [if_pos h, h, beq_self_eq_true]
  · rw [if_neg h, beq_false_of_ne h]

theorem lookup_map_value (f : Json → Json) (k : String) : ∀ ms : List (String × Json),
    (ms.map fun m => (m.1, f m.2)).lookup k = (ms.lookup k).map f
  | [] => rfl
  | (l, v) :: ms => by
    rw [List.map_cons, lookup_cons, lookup_cons, lookup_map_value f k ms]
    split_ifs <;> rfl

theorem lookup_eq_some_iff {α : Type} {l : List (String × α)} (hnd : (l.map Prod.fst).Nodup) {a : α} :
    l.lookup k = some a ↔ (k, a) ∈ l :=
  Store.get?_eq_some_iff (s := ⟨l, hnd⟩)

theorem hasJust_iff (hnd : (fields.map Prod.fst).Nodup) :
    HasJust ms fields ↔
      (∀ f ∈ fields, ms.lookup f.1 = some f.2) ∧ ∀ m ∈ ms, m.1 ∈ fields.map Prod.fst := by
  constructor
  · intro h
    refine ⟨fun f hf => ?_, fun m hm => ?_⟩
    · rw [h, lookup_eq_some_iff hnd]
      exact hf
    · by_contra hk
      have hnone := h m.1
      rw [Store.lookup_of_notMem hk, List.lookup_eq_none_iff] at hnone
      simpa using hnone m hm
  · rintro ⟨hf, hm⟩ k
    by_cases hk : k ∈ fields.map Prod.fst
    · obtain ⟨f, hmem, rfl⟩ := List.mem_map.1 hk
      rw [hf f hmem, (lookup_eq_some_iff hnd).2 hmem]
    · have hms : k ∉ ms.map Prod.fst := fun h => by
        obtain ⟨m, hmem, rfl⟩ := List.mem_map.1 h
        exact hk (hm m hmem)
      rw [Store.lookup_of_notMem hk, Store.lookup_of_notMem hms]

/-! ## Records -/

theorem lookup_filter_ne (tag k : String) : ∀ ms : List (String × Json),
    (ms.filter fun m => m.1 != tag).lookup k = if k = tag then none else ms.lookup k
  | [] => by rw [List.filter_nil, List.lookup_nil, ite_self]
  | (l, v) :: ms => by
    by_cases hl : l = tag
    · rw [List.filter_cons_of_neg (by simpa using hl), lookup_filter_ne tag k ms, lookup_cons, hl]
      split_ifs <;> rfl
    · rw [List.filter_cons_of_pos (by simpa using hl), lookup_cons, lookup_cons, lookup_filter_ne tag k ms]
      split_ifs with hk hk'
      · exact absurd (hk.symm.trans hk') hl
      · rfl
      · rfl
      · rfl

/-- Taking the tag off leaves the other fields. -/
theorem tagged?_of_hasJust {tag name : String} (h : HasJust ms ((tag, .str name) :: fields))
    (hnd : tag ∉ fields.map Prod.fst) :
    ∃ rest, tagged? tag (.obj ms) = some (name, .obj rest) ∧ HasJust rest fields := by
  refine ⟨ms.filter fun m => m.1 != tag, ?_, fun k => ?_⟩
  · have htag : ms.lookup tag = some (.str name) := by rw [h, lookup_cons, if_pos rfl]
    simp [tagged?, tagAndRest?, htag, asString?]
  · rw [lookup_filter_ne, h, lookup_cons]
    split_ifs with hk
    · rw [hk, Store.lookup_of_notMem hnd]
    · rfl

theorem closedFields?_of_hasJust (h : HasJust ms fields) (hnd : (fields.map Prod.fst).Nodup) :
    closedFields? (fields.map Prod.fst) (.obj ms) = some { members := ms, byPosition := false } := by
  unfold closedFields? fields?
  refine if_pos (List.all_eq_true.2 fun m hm => ?_)
  exact List.contains_iff_mem.2 (((hasJust_iff hnd).1 h).2 m hm)

theorem mapM_map_eq_some {α : Type} {read : Json → Option α} {write : α → Json} : ∀ {as : List α},
    (∀ a ∈ as, read (write a) = some a) → (as.map write).mapM read = some as
  | [], _ => rfl
  | a :: as, h => by
    rw [List.forall_mem_cons] at h
    rw [List.map_cons, List.mapM_cons, h.1, mapM_map_eq_some h.2]
    rfl

theorem list?_ofList {α : Type} {read : Json → Option α} {write : α → Json} {as : List α}
    (h : ∀ a ∈ as, read (write a) = some a) : list? read (ofList write as) = some as :=
  mapM_map_eq_some h

theorem word32?_ofNat (i : UInt32) : word32? (ofNat i.toNat) = some i := by
  have hwithin : (0 : Int) ≤ i.toNat ∧ (i.toNat : Int) < Int.pow 2 32 :=
    ⟨Int.natCast_nonneg _, Int.ofNat_lt.2 i.toNat_lt⟩
  rw [word32?, nat32?, ofNat, intWithin?, if_pos hwithin]
  exact congrArg some UInt32.ofNat_toNat

theorem strings?_ofStrings (ss : List String) : strings? (ofStrings ss) = some ss :=
  list?_ofList fun _ _ => rfl

/-! ## The order of the names -/

theorem lookup_insertMember (k : String) (v : Json) (l : String) : ∀ ms : List (String × Json),
    (insertMember k v ms).lookup l = if l = k then some v else ms.lookup l
  | [] => lookup_cons l k v []
  | (k', w) :: ms => by
    rw [insertMember]
    by_cases hlt : k < k'
    · rw [if_pos hlt, lookup_cons]
    · rw [if_neg hlt]
      by_cases heq : k = k'
      · rw [if_pos heq, lookup_cons, lookup_cons, ← heq]
        split_ifs <;> rfl
      · rw [if_neg heq, lookup_cons, lookup_cons, lookup_insertMember k v l ms]
        by_cases hl : l = k
        · rw [if_pos hl, if_pos hl, if_neg (hl ▸ heq)]
        · rw [if_neg hl, if_neg hl]

/-- Of members with one name sorting keeps the last. -/
theorem lookup_sortMembers (l : String) (ms : List (String × Json)) :
    (sortMembers ms).lookup l = ms.reverse.lookup l := by
  induction ms using List.reverseRecOn with
  | nil => rfl
  | append_singleton ms m ih =>
    have hsort : sortMembers (ms ++ [m]) = insertMember m.1 m.2 (sortMembers ms) := List.foldl_concat _ _ _ _
    rw [hsort, lookup_insertMember, ih, List.reverse_concat, lookup_cons]

/-- Sorting does not change the object. -/
theorem hasJust_sortMembers (h : (ms.map Prod.fst).Nodup) : HasJust (sortMembers ms) ms := fun l => by
  have hreverse : (ms.reverse.map Prod.fst).Nodup := by
    rw [List.map_reverse]
    exact List.nodup_reverse.2 h
  rw [lookup_sortMembers]
  ext v
  rw [lookup_eq_some_iff hreverse, List.mem_reverse, lookup_eq_some_iff h]

theorem mem_insertMember {m : String × Json} : ∀ {ms : List (String × Json)}, m ∈ insertMember k v ms →
    m = (k, v) ∨ m ∈ ms
  | [], h => .inl (List.mem_singleton.1 h)
  | (l, w) :: ms, h => by
    unfold insertMember at h
    split_ifs at h with hlt heq
    · exact List.mem_cons.1 h
    · rcases List.mem_cons.1 h with h | h
      · exact .inl h
      · exact .inr (List.mem_cons_of_mem _ h)
    · rcases List.mem_cons.1 h with h | h
      · exact .inr (h ▸ List.mem_cons_self)
      · rcases mem_insertMember h with h | h
        · exact .inl h
        · exact .inr (List.mem_cons_of_mem _ h)

/-- The members stand in the order of their names, each name once. -/
def Ascending (ms : List (String × Json)) : Prop := ms.Pairwise fun a b => a.1 < b.1

instance (ms : List (String × Json)) : Decidable (Ascending ms) :=
  inferInstanceAs (Decidable (ms.Pairwise fun a b => a.1 < b.1))

theorem Ascending.insertMember : ∀ {ms : List (String × Json)}, Ascending ms → Ascending (insertMember k v ms)
  | [], _ => List.pairwise_singleton _ _
  | (l, w) :: ms, h => by
    obtain ⟨hl, hms⟩ := List.pairwise_cons.1 h
    unfold Json.insertMember
    split_ifs with hlt heq
    · refine List.pairwise_cons.2 ⟨fun m hm => ?_, h⟩
      rcases List.mem_cons.1 hm with rfl | hm
      · exact hlt
      · exact String.lt_trans hlt (hl m hm)
    · exact List.pairwise_cons.2 ⟨fun m hm => heq ▸ hl m hm, hms⟩
    · refine List.pairwise_cons.2 ⟨fun m hm => ?_, Ascending.insertMember hms⟩
      rcases mem_insertMember hm with rfl | hm
      · exact Std.lt_of_le_of_ne (String.not_lt.1 hlt) (Ne.symm heq)
      · exact hl m hm

theorem ascending_sortMembers (ms : List (String × Json)) : Ascending (sortMembers ms) :=
  List.foldlRecOn ms _ List.Pairwise.nil fun _ h _ _ => h.insertMember

theorem mem_sortMembers {m : String × Json} (h : m ∈ sortMembers ms) : m ∈ ms := by
  have hall : ∀ m ∈ sortMembers ms, m ∈ ms := by
    refine List.foldlRecOn (motive := fun acc => ∀ m ∈ acc, m ∈ ms) ms _ (by simp) fun acc hacc n hn m hm => ?_
    rcases mem_insertMember hm with rfl | hm
    · exact hn
    · exact hacc m hm
  exact hall m h

theorem Ascending.nodup (h : Ascending ms) : (ms.map Prod.fst).Nodup := by
  refine List.pairwise_map.2 (List.Pairwise.imp (fun {a b} hlt heq => ?_) h)
  rw [heq] at hlt
  exact String.lt_irrefl _ hlt

/-- In the order of the names an object has one list of members only. -/
theorem Ascending.eq (h : Ascending ms) (hn : Ascending ns) (he : HasJust ms ns) : ms = ns := by
  have hirrefl : Std.Irrefl fun a b : String × Json => a.1 < b.1 := ⟨fun a => String.lt_irrefl a.1⟩
  have hantisymm : Std.Antisymm fun a b : String × Json => a.1 < b.1 :=
    ⟨fun a b hab hba => absurd hab (String.lt_asymm hba)⟩
  refine List.Pairwise.eq_of_mem_iff h hn fun (k, v) => ?_
  rw [← lookup_eq_some_iff h.nodup, he k, lookup_eq_some_iff hn.nodup]

/-- Sorting drops no member. -/
theorem mem_sortMembers_iff (h : (ms.map Prod.fst).Nodup) : (k, v) ∈ sortMembers ms ↔ (k, v) ∈ ms := by
  rw [← lookup_eq_some_iff (ascending_sortMembers ms).nodup, hasJust_sortMembers h, lookup_eq_some_iff h]

theorem Ascending.eq_sortMembers (h : Ascending ms) (hnd : (fields.map Prod.fst).Nodup) (he : HasJust ms fields) :
    ms = sortMembers fields :=
  h.eq (ascending_sortMembers fields) fun k => (he k).trans (hasJust_sortMembers hnd k).symm

/-! ## Ordered values -/

/-- The members of every object in a value stand in the order of their names, each name once. -/
inductive Ordered : Json → Prop where
  | null : Ordered .null
  | bool (b : Bool) : Ordered (.bool b)
  | num (n : JsonNumber) : Ordered (.num n)
  | str (s : String) : Ordered (.str s)
  | arr {items : List Json} (h : ∀ j ∈ items, Ordered j) : Ordered (.arr items)
  | obj {ms : List (String × Json)} (hms : Ascending ms) (h : ∀ m ∈ ms, Ordered m.2) : Ordered (.obj ms)

theorem Ordered.of_arr {items : List Json} : Ordered (.arr items) → ∀ j ∈ items, Ordered j
  | .arr h => h

theorem Ordered.of_obj : Ordered (.obj ms) → Ascending ms ∧ ∀ m ∈ ms, Ordered m.2
  | .obj hms h => ⟨hms, h⟩

theorem ordered_object (h : ∀ m ∈ ms, Ordered m.2) : (object ms).Ordered :=
  .obj (ascending_sortMembers ms) fun m hm => h m (mem_sortMembers hm)

mutual

theorem ordered_of_readValue : ∀ {fuel room : Nat} {cs : List Char} {r : Json × List Char},
    readValue fuel room cs = some r → r.1.Ordered
  | fuel + 1, room, cs, r, h => by
    unfold readValue at h
    split at h
    · obtain ⟨s, -, rfl⟩ := Option.map_eq_some_iff.1 h
      exact .str _
    · split at h
      · cases h
      · cases h
        exact .arr (by simp)
      · obtain ⟨s, hs, rfl⟩ := Option.map_eq_some_iff.1 h
        exact .arr (ordered_of_readItems hs)
    · split at h
      · cases h
      · cases h
        exact .obj .nil (by simp)
      · obtain ⟨s, hs, rfl⟩ := Option.map_eq_some_iff.1 h
        exact ordered_object (ordered_of_readMembers hs)
    · obtain ⟨s, -, rfl⟩ := Option.map_eq_some_iff.1 h
      exact .bool _
    · obtain ⟨s, -, rfl⟩ := Option.map_eq_some_iff.1 h
      exact .bool _
    · obtain ⟨s, -, rfl⟩ := Option.map_eq_some_iff.1 h
      exact .null
    · obtain ⟨s, -, rfl⟩ := Option.map_eq_some_iff.1 h
      exact .num _

theorem ordered_of_readItems : ∀ {fuel room : Nat} {cs : List Char} {r : List Json × List Char},
    readItems fuel room cs = some r → ∀ j ∈ r.1, j.Ordered
  | fuel + 1, room, cs, r, h => by
    unfold readItems at h
    obtain ⟨⟨item, rest⟩, hv, h⟩ := Option.bind_eq_some_iff.1 h
    dsimp only at h
    have hitem : item.Ordered := ordered_of_readValue hv
    split at h
    · obtain ⟨s, hs, rfl⟩ := Option.map_eq_some_iff.1 h
      exact List.forall_mem_cons.2 ⟨hitem, ordered_of_readItems hs⟩
    · cases h
      exact List.forall_mem_singleton.2 hitem
    · cases h

theorem ordered_of_readMembers : ∀ {fuel room : Nat} {cs : List Char} {r : List (String × Json) × List Char},
    readMembers fuel room cs = some r → ∀ m ∈ r.1, m.2.Ordered
  | fuel + 1, room, cs, r, h => by
    unfold readMembers at h
    split at h
    · obtain ⟨⟨name, rest⟩, -, h⟩ := Option.bind_eq_some_iff.1 h
      dsimp only at h
      split at h
      · obtain ⟨⟨value, rest⟩, hv, h⟩ := Option.bind_eq_some_iff.1 h
        dsimp only at h
        have hvalue : value.Ordered := ordered_of_readValue hv
        split at h
        · obtain ⟨s, hs, rfl⟩ := Option.map_eq_some_iff.1 h
          exact List.forall_mem_cons.2 ⟨hvalue, ordered_of_readMembers hs⟩
        · cases h
          exact List.forall_mem_singleton.2 hvalue
        · cases h
      · cases h
    · cases h

end

theorem ordered_of_parse? {text : String} {j : Json} (h : parse? text = some j) : j.Ordered := by
  unfold parse? at h
  dsimp only at h
  split at h
  · next hr =>
    split_ifs at h
    cases h
    exact ordered_of_readValue hr
  · cases h

end SiteEdit.Json
