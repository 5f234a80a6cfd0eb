import SiteEdit.Proofs.Json.Members
import SiteEdit.Proofs.Json.Places
import SiteEdit.Proofs.Policy.Builtin
import Mathlib.Data.List.Perm.Basic
/-!
# Redacted values

Redaction changes the strings and the names in a value.  Of the members of an object whose names become the same it
keeps the last and drops the others, with all that is in them; nothing else changes (`Relabels`).  Every string and every
name that stands in a redacted value is a redacted text, so it is clear of personal data, and to redact the value again
changes nothing.
-/
namespace SiteEdit

namespace Json

variable {f : String → String} {m : String × Json}

/-- The members of an object without those whose new name is the new name of a later one too. -/
def undisplaced (f : String → String) : List (String × Json) → List (String × Json)
  | [] => []
  | m :: ms => if f m.1 ∈ ms.map (fun n => f n.1) then undisplaced f ms else m :: undisplaced f ms

/-- The same value but for its strings and names, which are changed by `f`.  Of members whose names become the same, the
last is kept and the others are dropped.  The members that are kept stand in the order of their new names. -/
inductive Relabels (f : String → String) : Json → Json → Prop where
  | null : Relabels f .null .null
  | bool (b : Bool) : Relabels f (.bool b) (.bool b)
  | num (n : JsonNumber) : Relabels f (.num n) (.num n)
  | str (s : String) : Relabels f (.str s) (.str (f s))
  | arr {items items' : List Json} (h : List.Forall₂ (Relabels f) items items') : Relabels f (.arr items) (.arr items')
  | obj {ms kept ms' : List (String × Json)} (hkept : kept.Perm (undisplaced f ms)) (ho : Ascending ms')
    (hnames : ms'.map Prod.fst = kept.map fun m => f m.1)
    (hvalues : List.Forall₂ (Relabels f) (kept.map Prod.snd) (ms'.map Prod.snd)) : Relabels f (.obj ms) (.obj ms')

theorem undisplaced_sublist (f : String → String) : ∀ ms : List (String × Json), (undisplaced f ms).Sublist ms
  | [] => .slnil
  | m :: ms => by
    unfold undisplaced
    split
    · exact (undisplaced_sublist f ms).cons m
    · exact (undisplaced_sublist f ms).cons_cons m

theorem nodup_undisplaced (f : String → String) : ∀ ms : List (String × Json),
    ((undisplaced f ms).map fun m => f m.1).Nodup
  | [] => .nil
  | m :: ms => by
    unfold undisplaced
    split
    · exact nodup_undisplaced f ms
    · next hm =>
      refine List.nodup_cons.2 ⟨fun h => hm ?_, nodup_undisplaced f ms⟩
      exact ((undisplaced_sublist f ms).map _).subset h

/-- No member is displaced if the new names are different. -/
theorem undisplaced_eq_self : ∀ {ms : List (String × Json)}, (ms.map fun m => f m.1).Nodup → undisplaced f ms = ms
  | [], _ => rfl
  | m :: ms, h => by
    obtain ⟨hm, hms⟩ := List.nodup_cons.1 h
    unfold undisplaced
    rw [if_neg hm, undisplaced_eq_self hms]

/-- A look-up among the members that are kept finds what a look-up from the end finds among all. -/
theorem lookup_undisplaced (g : Json → Json) (k : String) : ∀ ms : List (String × Json),
    ((undisplaced f ms).map fun m => (f m.1, g m.2)).lookup k = (ms.map fun m => (f m.1, g m.2)).reverse.lookup k
  | [] => rfl
  | m :: ms => by
    have ih := lookup_undisplaced g k ms
    rw [List.map_cons, List.reverse_cons, List.lookup_append, lookup_cons, List.lookup_nil]
    unfold undisplaced
    by_cases hm : f m.1 ∈ ms.map fun n => f n.1
    · rw [if_pos hm, ih]
      by_cases hk : k = f m.1
      · -- a later member has the same name, and is found first
        obtain ⟨n, hn, hname⟩ := List.mem_map.1 hm
        cases hl : (ms.map fun m => (f m.1, g m.2)).reverse.lookup k with
        | some v => rfl
        | none =>
          rw [List.lookup_eq_none_iff] at hl
          exact absurd (hl (f n.1, g n.2) (List.mem_reverse.2 (List.mem_map_of_mem hn))) (by simp [hk, hname])
      · rw [if_neg hk, Option.or_none]
    · rw [if_neg hm, List.map_cons, lookup_cons, ih]
      by_cases hk : k = f m.1
      · have hnone : (ms.map fun m => (f m.1, g m.2)).reverse.lookup k = none := by
          refine Store.lookup_of_notMem ?_
          rw [List.map_reverse, List.map_map, List.mem_reverse, hk]
          exact hm
        rw [if_pos hk, if_pos hk, hnone]
        rfl
      · rw [if_neg hk, if_neg hk, Option.or_none]

/-- Sorting keeps the members that are not displaced. -/
theorem sortMembers_perm (f : String → String) (g : Json → Json) (ms : List (String × Json)) :
    (sortMembers (ms.map fun m => (f m.1, g m.2))).Perm ((undisplaced f ms).map fun m => (f m.1, g m.2)) := by
  have hsorted := (ascending_sortMembers (ms.map fun m => (f m.1, g m.2))).nodup
  have hkept : (((undisplaced f ms).map fun m => (f m.1, g m.2)).map Prod.fst).Nodup := by
    rw [List.map_map]
    exact nodup_undisplaced f ms
  rw [List.perm_ext_iff_of_nodup hsorted.of_map hkept.of_map]
  intro (k, v)
  rw [← lookup_eq_some_iff hsorted, ← lookup_eq_some_iff hkept, lookup_sortMembers, lookup_undisplaced]

end Json

namespace Policy

open Json (At Relabels)

namespace Redactor

variable {r : Redactor} {j inner : Json} {path : List Json.Step} {t k : String}

/-! ## Lists and objects -/

theorem redactItems_eq_map (r : Redactor) : ∀ items : List Json, r.redactItems items = items.map r.redactJson
  | [] => rfl
  | j :: items => congrArg (r.redactJson j :: ·) (redactItems_eq_map r items)

theorem redactMembers_eq_map (r : Redactor) : ∀ ms : List (String × Json),
    r.redactMembers ms = ms.map fun m => (r.redactText m.1, r.redactJson m.2)
  | [] => rfl
  | (k, j) :: ms => congrArg ((r.redactText k, r.redactJson j) :: ·) (redactMembers_eq_map r ms)

theorem redactJson_arr (r : Redactor) (items : List Json) :
    r.redactJson (.arr items) = .arr (items.map r.redactJson) := by
  rw [redactJson, redactItems_eq_map]

theorem redactJson_obj (r : Redactor) (ms : List (String × Json)) : r.redactJson (.obj ms) =
    .obj (Json.sortMembers (ms.map fun m => (r.redactText m.1, r.redactJson m.2))) := by
  rw [redactJson, redactMembers_eq_map, Json.object]

/-- The members of a redacted object are those that are not displaced. -/
theorem exists_redactJson_obj (r : Redactor) (ms : List (String × Json)) :
    ∃ kept : List (String × Json), kept.Perm (Json.undisplaced r.redactText ms) ∧
      r.redactJson (.obj ms) = .obj (kept.map fun m => (r.redactText m.1, r.redactJson m.2)) := by
  have hcomp := congrFun₂ (List.eq_map_comp_perm fun m : String × Json => (r.redactText m.1, r.redactJson m.2))
  obtain ⟨kept, hsorted, hkept⟩ := (hcomp _ _).mpr (Json.sortMembers_perm r.redactText r.redactJson ms)
  exact ⟨kept, hkept, by rw [redactJson_obj, hsorted]⟩

theorem relabels_redactJson (r : Redactor) (j : Json) : Relabels r.redactText j (r.redactJson j) := by
  induction j using Json.inductOn with
  | null => exact .null
  | bool b => exact .bool b
  | num n => exact .num n
  | str s => exact .str s
  | arr items ih =>
    rw [redactJson_arr]
    refine .arr (List.forall₂_map_right_iff.2 (List.forall₂_same.2 ih))
  | obj ms ih =>
    obtain ⟨kept, hkept, hobj⟩ := exists_redactJson_obj r ms
    have hascending := Json.ascending_sortMembers (ms.map fun m => (r.redactText m.1, r.redactJson m.2))
    rw [Json.obj.inj ((redactJson_obj r ms).symm.trans hobj)] at hascending
    rw [hobj]
    refine .obj hkept hascending ?_ ?_
    · rw [List.map_map]
      rfl
    · rw [List.map_map, List.forall₂_map_left_iff, List.forall₂_map_right_iff, List.forall₂_same]
      exact fun m hm => ih m ((Json.undisplaced_sublist _ ms).subset (hkept.subset hm))

/-! ## Reading a redacted value -/

/-- The members of a redacted object stand under their own names, if redaction leaves these as they are. -/
theorem get?_redactJson_object {ms : List (String × Json)} (hnames : ∀ m ∈ ms, r.redactText m.1 = m.1) (k : String) :
    (r.redactJson (Json.object ms)).get? k = (ms.reverse.lookup k).map r.redactJson := by
  have hkept : (Json.sortMembers ms).map (fun m => (r.redactText m.1, r.redactJson m.2)) =
      (Json.sortMembers ms).map fun m => (m.1, r.redactJson m.2) :=
    List.map_congr_left fun m hm => by rw [hnames m (Json.mem_sortMembers hm)]
  have hnodup : (((Json.sortMembers ms).map fun m => (m.1, r.redactJson m.2)).map Prod.fst).Nodup := by
    rw [List.map_map]
    exact (Json.ascending_sortMembers ms).nodup
  rw [Json.object, redactJson_obj, hkept, Json.get?, Json.hasJust_sortMembers hnodup, Json.lookup_map_value,
    Json.lookup_sortMembers]

theorem redactJson_str_eq_self_iff : r.redactJson (.str t) = .str t ↔ r.redactText t = t := by
  rw [redactJson, Json.str.injEq]

theorem redactJson_ofStrings_eq_self_iff {ss : List String} :
    r.redactJson (Json.ofStrings ss) = Json.ofStrings ss ↔ ∀ s ∈ ss, r.redactText s = s := by
  rw [Json.ofStrings, Json.ofList, redactJson_arr, List.map_map, Json.arr.injEq, List.map_inj_left]
  exact forall₂_congr fun s _ => redactJson_str_eq_self_iff

theorem strings?_redactJson {ids : List String} (h : ∀ x ∈ ids, r.redactText x = x) :
    (r.redactJson (Json.ofStrings ids)).strings? = some ids := by
  rw [redactJson_ofStrings_eq_self_iff.2 h]
  exact Json.list?_ofList fun _ _ => rfl

/-! ## What stands in a redacted value -/

/-- What stands in a redacted value is redacted itself. -/
theorem of_at_redactJson : ∀ (j : Json) {path : List Json.Step} {inner : Json}, At path (r.redactJson j) inner →
    ∃ path' inner', At path' j inner' ∧ inner = r.redactJson inner' := by
  intro j
  induction j using Json.inductOn with
  | null | bool | num | str =>
    intro path inner h
    cases h
    exact ⟨[], _, .here _, rfl⟩
  | arr items ih =>
    intro path inner h
    rw [redactJson_arr] at h
    cases h with
    | here => exact ⟨[], _, .here _, (redactJson_arr r items).symm⟩
    | item hi h =>
      obtain ⟨j, hj, rfl⟩ := Json.getElem?_map_eq_some_iff.1 hi
      obtain ⟨path', inner', hat, rfl⟩ := ih j (List.mem_of_getElem? hj) h
      exact ⟨_, inner', .item hj hat, rfl⟩
  | obj ms ih =>
    intro path inner h
    rw [redactJson_obj] at h
    cases h with
    | here => exact ⟨[], _, .here _, (redactJson_obj r ms).symm⟩
    | member hm h =>
      obtain ⟨⟨k, v⟩, hmem, he⟩ := List.mem_map.1 (Json.mem_sortMembers hm)
      cases he
      obtain ⟨path', inner', hat, rfl⟩ := ih (k, v) hmem h
      exact ⟨_, inner', .member hmem hat, rfl⟩

theorem stringAt_redactJson (h : (r.redactJson j).StringAt path t) : ∃ s, t = r.redactText s := by
  obtain ⟨path', inner, -, he⟩ := of_at_redactJson j h
  cases inner with
  | str s => exact ⟨s, Json.str.inj he⟩
  | arr items =>
    rw [redactJson_arr] at he
    cases he
  | obj ms =>
    rw [redactJson_obj] at he
    cases he
  | _ => cases he

theorem nameAt_redactJson (h : (r.redactJson j).NameAt path k) : ∃ s, k = r.redactText s := by
  obtain ⟨ms, v, h, hm⟩ := h
  obtain ⟨path', inner, -, he⟩ := of_at_redactJson j h
  cases inner with
  | obj ms' =>
    rw [redactJson_obj] at he
    cases he
    obtain ⟨m, -, he⟩ := List.mem_map.1 (Json.mem_sortMembers hm)
    cases he
    exact ⟨m.1, rfl⟩
  | arr items =>
    rw [redactJson_arr] at he
    cases he
  | _ => cases he

/-! ## Redacting again -/

theorem redactText_redactText (h : Tame r.rules) (t : String) : r.redactText (r.redactText t) = r.redactText t := by
  unfold redactText
  rw [redact_of_clear r (r.redact t).text (redact_clear r t h)]

theorem redactJson_redactJson (h : Tame r.rules) (j : Json) : r.redactJson (r.redactJson j) = r.redactJson j := by
  induction j using Json.inductOn with
  | null | bool | num => rfl
  | str s => exact congrArg Json.str (redactText_redactText h s)
  | arr items ih =>
    rw [redactJson_arr, redactJson_arr, List.map_map]
    exact congrArg Json.arr (List.map_congr_left ih)
  | obj ms ih =>
    -- The members are in order already, and each is left as it is.
    have hascending := Json.ascending_sortMembers (ms.map fun m => (r.redactText m.1, r.redactJson m.2))
    have hkept : (Json.sortMembers (ms.map fun m => (r.redactText m.1, r.redactJson m.2))).map
        (fun m => (r.redactText m.1, r.redactJson m.2)) =
        Json.sortMembers (ms.map fun m => (r.redactText m.1, r.redactJson m.2)) := by
      refine (List.map_congr_left fun m hm => ?_).trans (List.map_id _)
      obtain ⟨n, hn, rfl⟩ := List.mem_map.1 (Json.mem_sortMembers hm)
      exact Prod.ext (redactText_redactText h n.1) (ih n hn)
    rw [redactJson_obj, redactJson_obj, hkept, ← hascending.eq_sortMembers hascending.nodup fun _ => rfl]

end Redactor

/-! ## Personal data -/

/-- No part of a text is matched by a built-in rule. -/
def Impersonal (t : String) : Prop :=
  ∀ rule ∈ Tables.builtinPersonal, ∃ p, Pattern.read? rule.pattern = some p ∧ p.Clear t.toList

/-- No string and no name in a value has personal data. -/
structure Scrubbed (j : Json) : Prop where
  strings : ∀ path t, j.StringAt path t → Impersonal t
  names : ∀ path k, j.NameAt path k → Impersonal k

theorem impersonal_redactText (t : String) : Impersonal (Redactor.builtin.redactText t) := fun rule hrule => by
  obtain ⟨p, hp, hmem⟩ := exists_builtin_pattern hrule
  exact ⟨p, hp, Redactor.redact_clear _ t builtin_tame _ hmem⟩

theorem scrubbed_redactJson (j : Json) : Scrubbed (Redactor.builtin.redactJson j) where
  strings path t h := by
    obtain ⟨s, rfl⟩ := Redactor.stringAt_redactJson h
    exact impersonal_redactText s
  names path k h := by
    obtain ⟨s, rfl⟩ := Redactor.nameAt_redactJson h
    exact impersonal_redactText s

end Policy

end SiteEdit
