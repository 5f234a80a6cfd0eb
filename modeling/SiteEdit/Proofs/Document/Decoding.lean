import SiteEdit.Proofs.Document.Grammar
import Mathlib.Data.Set.List
/-!
# Reading documents

A document is read back from its value.  In an ordered value, what the schema accepts is the value of a document, so
the reader that comes after the schema refuses nothing.
-/
namespace SiteEdit

open Json (HasJust hasJust_iff hasJust_sortMembers Ordered)

variable {ms : List (String × Json)} {j : Json}

/-! ## Changes -/

namespace Change

theorem members_keys (c : Change) : c.members.map Prod.fst = (Schema.fieldsOf c.op).map Prod.fst := by
  cases c <;> rfl

theorem entries_nodup (c : Change) : ((("op", Json.str c.op.name) :: c.members).map Prod.fst).Nodup :=
  Schema.keys_nodup c.members_keys

theorem ofFields?_of_hasJust {c : Change} (h : HasJust ms c.members) : ofFields? c.op (.obj ms) = some c := by
  have hfields : ∀ names, names = c.members.map Prod.fst →
      Json.closedFields? names (.obj ms) = some { members := ms, byPosition := false } := by
    rintro _ rfl
    exact Json.closedFields?_of_hasJust h c.entries_nodup.of_cons
  have horder : ∀ order : List UInt32,
      Json.list? Json.word32? (Json.ofList (fun i => Json.ofNat i.toNat) order) = some order := fun order =>
    Json.list?_ofList fun i _ => Json.word32?_ofNat i
  cases c <;>
    simp [ofFields?, op, hfields, Json.Fields.get, h _, members, Json.lookup_cons, Json.asString?, Json.bool?, horder]

theorem ofValue?_of_hasJust {c : Change} (h : HasJust ms (("op", .str c.op.name) :: c.members)) :
    ofValue? (.obj ms) = some c := by
  obtain ⟨rest, ht, hr⟩ := Json.tagged?_of_hasJust h (List.nodup_cons.1 c.entries_nodup).1
  rw [ofValue?, ht, Option.bind_some]
  dsimp only
  rw [Operation.ofName?_name, Option.bind_some, ofFields?_of_hasJust hr]

theorem ofValue?_toValue (c : Change) : ofValue? c.toValue = some c :=
  ofValue?_of_hasJust (hasJust_sortMembers c.entries_nodup)

end Change

/-- A change of the grammar has the entries of a change. -/
theorem Schema.IsChange.exists_entries (h : IsChange j) :
    ∃ (ms : List (String × Json)) (c : Change), j = .obj ms ∧ HasJust ms (("op", .str c.op.name) :: c.members) := by
  cases h with
  | setText hms hs ht => exact ⟨_, .setText _ _, rfl, hms⟩
  | setStyleVar hms hs hr hv => exact ⟨_, .setStyleVar _ _ _, rfl, hms⟩
  | toggle hms hs => exact ⟨_, .toggle _ _, rfl, hms⟩
  | @reorder ms selector order hms hs ho hi =>
    have hrange : order ∈ Set.range (List.map fun i : UInt32 => Json.ofNat i.toNat) := by
      rw [Set.range_list_map]
      intro j hj
      obtain ⟨n, rfl, h0, h49⟩ := hi j hj
      obtain ⟨m, rfl⟩ := Int.eq_ofNat_of_zero_le h0
      have hlt : m < UInt32.size := (Int.ofNat_le.1 h49).trans_lt (by decide)
      exact ⟨UInt32.ofNat m, congrArg Json.ofNat (UInt32.toNat_ofNat_of_lt' hlt)⟩
    obtain ⟨indices, rfl⟩ := hrange
    exact ⟨ms, .reorder selector indices, rfl, hms⟩
  | setProp hms hs hp => exact ⟨_, .setProp _ _ _, rfl, hms⟩

theorem Schema.IsChange.exists_toValue (h : IsChange j) (ho : j.Ordered) : ∃ c : Change, c.toValue = j := by
  obtain ⟨ms, c, rfl, hms⟩ := h.exists_entries
  exact ⟨c, congrArg Json.obj (ho.of_obj.1.eq_sortMembers c.entries_nodup hms).symm⟩

/-! ## Documents -/

theorem Document.ofValue?_toValue (d : Document) : ofValue? d.toValue = some d := by
  have hchanges : Json.list? Change.ofValue? (Json.ofList Change.toValue d.changes) = some d.changes :=
    Json.list?_ofList fun c _ => c.ofValue?_toValue
  simp [ofValue?, toValue, Json.closedFields?, Json.fields?, Json.Fields.get, Json.lookup_cons, Json.asString?,
    hchanges]

theorem Schema.isDocument_toValue {d : Document} (hv : d.version = "1.0") (hl : 1 ≤ d.changes.length)
    (hu : d.changes.length ≤ 20) (hc : ∀ c ∈ d.changes, IsChange c.toValue) : IsDocument d.toValue := by
  have hms : HasJust [("changes", Json.ofList Change.toValue d.changes), ("version", .str d.version)]
      [("version", .str "1.0"), ("changes", .arr (d.changes.map Change.toValue))] := by
    refine (hasJust_iff (by simp)).2 ⟨?_, by simp⟩
    simp [Json.lookup_cons, Json.ofList, hv]
  refine .mk hms ?_ ?_ (List.forall_mem_map.2 hc)
  · rwa [List.length_map]
  · rwa [List.length_map]

theorem Schema.IsDocument.of_toValue {d : Document} (h : IsDocument d.toValue) :
    d.version = "1.0" ∧ ∀ c ∈ d.changes, IsChange c.toValue := by
  generalize hj : d.toValue = j at h
  obtain @⟨ms, changes, hms, -, -, hc⟩ := h
  cases hj
  have hversion : some (Json.str d.version) = some (.str "1.0") := hms "version"
  have hchanges : some (Json.arr (d.changes.map Change.toValue)) = some (.arr changes) := hms "changes"
  simp only [Option.some.injEq, Json.str.injEq, Json.arr.injEq] at hversion hchanges
  exact ⟨hversion, List.forall_mem_map.1 (hchanges ▸ hc)⟩

theorem Schema.IsDocument.exists_toValue (h : IsDocument j) (ho : j.Ordered) : ∃ d : Document, d.toValue = j := by
  obtain @⟨ms, changes, hms, -, -, hc⟩ := h
  obtain ⟨hasc, hvalues⟩ := ho.of_obj
  have hchanges : ∀ c ∈ changes, c.Ordered :=
    (hvalues _ ((Json.lookup_eq_some_iff hasc.nodup).1 (hms "changes"))).of_arr
  have hrange : changes ∈ Set.range (List.map Change.toValue) := by
    rw [Set.range_list_map]
    exact fun c hmem => (hc c hmem).exists_toValue (hchanges c hmem)
  obtain ⟨cs, rfl⟩ := hrange
  have hlt : "changes" < "version" := by decide
  have hsorted : Json.sortMembers [("version", .str "1.0"), ("changes", .arr (cs.map Change.toValue))] =
      [("changes", .arr (cs.map Change.toValue)), ("version", .str "1.0")] := if_pos hlt
  rw [hasc.eq_sortMembers (by simp) hms, hsorted]
  exact ⟨{ version := "1.0", changes := cs }, rfl⟩

namespace Schema

/-- **What is valid can be read.**  An ordered value that is valid is the value of the document that is read from it;
for any other the report of the schema is returned. -/
theorem intoDocument_agrees (ho : j.Ordered) :
    ((validate j).valid = true → ∃ d, Document.ofValue? j = some d ∧ d.toValue = j ∧
        (validateDocument d).valid = true ∧ intoDocument j = .ok d) ∧
      ((∃ d, intoDocument j = .ok d) ↔ (validate j).valid = true) ∧
      ∀ report, intoDocument j = .error report → report = validate j := by
  have hok : (validate j).valid = true → ∃ d, Document.ofValue? j = some d ∧ d.toValue = j ∧
      (validateDocument d).valid = true ∧ intoDocument j = .ok d := by
    intro h
    obtain ⟨d, rfl⟩ := (isDocument_of_valid h).exists_toValue ho
    refine ⟨d, d.ofValue?_toValue, rfl, h, ?_⟩
    rw [intoDocument, if_pos h, d.ofValue?_toValue]
  have herror : ¬(validate j).valid = true → intoDocument j = .error (validate j) := fun h => if_neg h
  refine ⟨hok, ⟨fun ⟨d, hd⟩ => ?_, fun h => ?_⟩, fun report hr => ?_⟩
  · by_contra h
    rw [herror h] at hd
    cases hd
  · obtain ⟨d, -, -, -, hd⟩ := hok h
    exact ⟨d, hd⟩
  · have h : ¬(validate j).valid = true := fun h => by
      obtain ⟨d, -, -, -, hd⟩ := hok h
      rw [hd] at hr
      cases hr
    rw [herror h] at hr
    exact (Except.error.inj hr).symm

theorem intoDocument_agrees_reorder :
    let j := Json.obj [("changes", .arr [.obj [("op", .str "reorder"), ("order", .arr [Json.ofNat 1, Json.ofNat 0]),
      ("selector", .str ".menu")]]), ("version", .str "1.0")]
    j.Ordered ∧ (validate j).valid = true ∧ ∃ d, d.toValue = j ∧ intoDocument j = .ok d := by
  intro j
  have horder : Ordered (.arr [Json.ofNat 1, Json.ofNat 0]) := .arr (by simp [Json.ofNat, Ordered.num])
  have hchange : Ordered (.obj [("op", .str "reorder"), ("order", .arr [Json.ofNat 1, Json.ofNat 0]),
      ("selector", .str ".menu")]) := .obj (by decide) (by simp [horder, Ordered.str])
  have ho : j.Ordered := .obj (by decide) (by simp [Ordered.str, Ordered.arr, hchange])
  have hv : (validate j).valid = true := by decide
  obtain ⟨d, -, hd, -, hok⟩ := (intoDocument_agrees ho).1 hv
  exact ⟨ho, hv, d, hd, hok⟩

end Schema

end SiteEdit
