import SiteEdit.Proofs.Document.Decoding
/-!
# Documents and their values

What is read from an object is nothing else than what stands in it: no member is passed over, none is made up and none
is bent to the kind that is wanted.  So among ordered values with objects for changes, reading and writing are inverse
to each other.
-/
namespace SiteEdit

open Json (HasJust hasJust_iff Ordered)

variable {ms fields : List (String × Json)} {j v : Json}

/-! ## What was read -/

namespace Json

theorem asString?_eq_some {s : String} (h : asString? j = some s) : j = .str s := by
  unfold asString? at h
  split at h
  · cases h
    rfl
  · cases h

theorem bool?_eq_some {b : Bool} (h : bool? j = some b) : j = .bool b := by
  unfold bool? at h
  split at h
  · cases h
    rfl
  · cases h

theorem intWithin?_eq_some {lo hi n : Int} (h : intWithin? lo hi j = some n) : j = ofInt n ∧ lo ≤ n ∧ n < hi := by
  unfold intWithin? at h
  split at h
  · split_ifs at h with hn
    cases h
    exact ⟨rfl, hn⟩
  · cases h

/-- No sign is dropped and nothing is cut off. -/
theorem word32?_eq_some {i : UInt32} (h : word32? j = some i) : j = ofNat i.toNat := by
  unfold word32? nat32? at h
  rw [Option.map_map] at h
  obtain ⟨n, hn, rfl⟩ := Option.map_eq_some_iff.1 h
  obtain ⟨rfl, h0, hlt⟩ := intWithin?_eq_some hn
  obtain ⟨m, rfl⟩ := Int.eq_ofNat_of_zero_le h0
  have hsize : m < UInt32.size := Int.ofNat_lt.1 hlt
  have hword : (UInt32.ofNat m).toNat = m := UInt32.toNat_ofNat_of_lt' hsize
  rw [Function.comp_apply, Int.toNat_natCast, hword]
  rfl

theorem map_eq_of_mapM {α : Type} {read : Json → Option α} {write : α → Json} : ∀ {items : List Json} {as : List α},
    (∀ j ∈ items, ∀ a, read j = some a → write a = j) → items.mapM read = some as → as.map write = items
  | [], _, _, h => by
    cases h
    rfl
  | j :: items, as, hr, h => by
    rw [List.mapM_cons] at h
    obtain ⟨a, ha, h⟩ := Option.bind_eq_some_iff.1 h
    obtain ⟨rest, hrest, h⟩ := Option.bind_eq_some_iff.1 h
    cases h
    rw [List.forall_mem_cons] at hr
    rw [List.map_cons, hr.1 a ha, map_eq_of_mapM hr.2 hrest]

theorem list?_eq_some {α : Type} {read : Json → Option α} {as : List α} (h : list? read j = some as) :
    ∃ items, j = .arr items ∧ items.mapM read = some as := by
  unfold list? at h
  split at h
  · exact ⟨_, rfl, h⟩
  · cases h

theorem Fields.get_eq_some {α : Type} {f : Fields} {name : String} {read : Json → Option α} {a : α}
    (h : f.get name read = some a) (hr : ∀ j, read j = some a → j = v) : f.members.lookup name = some v := by
  obtain ⟨j, hj, ha⟩ := Option.bind_eq_some_iff.1 h
  rw [hj, hr j ha]

theorem Fields.get_string {f : Fields} {name s : String} (h : f.get name asString? = some s) :
    f.members.lookup name = some (.str s) :=
  get_eq_some h fun _ => asString?_eq_some

/-- A closed record is the object it was read from, and all its members are fields. -/
theorem closedFields?_obj {names : List String} {f : Fields} (h : closedFields? names (.obj ms) = some f) :
    f = { members := ms, byPosition := false } ∧ ∀ m ∈ ms, m.1 ∈ names := by
  unfold closedFields? fields? at h
  rw [Option.bind_some] at h
  split_ifs at h with hall
  cases h
  exact ⟨rfl, fun m hm => List.contains_iff_mem.1 (List.all_eq_true.1 hall m hm)⟩

/-- A variant is named by the member that is its tag, and all other members are left. -/
theorem tagged?_obj {tag name : String} {rest : Json} (h : tagged? tag (.obj ms) = some (name, rest)) :
    ms.lookup tag = some (.str name) ∧ rest = .obj (ms.filter fun m => m.1 != tag) := by
  obtain ⟨⟨t, j⟩, ht, h⟩ := Option.bind_eq_some_iff.1 h
  obtain ⟨t, hlookup, ht⟩ := Option.map_eq_some_iff.1 ht
  cases ht
  obtain ⟨s, hs, h⟩ := Option.map_eq_some_iff.1 h
  cases h
  have htag : t = .str name := asString?_eq_some hs
  exact ⟨htag ▸ hlookup, rfl⟩

/-- With the tag put back. -/
theorem hasJust_of_filter {tag : String} (ht : ms.lookup tag = some v)
    (hr : HasJust (ms.filter fun m => m.1 != tag) fields) : HasJust ms ((tag, v) :: fields) := fun k => by
  rw [lookup_cons, ← hr k, lookup_filter_ne]
  split_ifs with hk
  · rw [hk, ht]
  · rfl

end Json

/-! ## Changes -/

theorem Operation.name_of_ofName? {op : Operation} {name : String} (h : ofName? name = some op) : op.name = name := by
  have hname := List.find?_some h
  exact eq_of_beq hname

namespace Change

/-- What is read from the fields of an operation is a change of that operation with these members. -/
theorem hasJust_of_ofFields? {op : Operation} {c : Change} (h : ofFields? op (.obj ms) = some c) :
    c.op = op ∧ HasJust ms c.members := by
  -- the names and the look-ups of each operation; that there are no other members is the same for all of them
  have hrecord : c.op = op ∧ (∀ m ∈ ms, m.1 ∈ c.members.map Prod.fst) ∧
      ∀ f ∈ c.members, ms.lookup f.1 = some f.2 := by
    cases op <;> simp only [ofFields?, Option.bind_eq_bind, Option.bind_eq_some_iff] at h
    case setText =>
      obtain ⟨f, hf, selector, hs, text, ht, h⟩ := h
      obtain ⟨rfl, hnames⟩ := Json.closedFields?_obj hf
      cases h
      have hselector := Json.Fields.get_string hs
      have htext := Json.Fields.get_string ht
      exact ⟨rfl, hnames, by simp [members, hselector, htext]⟩
    case setStyleVar =>
      obtain ⟨f, hf, selector, hs, var, hr, value, hv, h⟩ := h
      obtain ⟨rfl, hnames⟩ := Json.closedFields?_obj hf
      cases h
      have hselector := Json.Fields.get_string hs
      have hvar := Json.Fields.get_string hr
      have hvalue := Json.Fields.get_string hv
      exact ⟨rfl, hnames, by simp [members, hselector, hvar, hvalue]⟩
    case toggle =>
      obtain ⟨f, hf, selector, hs, visible, hv, h⟩ := h
      obtain ⟨rfl, hnames⟩ := Json.closedFields?_obj hf
      cases h
      have hselector := Json.Fields.get_string hs
      have hvisible := Json.Fields.get_eq_some hv fun _ => Json.bool?_eq_some
      exact ⟨rfl, hnames, by simp [members, hselector, hvisible]⟩
    case reorder =>
      obtain ⟨f, hf, selector, hs, order, ho, h⟩ := h
      obtain ⟨rfl, hnames⟩ := Json.closedFields?_obj hf
      cases h
      have hselector := Json.Fields.get_string hs
      have horder : ms.lookup "order" = some (Json.ofList (fun i : UInt32 => Json.ofNat i.toNat) order) := by
        refine Json.Fields.get_eq_some ho fun j hj => ?_
        obtain ⟨items, rfl, hitems⟩ := Json.list?_eq_some hj
        exact congrArg Json.arr (Json.map_eq_of_mapM (fun _ _ _ hi => (Json.word32?_eq_some hi).symm) hitems).symm
      exact ⟨rfl, hnames, by simp [members, hselector, horder]⟩
    case setProp =>
      obtain ⟨f, hf, selector, hs, prop, hp, value, hv, h⟩ := h
      obtain ⟨rfl, hnames⟩ := Json.closedFields?_obj hf
      cases h
      have hselector := Json.Fields.get_string hs
      have hprop := Json.Fields.get_string hp
      have hvalue := Json.Fields.get_eq_some hv fun _ => Option.some.inj
      exact ⟨rfl, hnames, by simp [members, hselector, hprop, hvalue]⟩
  obtain ⟨hop, hnames, hfields⟩ := hrecord
  exact ⟨hop, (hasJust_iff c.entries_nodup.of_cons).2 ⟨hfields, hnames⟩⟩

theorem hasJust_of_ofValue? {c : Change} (h : ofValue? (.obj ms) = some c) :
    HasJust ms (("op", .str c.op.name) :: c.members) := by
  obtain ⟨⟨name, rest⟩, ht, h⟩ := Option.bind_eq_some_iff.1 h
  obtain ⟨op, hname, h⟩ := Option.bind_eq_some_iff.1 h
  obtain ⟨htag, rfl⟩ := Json.tagged?_obj ht
  obtain ⟨rfl, hr⟩ := hasJust_of_ofFields? h
  rw [Operation.name_of_ofName? hname]
  exact Json.hasJust_of_filter htag hr

/-- A change that was read from an ordered object is written as that object. -/
theorem toValue_of_ofValue? {c : Change} (ho : (Json.obj ms).Ordered) (h : ofValue? (.obj ms) = some c) :
    c.toValue = .obj ms :=
  congrArg Json.obj (ho.of_obj.1.eq_sortMembers c.entries_nodup (hasJust_of_ofValue? h)).symm

end Change

/-! ## Documents -/

namespace Document

theorem toValue_of_ofValue? {d : Document} (ho : (Json.obj ms).Ordered)
    (hc : ∀ items, ms.lookup "changes" = some (.arr items) → ∀ j ∈ items, ∃ cs, j = .obj cs)
    (h : ofValue? (.obj ms) = some d) : d.toValue = .obj ms := by
  simp only [ofValue?, Option.bind_eq_bind, Option.bind_eq_some_iff] at h
  obtain ⟨f, hf, version, hv, changes, hs, h⟩ := h
  obtain ⟨rfl, hnames⟩ := Json.closedFields?_obj hf
  cases h
  obtain ⟨hasc, hvalues⟩ := ho.of_obj
  have hversion : ms.lookup "version" = some (.str version) := Json.Fields.get_string hv
  obtain ⟨j, hlookup, hj⟩ := Option.bind_eq_some_iff.1 hs
  dsimp only at hlookup
  obtain ⟨items, rfl, hitems⟩ := Json.list?_eq_some hj
  have hordered : ∀ j ∈ items, j.Ordered := (hvalues _ ((Json.lookup_eq_some_iff hasc.nodup).1 hlookup)).of_arr
  have hwritten : changes.map Change.toValue = items := by
    refine Json.map_eq_of_mapM (fun j hmem c hread => ?_) hitems
    obtain ⟨cs, rfl⟩ := hc items hlookup j hmem
    exact Change.toValue_of_ofValue? (hordered _ hmem) hread
  have hjust : HasJust ms [("changes", .arr items), ("version", .str version)] := by
    refine (hasJust_iff (by simp)).2 ⟨by simp [hlookup, hversion], fun m hm => ?_⟩
    have hname := hnames m hm
    simp only [List.mem_cons, List.not_mem_nil, or_false, List.map_cons, List.map_nil] at hname ⊢
    exact hname.symm
  have hlt : "changes" < "version" := by decide
  have hascending : Json.Ascending [("changes", .arr items), ("version", .str version)] := List.pairwise_pair.2 hlt
  rw [hasc.eq hascending hjust, ← hwritten]
  rfl

/-- **Reading and writing documents are inverse.**  Every document is read back from its value, and an ordered object
whose changes are objects is read as a document exactly if it is the value of that document. -/
theorem ofValue?_inverse :
    (∀ d : Document, ofValue? d.toValue = some d) ∧
      ∀ ms, (Json.obj ms).Ordered →
        (∀ items, ms.lookup "changes" = some (.arr items) → ∀ j ∈ items, ∃ cs, j = .obj cs) →
          ∀ d : Document, ofValue? (.obj ms) = some d ↔ d.toValue = .obj ms := by
  refine ⟨ofValue?_toValue, fun ms ho hc d => ⟨toValue_of_ofValue? ho hc, fun h => ?_⟩⟩
  rw [← h]
  exact d.ofValue?_toValue

theorem ofValue?_inverse_setProp :
    let payload : Json := .obj [("layers", .arr [.null, Json.ofInt (-3), .obj [("on", .bool true)]])]
    let ms : List (String × Json) := [("changes", .arr [.obj [("op", .str "set_prop"), ("prop", .str "shadow"),
      ("selector", .str ".menu"), ("value", payload)]]), ("version", .str "2.0")]
    (Json.obj ms).Ordered ∧ (∀ items, ms.lookup "changes" = some (.arr items) → ∀ j ∈ items, ∃ cs, j = .obj cs) ∧
      ofValue? (.obj ms) = some { version := "2.0", changes := [.setProp ".menu" "shadow" payload] } ∧
      toValue { version := "2.0", changes := [.setProp ".menu" "shadow" payload] } = .obj ms := by
  intro payload ms
  have hinner : Ordered (.obj [("on", .bool true)]) := .obj (by decide) (by simp [Ordered.bool])
  have hlayers : Ordered (.arr [.null, Json.ofInt (-3), .obj [("on", .bool true)]]) :=
    .arr (by simp [Ordered.null, Json.ofInt, Ordered.num, hinner])
  have hpayload : payload.Ordered := .obj (by decide) (by simp [hlayers])
  have hchange : Ordered (.obj [("op", .str "set_prop"), ("prop", .str "shadow"), ("selector", .str ".menu"),
      ("value", payload)]) := .obj (by decide) (by simp [Ordered.str, hpayload])
  have ho : (Json.obj ms).Ordered := .obj (by decide) (by simp [ms, Ordered.str, Ordered.arr, hchange])
  have hc : ∀ items, ms.lookup "changes" = some (.arr items) → ∀ j ∈ items, ∃ cs, j = .obj cs := by
    simp [ms]
  have hread : ofValue? (.obj ms) = some { version := "2.0", changes := [.setProp ".menu" "shadow" payload] } := rfl
  exact ⟨ho, hc, hread, (ofValue?_inverse.2 ms ho hc _).1 hread⟩

/-- A change that is a list of its operation and fields is read as well, but written as an object. -/
example : (ofValue? (.obj [("changes", .arr [.arr [.str "toggle", .str ".menu", .bool true]]),
    ("version", .str "1.0")])).map Document.changes = some [.toggle ".menu" true] := by
  rfl

end Document

end SiteEdit
