import SiteEdit.Document.Schema
import SiteEdit.Proofs.Json.Members
/-!
# The grammar of documents

The schema lists faults.  A value without faults is one of the grammar that stands here: `IsSelector`, `IsStyleVar`
and `IsStyleValue` for the written forms, `IsProperty` for properties and their values, `IsChange` and `IsDocument`
for the objects.
-/
namespace SiteEdit

theorem Operation.ofName?_eq_some_iff {s : String} {op : Operation} : ofName? s = some op ↔ s = op.name := by
  refine ⟨fun h => ?_, fun h => h ▸ ofName?_name op⟩
  have hname := List.find?_some h
  simpa using (beq_iff_eq.1 hname).symm

namespace Schema

open Json (HasJust hasJust_iff)

variable {j : Json} {s path : String} {ms : List (String × Json)}

/-! ## Written forms -/

/-- An id or a class, or the name of an element. -/
def IsSelector (s : String) : Prop :=
  s.length ≤ 64 ∧
    ((∃ mark first rest, s.toList = mark :: first :: rest ∧ (mark = '#' ∨ mark = '.') ∧ first.isAlpha ∧
        ∀ c ∈ rest, c.isAlphanum ∨ c = '_' ∨ c = '-') ∨
      ∃ first rest, s.toList = first :: rest ∧ first.isLower ∧ rest.length ≤ 15 ∧ ∀ c ∈ rest, c.isLower ∨ c.isDigit)

/-- The name of a style variable. -/
def IsStyleVar (s : String) : Prop :=
  s.length ≤ 64 ∧ ∃ first rest, s.toList = '-' :: '-' :: first :: rest ∧ first.isLower ∧
    ∀ c ∈ rest, c.isLower ∨ c.isDigit ∨ c = '-'

/-- The value of a style variable. -/
def IsStyleValue (s : String) : Prop :=
  1 ≤ s.length ∧ s.length ≤ 64 ∧ ∀ c ∈ s.toList, c.isAlphanum ∨ c = '#' ∨ c = '%' ∨ c = '.' ∨ c = ' ' ∨ c = '-'

/-- A whole number between two bounds, both included. -/
def IsWhole (low high : Int) (j : Json) : Prop := ∃ n : Int, j = .num (.int n) ∧ low ≤ n ∧ n ≤ high

/-- A property and a value that it takes. -/
inductive IsProperty : String → Json → Prop where
  | opacity {value : Json} (h : IsWhole 0 100 value) : IsProperty "opacity" value
  | fontSize {value : Json} (h : IsWhole 10 72 value) : IsProperty "font_size" value
  | fontWeight {word : String} (h : word ∈ ["normal", "bold", "lighter", "bolder", "400", "700"]) :
    IsProperty "font_weight" (.str word)
  | borderRadius {value : Json} (h : IsWhole 0 48 value) : IsProperty "border_radius" value
  | textAlign {word : String} (h : word ∈ ["left", "center", "right", "justify"]) :
    IsProperty "text_align" (.str word)

/-! ## Changes and documents -/

/-- A change: one of the five operations with just its fields. -/
inductive IsChange : Json → Prop where
  | setText {ms : List (String × Json)} {selector text : String}
    (hms : HasJust ms [("op", .str "set_text"), ("selector", .str selector), ("text", .str text)])
    (hs : IsSelector selector) (ht : text.length ≤ 200) : IsChange (.obj ms)
  | setStyleVar {ms : List (String × Json)} {selector var value : String}
    (hms : HasJust ms
      [("op", .str "set_style_var"), ("selector", .str selector), ("var", .str var), ("value", .str value)])
    (hs : IsSelector selector) (hr : IsStyleVar var) (hv : IsStyleValue value) : IsChange (.obj ms)
  | toggle {ms : List (String × Json)} {selector : String} {visible : Bool}
    (hms : HasJust ms [("op", .str "toggle"), ("selector", .str selector), ("visible", .bool visible)])
    (hs : IsSelector selector) : IsChange (.obj ms)
  | reorder {ms : List (String × Json)} {selector : String} {order : List Json}
    (hms : HasJust ms [("op", .str "reorder"), ("selector", .str selector), ("order", .arr order)])
    (hs : IsSelector selector) (ho : order.length ≤ 50) (hi : ∀ j ∈ order, IsWhole 0 49 j) : IsChange (.obj ms)
  | setProp {ms : List (String × Json)} {selector prop : String} {value : Json}
    (hms : HasJust ms [("op", .str "set_prop"), ("selector", .str selector), ("prop", .str prop), ("value", value)])
    (hs : IsSelector selector) (hp : IsProperty prop value) : IsChange (.obj ms)

/-- A document: its version and 1 to 20 changes. -/
inductive IsDocument : Json → Prop where
  | mk {ms : List (String × Json)} {changes : List Json}
    (hms : HasJust ms [("version", .str "1.0"), ("changes", .arr changes)])
    (hl : 1 ≤ changes.length) (hu : changes.length ≤ 20) (hc : ∀ c ∈ changes, IsChange c) : IsDocument (.obj ms)

/-! ## Strings without faults -/

theorem isSelector_iff : s.length ≤ 64 ∧ isSelector s.toList = true ↔ IsSelector s := by
  refine and_congr_right fun hs => ?_
  rw [← String.length_toList] at hs
  constructor
  · intro h
    unfold isSelector at h
    split at h
    · next c cs hcs =>
      simp only [Bool.and_eq_true, List.all_eq_true, Bool.or_eq_true, beq_iff_eq, or_assoc] at h
      exact .inl ⟨'#', c, cs, hcs, .inl rfl, h.1.1, h.1.2⟩
    · next c cs hcs =>
      simp only [Bool.and_eq_true, List.all_eq_true, Bool.or_eq_true, beq_iff_eq, or_assoc] at h
      exact .inl ⟨'.', c, cs, hcs, .inr rfl, h.1.1, h.1.2⟩
    · next c cs _ _ hcs =>
      simp only [Bool.and_eq_true, List.all_eq_true, Bool.or_eq_true, decide_eq_true_eq] at h
      exact .inr ⟨c, cs, hcs, h.1.1, h.2, h.1.2⟩
    · cases h
  · rintro (⟨mark, c, cs, hcs, hm, hc, hr⟩ | ⟨c, cs, hcs, hc, hl, hr⟩)
    · have hl : cs.length ≤ 63 := by
        rw [hcs] at hs
        simp only [List.length_cons] at hs
        omega
      rw [hcs]
      rcases hm with rfl | rfl <;> simpa [isSelector, hc, hl, or_assoc] using hr
    · rw [hcs]
      unfold isSelector
      split
      · next h =>
        cases h
        cases hc
      · next h =>
        cases h
        cases hc
      · next h =>
        cases h
        simpa [hc, hl] using hr
      · next h => cases h

theorem isStyleVar_iff : s.length ≤ 64 ∧ isStyleVar s.toList = true ↔ IsStyleVar s := by
  refine and_congr_right fun hs => ?_
  rw [← String.length_toList] at hs
  constructor
  · intro h
    unfold isStyleVar at h
    split at h
    · next c cs hcs =>
      simp only [Bool.and_eq_true, List.all_eq_true, Bool.or_eq_true, beq_iff_eq, or_assoc] at h
      exact ⟨c, cs, hcs, h.1.1, h.1.2⟩
    · cases h
  · rintro ⟨c, cs, hcs, hc, hr⟩
    have hl : cs.length ≤ 62 := by
      rw [hcs] at hs
      simp only [List.length_cons] at hs
      omega
    rw [hcs]
    simpa [isStyleVar, hc, hl, or_assoc] using hr

theorem isStyleValue_iff : s.length ≤ 64 ∧ isStyleValue s.toList = true ↔ IsStyleValue s := by
  unfold isStyleValue IsStyleValue isStyleChar
  rw [← String.length_toList, Nat.one_le_iff_ne_zero, Ne, List.length_eq_zero_iff]
  simp only [Bool.and_eq_true, Bool.not_eq_true', List.isEmpty_eq_false_iff, List.all_eq_true, Bool.or_eq_true,
    beq_iff_eq, or_assoc]
  tauto

/-! ## Fields without faults -/

theorem checkLength_eq_nil_iff {limit : Nat} : checkLength path limit s = [] ↔ s.length ≤ limit := by
  unfold checkLength
  split_ifs with h
  · exact ⟨nofun, fun hle => absurd h (Nat.not_lt.2 hle)⟩
  · exact ⟨fun _ => Nat.not_lt.1 h, fun _ => rfl⟩

theorem check_text_eq_nil_iff {limit : Nat} {form : Option Form} :
    (Constraint.text limit form).check path j = [] ↔
      ∃ s, j = .str s ∧ s.length ≤ limit ∧ form.all (fun f => f.admits s.toList) := by
  cases j with
  | str s => simp [Constraint.check, checkLength_eq_nil_iff]
  | _ => simp [Constraint.check]

theorem check_selector_eq_nil_iff :
    (Constraint.text 64 (some .selector)).check path j = [] ↔ ∃ s, j = .str s ∧ IsSelector s := by
  simp [check_text_eq_nil_iff, Form.admits, isSelector_iff]

theorem check_styleVar_eq_nil_iff :
    (Constraint.text 64 (some .styleVar)).check path j = [] ↔ ∃ s, j = .str s ∧ IsStyleVar s := by
  simp [check_text_eq_nil_iff, Form.admits, isStyleVar_iff]

theorem check_styleValue_eq_nil_iff :
    (Constraint.text 64 (some .styleValue)).check path j = [] ↔ ∃ s, j = .str s ∧ IsStyleValue s := by
  simp [check_text_eq_nil_iff, Form.admits, isStyleValue_iff]

theorem check_word_eq_nil_iff {allowed : List String} :
    (Constraint.word allowed).check path j = [] ↔ ∃ s, j = .str s ∧ s.length ≤ maxWord ∧ s ∈ allowed := by
  cases j with
  | str s => simp [Constraint.check, checkLength_eq_nil_iff]
  | _ => simp [Constraint.check]

theorem check_truth_eq_nil_iff : Constraint.truth.check path j = [] ↔ ∃ b, j = .bool b := by
  cases j <;> simp [Constraint.check]

/-- Between bounds that fit into 64 bits, that a number has at most 64 bits is no further condition. -/
theorem checkWhole_eq_nil_iff {low high : Int} (hl : -Int.pow 2 63 ≤ low) (hh : high < Int.pow 2 63) :
    checkWhole path low high j = [] ↔ IsWhole low high j := by
  unfold checkWhole Json.int64? Json.intWithin? IsWhole
  split
  · next hnone =>
    split at hnone
    · next n =>
      split_ifs at hnone with hn
      refine ⟨nofun, ?_⟩
      rintro ⟨m, hm, hlow, hhigh⟩
      cases hm
      exact absurd ⟨hl.trans hlow, hhigh.trans_lt hh⟩ hn
    · next hj => exact ⟨nofun, fun ⟨n, hn, _⟩ => absurd hn (hj n)⟩
  · next n hsome =>
    split at hsome
    · split_ifs at hsome
      cases hsome
      simp
    · cases hsome

theorem checkItems_eq_nil_iff {low high : Int} (hl : -Int.pow 2 63 ≤ low) (hh : high < Int.pow 2 63) :
    ∀ (i : Nat) (items : List Json), checkItems path low high i items = [] ↔ ∀ j ∈ items, IsWhole low high j
  | _, [] => by simp [checkItems]
  | i, j :: items => by
    rw [checkItems, List.append_eq_nil_iff, List.forall_mem_cons, checkWhole_eq_nil_iff hl hh,
      checkItems_eq_nil_iff hl hh (i + 1) items]

theorem check_wholes_eq_nil_iff {limit : Nat} {low high : Int} (hl : -Int.pow 2 63 ≤ low)
    (hh : high < Int.pow 2 63) :
    (Constraint.wholes limit low high).check path j = [] ↔
      ∃ items, j = .arr items ∧ items.length ≤ limit ∧ ∀ j ∈ items, IsWhole low high j := by
  cases j with
  | arr items => simp [Constraint.check, checkItems_eq_nil_iff hl hh]
  | _ => simp [Constraint.check]

theorem isProperty_iff {prop : String} {value : Json} :
    (∃ constraint, properties.lookup prop = some constraint ∧ constraint.check path value = []) ↔
      IsProperty prop value := by
  constructor
  · rintro ⟨constraint, hp, hc⟩
    have hmem : (prop, constraint) ∈ properties := (Json.lookup_eq_some_iff (by decide)).1 hp
    simp only [properties, List.mem_cons, Prod.mk.injEq, List.not_mem_nil, or_false] at hmem
    rcases hmem with ⟨rfl, rfl⟩ | ⟨rfl, rfl⟩ | ⟨rfl, rfl⟩ | ⟨rfl, rfl⟩ | ⟨rfl, rfl⟩
    · exact .opacity ((checkWhole_eq_nil_iff (by decide) (by decide)).1 hc)
    · exact .fontSize ((checkWhole_eq_nil_iff (by decide) (by decide)).1 hc)
    · obtain ⟨word, rfl, -, hw⟩ := check_word_eq_nil_iff.1 hc
      exact .fontWeight hw
    · exact .borderRadius ((checkWhole_eq_nil_iff (by decide) (by decide)).1 hc)
    · obtain ⟨word, rfl, -, hw⟩ := check_word_eq_nil_iff.1 hc
      exact .textAlign hw
  · intro h
    -- The words are all shorter than any word may be, so the limit of their length never shows.
    have hweight : ∀ w ∈ ["normal", "bold", "lighter", "bolder", "400", "700"], w.length ≤ maxWord := by decide
    have halign : ∀ w ∈ ["left", "center", "right", "justify"], w.length ≤ maxWord := by decide
    cases h with
    | opacity hn => exact ⟨_, rfl, (checkWhole_eq_nil_iff (by decide) (by decide)).2 hn⟩
    | fontSize hn => exact ⟨_, rfl, (checkWhole_eq_nil_iff (by decide) (by decide)).2 hn⟩
    | fontWeight hw => exact ⟨_, rfl, check_word_eq_nil_iff.2 ⟨_, rfl, hweight _ hw, hw⟩⟩
    | borderRadius hn => exact ⟨_, rfl, (checkWhole_eq_nil_iff (by decide) (by decide)).2 hn⟩
    | textAlign hw => exact ⟨_, rfl, check_word_eq_nil_iff.2 ⟨_, rfl, halign _ hw, hw⟩⟩

/-! ## Changes without faults -/

/-- A change without faults has the fields of its operation, each without faults, and no other. -/
theorem checkMembers_eq_nil_iff {op : Operation} : checkMembers path op ms = [] ↔
    (∀ f ∈ fieldsOf op, ∃ j, ms.lookup f.1 = some j ∧ f.2.check (path ++ "." ++ f.1) j = []) ∧
      (∀ m ∈ ms, m.1 ∈ "op" :: (fieldsOf op).map Prod.fst) ∧ (op = .setProp → checkProperty path ms = []) := by
  have hfields : checkFields path op ms = [] ↔
      ∀ f ∈ fieldsOf op, ∃ j, ms.lookup f.1 = some j ∧ f.2.check (path ++ "." ++ f.1) j = [] := by
    unfold checkFields
    rw [List.flatMap_eq_nil_iff]
    refine forall₂_congr fun (name, constraint) _ => ?_
    dsimp only
    cases ms.lookup name <;> simp
  have hundeclared : checkUndeclared path op ms = [] ↔ ∀ m ∈ ms, m.1 ∈ "op" :: (fieldsOf op).map Prod.fst := by
    unfold checkUndeclared
    rw [List.filterMap_eq_nil_iff]
    refine forall₂_congr fun (key, _) _ => ?_
    simp [or_iff_not_imp_left]
  rw [checkMembers, List.append_eq_nil_iff, List.append_eq_nil_iff, hfields, hundeclared, and_assoc]
  refine and_congr_right' (and_congr_right' ?_)
  split_ifs with h <;> simp [h]

theorem checkChange_obj_eq_nil_iff : checkChange path (.obj ms) = [] ↔
    ∃ op : Operation, ms.lookup "op" = some (.str op.name) ∧ checkMembers path op ms = [] := by
  have hname {found : Json} {op : Operation} :
      found.asString?.bind Operation.ofName? = some op ↔ found = .str op.name := by
    cases found with
    | str s => exact Operation.ofName?_eq_some_iff.trans (by simp)
    | _ => simp [Json.asString?]
  rw [checkChange]
  constructor
  · intro h
    split at h
    · exact absurd h (List.cons_ne_nil _ _)
    · next found hfound =>
      split at h
      · next op hop => exact ⟨op, hfound.trans (congrArg some (hname.1 hop)), h⟩
      · exact absurd h (List.cons_ne_nil _ _)
  · rintro ⟨op, hop, h⟩
    rw [hop]
    dsimp only
    rw [hname.2 rfl]
    exact h

theorem keys_nodup {op : Operation} {values : List (String × Json)}
    (hk : values.map Prod.fst = (fieldsOf op).map Prod.fst) :
    ((("op", Json.str op.name) :: values).map Prod.fst).Nodup := by
  rw [List.map_cons, hk]
  cases op <;> decide

theorem hasJust_of_fields {op : Operation} {values : List (String × Json)}
    (hk : values.map Prod.fst = (fieldsOf op).map Prod.fst) (hop : ms.lookup "op" = some (.str op.name))
    (hv : ∀ f ∈ values, ms.lookup f.1 = some f.2) (hu : ∀ m ∈ ms, m.1 ∈ "op" :: (fieldsOf op).map Prod.fst) :
    HasJust ms (("op", .str op.name) :: values) := by
  refine (hasJust_iff (keys_nodup hk)).2 ⟨List.forall_mem_cons.2 ⟨hop, hv⟩, ?_⟩
  rw [List.map_cons, hk]
  exact hu

theorem isChange_of_checkMembers {op : Operation} (hop : ms.lookup "op" = some (.str op.name))
    (h : checkMembers path op ms = []) : IsChange (.obj ms) := by
  obtain ⟨hf, hu, hp⟩ := checkMembers_eq_nil_iff.1 h
  cases op with
  | setText =>
    simp only [fieldsOf, maxText, List.forall_mem_cons, check_selector_eq_nil_iff] at hf
    obtain ⟨⟨_, hsel, selector, rfl, hs⟩, ⟨_, htext, ht⟩, -⟩ := hf
    obtain ⟨text, rfl, ht, -⟩ := check_text_eq_nil_iff.1 ht
    exact .setText (hasJust_of_fields rfl hop (by simpa using ⟨hsel, htext⟩) hu) hs ht
  | setStyleVar =>
    simp only [fieldsOf, List.forall_mem_cons, check_selector_eq_nil_iff, check_styleVar_eq_nil_iff,
      check_styleValue_eq_nil_iff] at hf
    obtain ⟨⟨_, hsel, selector, rfl, hs⟩, ⟨_, hvar, var, rfl, hr⟩, ⟨_, hvalue, value, rfl, hv⟩, -⟩ := hf
    exact .setStyleVar (hasJust_of_fields rfl hop (by simpa using ⟨hsel, hvar, hvalue⟩) hu) hs hr hv
  | toggle =>
    simp only [fieldsOf, List.forall_mem_cons, check_selector_eq_nil_iff, check_truth_eq_nil_iff] at hf
    obtain ⟨⟨_, hsel, selector, rfl, hs⟩, ⟨_, hvisible, visible, rfl⟩, -⟩ := hf
    have hv : ∀ f ∈ [("selector", .str selector), ("visible", .bool visible)], ms.lookup f.1 = some f.2 := by
      simpa using ⟨hsel, hvisible⟩
    exact .toggle (hasJust_of_fields rfl hop hv hu) hs
  | reorder =>
    simp only [fieldsOf, maxOrder, List.forall_mem_cons, check_selector_eq_nil_iff] at hf
    obtain ⟨⟨_, hsel, selector, rfl, hs⟩, ⟨_, horder, ho⟩, -⟩ := hf
    obtain ⟨order, rfl, hlen, hi⟩ := (check_wholes_eq_nil_iff (by decide) (by decide)).1 ho
    exact .reorder (hasJust_of_fields rfl hop (by simpa using ⟨hsel, horder⟩) hu) hs hlen hi
  | setProp =>
    simp only [fieldsOf, List.forall_mem_cons, check_selector_eq_nil_iff, check_word_eq_nil_iff] at hf
    obtain ⟨⟨_, hsel, selector, rfl, hs⟩, ⟨_, hprop, prop, rfl, -, hmem⟩, ⟨value, hvalue, -⟩, -⟩ := hf
    obtain ⟨⟨_, constraint⟩, hc, rfl⟩ := List.mem_map.1 hmem
    have hknown := (Json.lookup_eq_some_iff (by decide : (properties.map Prod.fst).Nodup)).2 hc
    have hproperty : constraint.check (path ++ ".value") value = [] := by
      simpa only [checkProperty, hprop, hvalue, hknown] using hp rfl
    exact .setProp (hasJust_of_fields rfl hop (by simpa using ⟨hsel, hprop, hvalue⟩) hu) hs
      (isProperty_iff.1 ⟨constraint, hknown, hproperty⟩)

theorem exists_of_forall₂ {α β : Type} {R : α → β → Prop} {as : List α} {bs : List β} (h : List.Forall₂ R as bs) :
    ∀ a ∈ as, ∃ b ∈ bs, R a b := by
  induction h with
  | nil => nofun
  | cons hab _ ih =>
    refine List.forall_mem_cons.2 ⟨⟨_, List.mem_cons_self, hab⟩, fun a ha => ?_⟩
    obtain ⟨b, hb, hr⟩ := ih a ha
    exact ⟨b, List.mem_cons_of_mem _ hb, hr⟩

/-- The converse: an object with just the fields of its operation has no faults if the fields have none. -/
theorem checkChange_of_hasJust (op : Operation) {values : List (String × Json)}
    (hms : HasJust ms (("op", .str op.name) :: values))
    (hf : List.Forall₂ (fun f v => f.1 = v.1 ∧ f.2.check (path ++ "." ++ f.1) v.2 = []) (fieldsOf op) values)
    (hp : op = .setProp → checkProperty path ms = []) : checkChange path (.obj ms) = [] := by
  have hk : (fieldsOf op).map Prod.fst = values.map Prod.fst := by
    rw [← List.forall₂_eq_eq_eq, List.forall₂_map_left_iff, List.forall₂_map_right_iff]
    exact hf.imp fun _ _ h => h.1
  obtain ⟨hv, hu⟩ := (hasJust_iff (keys_nodup hk.symm)).1 hms
  refine checkChange_obj_eq_nil_iff.2 ⟨op, hms "op", checkMembers_eq_nil_iff.2 ⟨fun f hmem => ?_, hk ▸ hu, hp⟩⟩
  obtain ⟨v, hmemv, hname, hc⟩ := exists_of_forall₂ hf f hmem
  exact ⟨v.2, hname ▸ hv v (List.mem_cons_of_mem _ hmemv), hc⟩

theorem checkChange_eq_nil_iff : checkChange path j = [] ↔ IsChange j := by
  constructor
  · intro h
    cases j with
    | obj ms =>
      obtain ⟨op, hop, h⟩ := checkChange_obj_eq_nil_iff.1 h
      exact isChange_of_checkMembers hop h
    | _ => cases h
  · intro h
    cases h with
    | setText hms hs ht =>
      refine checkChange_of_hasJust .setText hms (.cons ⟨rfl, ?_⟩ (.cons ⟨rfl, ?_⟩ .nil)) nofun
      · exact check_selector_eq_nil_iff.2 ⟨_, rfl, hs⟩
      · exact check_text_eq_nil_iff.2 ⟨_, rfl, ht, rfl⟩
    | setStyleVar hms hs hr hv =>
      refine checkChange_of_hasJust .setStyleVar hms
        (.cons ⟨rfl, ?_⟩ (.cons ⟨rfl, ?_⟩ (.cons ⟨rfl, ?_⟩ .nil))) nofun
      · exact check_selector_eq_nil_iff.2 ⟨_, rfl, hs⟩
      · exact check_styleVar_eq_nil_iff.2 ⟨_, rfl, hr⟩
      · exact check_styleValue_eq_nil_iff.2 ⟨_, rfl, hv⟩
    | toggle hms hs =>
      refine checkChange_of_hasJust .toggle hms (.cons ⟨rfl, ?_⟩ (.cons ⟨rfl, rfl⟩ .nil)) nofun
      exact check_selector_eq_nil_iff.2 ⟨_, rfl, hs⟩
    | reorder hms hs ho hi =>
      refine checkChange_of_hasJust .reorder hms (.cons ⟨rfl, ?_⟩ (.cons ⟨rfl, ?_⟩ .nil)) nofun
      · exact check_selector_eq_nil_iff.2 ⟨_, rfl, hs⟩
      · exact (check_wholes_eq_nil_iff (by decide) (by decide)).2 ⟨_, rfl, ho, hi⟩
    | @setProp ms selector prop value hms hs hp =>
      have hvalid : ∃ constraint, properties.lookup prop = some constraint ∧
          constraint.check (path ++ ".value") value = [] := isProperty_iff.2 hp
      obtain ⟨constraint, hknown, hc⟩ := hvalid
      refine checkChange_of_hasJust .setProp hms
        (.cons ⟨rfl, ?_⟩ (.cons ⟨rfl, ?_⟩ (.cons ⟨rfl, rfl⟩ .nil))) fun _ => ?_
      · exact check_selector_eq_nil_iff.2 ⟨_, rfl, hs⟩
      · have hmem := List.mem_map_of_mem (f := Prod.fst)
          ((Json.lookup_eq_some_iff (by decide : (properties.map Prod.fst).Nodup)).1 hknown)
        have hshort : ∀ w ∈ properties.map Prod.fst, w.length ≤ maxWord := by decide
        exact check_word_eq_nil_iff.2 ⟨_, rfl, hshort prop hmem, hmem⟩
      · have hprop : ms.lookup "prop" = some (.str prop) := hms "prop"
        have hvalue : ms.lookup "value" = some value := hms "value"
        simpa only [checkProperty, hprop, hvalue, hknown] using hc

/-! ## Documents without faults -/

theorem checkVersion_eq_nil_iff {version : Option Json} : checkVersion version = [] ↔ version = some (.str "1.0") := by
  unfold checkVersion Document.currentVersion
  split
  · simp
  · simp
  · next h => simpa using h "1.0"

theorem checkChanges_eq_nil_iff : ∀ (i : Nat) (changes : List Json),
    checkChanges i changes = [] ↔ ∀ c ∈ changes, IsChange c
  | _, [] => by simp [checkChanges]
  | i, c :: changes => by
    rw [checkChanges, List.append_eq_nil_iff, List.forall_mem_cons, checkChange_eq_nil_iff,
      checkChanges_eq_nil_iff (i + 1) changes]

theorem checkChangeList_eq_nil_iff {list : Option Json} : checkChangeList list = [] ↔
    ∃ changes, list = some (.arr changes) ∧ 1 ≤ changes.length ∧ changes.length ≤ 20 ∧ ∀ c ∈ changes, IsChange c := by
  unfold checkChangeList Document.maxChanges
  split
  · simp
  · next changes =>
    simp [checkChanges_eq_nil_iff, Nat.one_le_iff_ne_zero]
  · next h => simpa using fun changes hc => absurd hc (h changes)

theorem check_eq_nil_iff : check j = [] ↔ IsDocument j := by
  constructor
  · intro h
    cases j with
    | obj ms =>
      rw [check, List.append_eq_nil_iff, List.append_eq_nil_iff, checkVersion_eq_nil_iff,
        checkChangeList_eq_nil_iff, List.filterMap_eq_nil_iff] at h
      obtain ⟨⟨hversion, hkeys⟩, changes, hchanges, hl, hu, hc⟩ := h
      refine .mk ((hasJust_iff (by simp)).2 ⟨by simpa using ⟨hversion, hchanges⟩, fun m hm => ?_⟩) hl hu hc
      simpa [or_iff_not_imp_left] using hkeys m hm
    | _ => cases h
  · rintro ⟨hms, hl, hu, hc⟩
    rw [check, List.append_eq_nil_iff, List.append_eq_nil_iff, checkVersion_eq_nil_iff, checkChangeList_eq_nil_iff,
      List.filterMap_eq_nil_iff]
    refine ⟨⟨hms "version", fun m hm => ?_⟩, _, hms "changes", hl, hu, hc⟩
    simpa [or_iff_not_imp_left] using ((hasJust_iff (by simp)).1 hms).2 m hm

theorem isDocument_of_valid (h : (validate j).valid = true) : IsDocument j :=
  check_eq_nil_iff.1 (List.isEmpty_iff.1 h)

theorem valid_of_isDocument (h : IsDocument j) : (validate j).valid = true :=
  List.isEmpty_iff.2 (check_eq_nil_iff.2 h)

/-- **The schema is the grammar.**  A value is valid exactly if it is a document of the grammar. -/
theorem validate_valid_iff (j : Json) : (validate j).valid = true ↔ IsDocument j :=
  ⟨isDocument_of_valid, valid_of_isDocument⟩

end Schema

end SiteEdit
