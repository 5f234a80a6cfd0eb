import SiteEdit.Json.Basic
/-!
# Places in a value

A path leads from a value to a value inside it, by the indices of items and the names of members.  `StringAt` and
`NameAt` say which strings and which names of members stand in a value, and where.
-/
namespace SiteEdit.Json

/-- One step into a value. -/
inductive Step where
  | item (i : Nat)
  | member (name : String)
  deriving DecidableEq, Repr

/-- The value that a path leads to. -/
inductive At : List Step → Json → Json → Prop where
  | here (j : Json) : At [] j j
  | item {items : List Json} {i : Nat} {j inner : Json} {path : List Step} (hi : items[i]? = some j)
    (h : At path j inner) : At (.item i :: path) (.arr items) inner
  | member {ms : List (String × Json)} {k : String} {j inner : Json} {path : List Step} (hm : (k, j) ∈ ms)
    (h : At path j inner) : At (.member k :: path) (.obj ms) inner

/-- A string stands in a value at the end of a path. -/
def StringAt (j : Json) (path : List Step) (s : String) : Prop := At path j (.str s)

/-- The object at the end of a path has a member of a name. -/
def NameAt (j : Json) (path : List Step) (k : String) : Prop := ∃ ms v, At path j (.obj ms) ∧ (k, v) ∈ ms

variable {j : Json} {path : List Step} {s t k : String} {items : List Json} {ms : List (String × Json)}

/-! ## Strings -/

theorem stringAt_str : (Json.str t).StringAt path s ↔ path = [] ∧ s = t := by
  constructor
  · intro h
    cases h
    exact ⟨rfl, rfl⟩
  · rintro ⟨rfl, rfl⟩
    exact .here _

theorem not_stringAt_bool (b : Bool) : ¬(Json.bool b).StringAt path s := nofun

theorem not_stringAt_num (n : JsonNumber) : ¬(Json.num n).StringAt path s := nofun

theorem stringAt_arr : (Json.arr items).StringAt path s ↔
    ∃ i j rest, items[i]? = some j ∧ path = .item i :: rest ∧ j.StringAt rest s := by
  constructor
  · rintro ⟨⟩
    exact ⟨_, _, _, ‹_›, rfl, ‹_›⟩
  · rintro ⟨i, j, rest, hi, rfl, h⟩
    exact .item hi h

theorem stringAt_obj : (Json.obj ms).StringAt path s ↔
    ∃ k j rest, (k, j) ∈ ms ∧ path = .member k :: rest ∧ j.StringAt rest s := by
  constructor
  · rintro ⟨⟩
    exact ⟨_, _, _, ‹_›, rfl, ‹_›⟩
  · rintro ⟨k, j, rest, hm, rfl, h⟩
    exact .member hm h

/-! ## Names -/

theorem not_nameAt_str : ¬(Json.str t).NameAt path k := by
  rintro ⟨ms, v, ⟨⟩, -⟩

theorem not_nameAt_bool (b : Bool) : ¬(Json.bool b).NameAt path k := by
  rintro ⟨ms, v, ⟨⟩, -⟩

theorem not_nameAt_num (n : JsonNumber) : ¬(Json.num n).NameAt path k := by
  rintro ⟨ms, v, ⟨⟩, -⟩

theorem nameAt_arr : (Json.arr items).NameAt path k ↔
    ∃ i j rest, items[i]? = some j ∧ path = .item i :: rest ∧ j.NameAt rest k := by
  constructor
  · rintro ⟨ms, v, ⟨⟩, hk⟩
    exact ⟨_, _, _, ‹_›, rfl, ms, v, ‹_›, hk⟩
  · rintro ⟨i, j, rest, hi, rfl, ms, v, h, hk⟩
    exact ⟨ms, v, .item hi h, hk⟩

theorem nameAt_obj : (Json.obj ms).NameAt path k ↔
    (path = [] ∧ ∃ v, (k, v) ∈ ms) ∨ ∃ l j rest, (l, j) ∈ ms ∧ path = .member l :: rest ∧ j.NameAt rest k := by
  constructor
  · rintro ⟨ns, v, ⟨⟩, hk⟩
    · exact .inl ⟨rfl, v, hk⟩
    · exact .inr ⟨_, _, _, ‹_›, rfl, ns, v, ‹_›, hk⟩
  · rintro (⟨rfl, v, hk⟩ | ⟨l, j, rest, hm, rfl, ns, v, h, hk⟩)
    · exact ⟨ms, v, .here _, hk⟩
    · exact ⟨ns, v, .member hm h, hk⟩

/-! ## Lists -/

theorem getElem?_map_eq_some_iff {α β : Type} {f : α → β} {as : List α} {i : Nat} {b : β} :
    (as.map f)[i]? = some b ↔ ∃ a, as[i]? = some a ∧ f a = b := by
  rw [List.getElem?_map, Option.map_eq_some_iff]

theorem stringAt_ofList {α : Type} {f : α → Json} {as : List α} : (ofList f as).StringAt path s ↔
    ∃ i a rest, as[i]? = some a ∧ path = .item i :: rest ∧ (f a).StringAt rest s := by
  unfold ofList
  rw [stringAt_arr]
  constructor
  · rintro ⟨i, j, rest, hi, rfl, h⟩
    obtain ⟨a, ha, rfl⟩ := getElem?_map_eq_some_iff.1 hi
    exact ⟨i, a, rest, ha, rfl, h⟩
  · rintro ⟨i, a, rest, ha, rfl, h⟩
    exact ⟨i, f a, rest, getElem?_map_eq_some_iff.2 ⟨a, ha, rfl⟩, rfl, h⟩

theorem nameAt_ofList {α : Type} {f : α → Json} {as : List α} : (ofList f as).NameAt path k ↔
    ∃ i a rest, as[i]? = some a ∧ path = .item i :: rest ∧ (f a).NameAt rest k := by
  unfold ofList
  rw [nameAt_arr]
  constructor
  · rintro ⟨i, j, rest, hi, rfl, h⟩
    obtain ⟨a, ha, rfl⟩ := getElem?_map_eq_some_iff.1 hi
    exact ⟨i, a, rest, ha, rfl, h⟩
  · rintro ⟨i, a, rest, ha, rfl, h⟩
    exact ⟨i, f a, rest, getElem?_map_eq_some_iff.2 ⟨a, ha, rfl⟩, rfl, h⟩

/-! ## Plain values -/

/-- Values with no string inside, unless they are strings, and no names. -/
structure Plain (j : Json) : Prop where
  strings : ∀ path s, j.StringAt path s → path = []
  names : ∀ path k, ¬j.NameAt path k

theorem plain_str (t : String) : (Json.str t).Plain := ⟨fun _ _ h => (stringAt_str.1 h).1, fun _ _ => not_nameAt_str⟩

theorem plain_bool (b : Bool) : (Json.bool b).Plain :=
  ⟨fun _ _ h => absurd h (not_stringAt_bool b), fun _ _ => not_nameAt_bool b⟩

theorem plain_num (n : JsonNumber) : (Json.num n).Plain :=
  ⟨fun _ _ h => absurd h (not_stringAt_num n), fun _ _ => not_nameAt_num n⟩

theorem plain_numbers {α : Type} (f : α → JsonNumber) (as : List α) : (ofList (fun a => .num (f a)) as).Plain := by
  refine ⟨fun path s h => ?_, fun path k h => ?_⟩
  · obtain ⟨i, a, rest, -, -, h⟩ := stringAt_ofList.1 h
    exact absurd h (not_stringAt_num (f a))
  · obtain ⟨i, a, rest, -, -, h⟩ := nameAt_ofList.1 h
    exact not_nameAt_num (f a) h

/-! ## Induction -/

/-- Induction over a value, with one case for all lists and one for all objects. -/
@[elab_as_elim]
theorem inductOn {motive : Json → Prop} (j : Json) (null : motive .null) (bool : ∀ b, motive (.bool b))
    (num : ∀ n, motive (.num n)) (str : ∀ s, motive (.str s))
    (arr : ∀ items, (∀ j ∈ items, motive j) → motive (.arr items))
    (obj : ∀ ms : List (String × Json), (∀ m ∈ ms, motive m.2) → motive (.obj ms)) : motive j :=
  @Json.rec motive (fun items => ∀ j ∈ items, motive j) (fun ms => ∀ m ∈ ms, motive m.2) (fun m => motive m.2)
    null bool num str arr obj (List.forall_mem_nil _) (fun _ _ h hs => List.forall_mem_cons.2 ⟨h, hs⟩)
    (List.forall_mem_nil _) (fun _ _ h hs => List.forall_mem_cons.2 ⟨h, hs⟩) (fun _ _ h => h) j

end SiteEdit.Json
