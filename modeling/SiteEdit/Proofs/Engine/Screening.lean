import SiteEdit.Engine.Pipeline
import SiteEdit.Proofs.Document.Decoding
import SiteEdit.Proofs.Json.Places
import SiteEdit.Proofs.Policy.Documents
/-!
# What the screening of a value reaches

The policy looks at the names and the free texts of a change, and the schema leaves room for no other string.  So every
string in an accepted value is screened (`Screened`), and every name of a member is one of the grammar (`Declared`).
-/
namespace SiteEdit

open Json (Ordered stringAt_ofList stringAt_obj stringAt_str nameAt_ofList nameAt_obj not_nameAt_str)
open Schema (IsChange IsDocument IsProperty)

variable {path : List Json.Step} {s k : String}

/-! ## Changes -/

theorem Schema.IsChange.isProperty {ms : List (String × Json)} {prop : String} {value : Json} (h : IsChange (.obj ms))
    (hop : ms.lookup "op" = some (.str "set_prop")) (hp : ms.lookup "prop" = some (.str prop))
    (hv : ms.lookup "value" = some value) : IsProperty prop value := by
  have hother {name : String} (hname : ms.lookup "op" = some (.str name)) : name = "set_prop" := by
    simpa [hop] using hname.symm
  cases h with
  | setProp hms hs hprop =>
    cases hp.symm.trans (hms "prop")
    cases hv.symm.trans (hms "value")
    exact hprop
  | setText hms => exact absurd (hother (hms "op")) (by decide)
  | setStyleVar hms => exact absurd (hother (hms "op")) (by decide)
  | toggle hms => exact absurd (hother (hms "op")) (by decide)
  | reorder hms => exact absurd (hother (hms "op")) (by decide)

/-- A property takes a number or a word, nothing that has strings further inside. -/
theorem Schema.IsProperty.num_or_str {prop : String} {value : Json} (h : IsProperty prop value) :
    (∃ n, value = .num n) ∨ ∃ word, value = .str word := by
  cases h with
  | opacity h | fontSize h | borderRadius h =>
    obtain ⟨n, rfl, -, -⟩ := h
    exact .inl ⟨_, rfl⟩
  | fontWeight => exact .inr ⟨_, rfl⟩
  | textAlign => exact .inr ⟨_, rfl⟩

namespace Change

variable {c : Change}

/-- The strings of a change, each with the name of its field. -/
def strings (c : Change) : List (String × String) :=
  ("op", c.op.name) :: ("selector", c.selector) :: c.styleVar?.toList.map (fun var => ("var", var)) ++ c.textFields

theorem mem_strings : (k, s) ∈ c.strings ↔ (k, .str s) ∈ ("op", .str c.op.name) :: c.members := by
  cases c with
  | setProp selector prop value => cases value <;> simp [strings, members, op, textFields, styleVar?, Change.selector]
  | _ => simp [strings, members, op, textFields, styleVar?, Change.selector, Json.ofList]

/-- In a change of the grammar the strings are those of its fields: the value of a property has none further inside. -/
theorem plain_entries (h : IsChange c.toValue) : ∀ m ∈ ("op", .str c.op.name) :: c.members, m.2.Plain := by
  cases c with
  | setText selector text => simp [members, Json.plain_str]
  | setStyleVar selector var value => simp [members, Json.plain_str]
  | toggle selector visible => simp [members, Json.plain_str, Json.plain_bool]
  | reorder selector order =>
    have horder : (Json.ofList (fun i : UInt32 => Json.ofNat i.toNat) order).Plain :=
      Json.plain_numbers (fun i : UInt32 => .int i.toNat) order
    simp [members, Json.plain_str, horder]
  | setProp selector prop value =>
    have hms := Json.hasJust_sortMembers (setProp selector prop value).entries_nodup
    have hvalue : value.Plain := by
      rcases (IsChange.isProperty h (hms "op") (hms "prop") (hms "value")).num_or_str with ⟨n, rfl⟩ | ⟨word, rfl⟩
      · exact Json.plain_num n
      · exact Json.plain_str word
    simp [members, Json.plain_str, hvalue]

theorem stringAt_toValue (h : IsChange c.toValue) :
    c.toValue.StringAt path s ↔ ∃ k, path = [.member k] ∧ (k, s) ∈ c.strings := by
  unfold toValue Json.object
  rw [stringAt_obj]
  constructor
  · rintro ⟨k, v, rest, hm, rfl, hs⟩
    have hm := Json.mem_sortMembers hm
    obtain rfl := (plain_entries h _ hm).strings rest s hs
    cases hs
    exact ⟨k, rfl, mem_strings.2 hm⟩
  · rintro ⟨k, rfl, hk⟩
    exact ⟨k, _, [], (Json.mem_sortMembers_iff c.entries_nodup).2 (mem_strings.1 hk), rfl, .here _⟩

theorem nameAt_toValue (h : IsChange c.toValue) (hk : c.toValue.NameAt path k) :
    path = [] ∧ k ∈ "op" :: (Schema.fieldsOf c.op).map Prod.fst := by
  rcases nameAt_obj.1 hk with ⟨rfl, v, hm⟩ | ⟨l, j, rest, hm, -, hk⟩
  · refine ⟨rfl, ?_⟩
    rw [← members_keys]
    exact List.mem_map_of_mem (f := Prod.fst) (Json.mem_sortMembers hm)
  · exact absurd hk ((plain_entries h _ (Json.mem_sortMembers hm)).names rest k)

end Change

/-! ## Documents -/

namespace Document

variable {d : Document}

theorem stringAt_toValue (h : ∀ c ∈ d.changes, IsChange c.toValue) :
    d.toValue.StringAt path s ↔ (path = [.member "version"] ∧ s = d.version) ∨
      ∃ i c k, d.changes[i]? = some c ∧ path = [.member "changes", .item i, .member k] ∧ (k, s) ∈ c.strings := by
  constructor
  · intro hs
    obtain ⟨name, j, rest, hm, rfl, hs⟩ := stringAt_obj.1 hs
    simp only [List.mem_cons, Prod.mk.injEq, List.not_mem_nil, or_false] at hm
    rcases hm with ⟨rfl, rfl⟩ | ⟨rfl, rfl⟩
    · obtain ⟨i, c, rest, hc, rfl, hchange⟩ := stringAt_ofList.1 hs
      obtain ⟨k, rfl, hk⟩ := (Change.stringAt_toValue (h c (List.mem_of_getElem? hc))).1 hchange
      exact .inr ⟨i, c, k, hc, rfl, hk⟩
    · obtain ⟨rfl, rfl⟩ := stringAt_str.1 hs
      exact .inl ⟨rfl, rfl⟩
  · rintro (⟨rfl, rfl⟩ | ⟨i, c, k, hc, rfl, hk⟩)
    · exact .member (by simp) (.here _)
    · have hs := (Change.stringAt_toValue (h c (List.mem_of_getElem? hc))).2 ⟨k, rfl, hk⟩
      exact .member List.mem_cons_self (stringAt_ofList.2 ⟨i, c, _, hc, rfl, hs⟩)

theorem nameAt_toValue (h : ∀ c ∈ d.changes, IsChange c.toValue) (hk : d.toValue.NameAt path k) :
    (path = [] ∧ k ∈ ["version", "changes"]) ∨
      ∃ i c, d.changes[i]? = some c ∧ path = [.member "changes", .item i] ∧
        k ∈ "op" :: (Schema.fieldsOf c.op).map Prod.fst := by
  rcases nameAt_obj.1 hk with ⟨rfl, v, hm⟩ | ⟨name, j, rest, hm, rfl, hk⟩
  · refine .inl ⟨rfl, ?_⟩
    simp only [List.mem_cons, Prod.mk.injEq, List.not_mem_nil, or_false] at hm ⊢
    exact hm.symm.imp And.left And.left
  · simp only [List.mem_cons, Prod.mk.injEq, List.not_mem_nil, or_false] at hm
    rcases hm with ⟨rfl, rfl⟩ | ⟨rfl, rfl⟩
    · obtain ⟨i, c, rest, hc, rfl, hchange⟩ := nameAt_ofList.1 hk
      obtain ⟨rfl, hname⟩ := Change.nameAt_toValue (h c (List.mem_of_getElem? hc)) hchange
      exact .inr ⟨i, c, hc, rfl, hname⟩
    · exact absurd hk not_nameAt_str

end Document

namespace Engine

variable {screen : Policy.Screen} {d : Document} {j : Json}

/-! ## What is accepted -/

/-- The value of a document is checked as the document is. -/
theorem validateDocument_toValue (screen : Policy.Screen) (d : Document) : validateDocument screen d.toValue =
    (checkSchema d >>= fun _ => checkPolicy screen d >>= fun _ => pure d) := by
  have hpolicy : (checkPolicy screen d).map (fun () => d) = (checkPolicy screen d >>= fun _ => pure d) := by
    cases checkPolicy screen d <;> rfl
  unfold validateDocument Schema.intoDocument checkSchema Schema.validateDocument
  dsimp only
  split_ifs
  · rw [d.ofValue?_toValue]
    exact hpolicy
  · rfl

theorem eq_of_validateDocument {d' : Document} (h : validateDocument screen d.toValue = .ok d') : d' = d := by
  rw [validateDocument_toValue] at h
  cases hs : checkSchema d with
  | error refusal =>
    rw [hs] at h
    cases h
  | ok _ =>
    cases hp : checkPolicy screen d with
    | error refusal =>
      rw [hs, hp] at h
      cases h
    | ok _ =>
      rw [hs, hp] at h
      exact (Except.ok.inj h).symm

theorem validateDocument_eq_ok_iff (ho : j.Ordered) : validateDocument screen j = .ok d ↔
    j = d.toValue ∧ IsDocument j ∧ (screen.checkDocument d).safe = true := by
  constructor
  · intro h
    have hj : IsDocument j := by
      by_contra hno
      have hinvalid : ¬(Schema.validate j).valid = true := fun hv => hno (Schema.isDocument_of_valid hv)
      unfold validateDocument Schema.intoDocument at h
      rw [if_neg hinvalid] at h
      cases h
    obtain ⟨d', rfl⟩ := hj.exists_toValue ho
    have hschema : checkSchema d' = .ok () := if_pos (Schema.valid_of_isDocument hj)
    rw [validateDocument_toValue, hschema] at h
    unfold checkPolicy at h
    dsimp only at h
    split_ifs at h with hsafe
    · cases h
      exact ⟨rfl, hj, hsafe⟩
    · cases h
  · rintro ⟨rfl, hj, hsafe⟩
    have hschema : checkSchema d = .ok () := if_pos (Schema.valid_of_isDocument hj)
    have hpolicy : checkPolicy screen d = .ok () := if_pos hsafe
    rw [validateDocument_toValue, hschema, hpolicy]
    rfl

/-- The strings that a screen lets into a value, by their places. -/
inductive Screened (screen : Policy.Screen) : List Json.Step → String → Prop where
  | version : Screened screen [.member "version"] "1.0"
  | op (i : Nat) (op : Operation) : Screened screen [.member "changes", .item i, .member "op"] op.name
  | selector (i : Nat) {s : String} (h : screen.tables.allowsSelector s = true) :
    Screened screen [.member "changes", .item i, .member "selector"] s
  | styleVar (i : Nat) {s : String} (h : screen.tables.allowsStyleVar s = true) :
    Screened screen [.member "changes", .item i, .member "var"] s
  | text (i : Nat) {field s : String} (hf : field ∈ ["text", "value", "prop"]) (h : (screen.checkText s).safe = true) :
    Screened screen [.member "changes", .item i, .member field] s

/-- The names of members that the grammar has, by the places of their objects. -/
inductive Declared : List Json.Step → String → Prop where
  | document {k : String} (h : k ∈ ["version", "changes"]) : Declared [] k
  | change (i : Nat) (op : Operation) {k : String} (h : k ∈ "op" :: (Schema.fieldsOf op).map Prod.fst) :
    Declared [.member "changes", .item i] k

theorem screened_member_iff {i : Nat} : Screened screen [.member "changes", .item i, .member k] s ↔
    (k = "op" ∧ ∃ op : Operation, s = op.name) ∨ (k = "selector" ∧ screen.tables.allowsSelector s = true) ∨
      (k = "var" ∧ screen.tables.allowsStyleVar s = true) ∨
        (k ∈ ["text", "value", "prop"] ∧ (screen.checkText s).safe = true) := by
  constructor
  · intro h
    generalize hp : [Json.Step.member "changes", .item i, .member k] = path at h
    cases h <;> simp only [List.cons.injEq, Json.Step.member.injEq, and_true, true_and, reduceCtorEq, and_false] at hp
    · exact .inl ⟨hp.2, _, rfl⟩
    · exact .inr (.inl ⟨hp.2, ‹_›⟩)
    · exact .inr (.inr (.inl ⟨hp.2, ‹_›⟩))
    · exact .inr (.inr (.inr ⟨hp.2 ▸ ‹_›, ‹_›⟩))
  · rintro (⟨rfl, op, rfl⟩ | ⟨rfl, hs⟩ | ⟨rfl, hs⟩ | ⟨hf, hs⟩)
    · exact .op i op
    · exact .selector i hs
    · exact .styleVar i hs
    · exact .text i hf hs

/-- A change passes the screen exactly if its strings are screened. -/
theorem passes_iff_screened {c : Change} (i : Nat) : screen.Passes c ↔
    ∀ k s, (k, s) ∈ c.strings → Screened screen [.member "changes", .item i, .member k] s := by
  have hfield : ∀ f ∈ c.textFields, f.1 ∈ ["text", "value", "prop"] := by
    cases c with
    | setProp selector prop value => cases value <;> simp [Change.textFields]
    | _ => simp [Change.textFields]
  constructor
  · intro h k s hk
    simp only [Change.strings, List.cons_append, List.mem_cons, List.mem_append, List.mem_map, Option.mem_toList,
      Prod.mk.injEq] at hk
    rcases hk with ⟨rfl, rfl⟩ | ⟨rfl, rfl⟩ | ⟨var, hvar, rfl, rfl⟩ | hk
    · exact .op i c.op
    · exact .selector i h.selector
    · exact .styleVar i (h.styleVar var hvar)
    · exact .text i (hfield (k, s) hk) (h.texts (k, s) hk)
  · intro h
    refine ⟨?_, fun var hvar => ?_, fun f hf => ?_⟩
    · simpa using screened_member_iff.1 (h "selector" c.selector (by simp [Change.strings]))
    · simpa using screened_member_iff.1 (h "var" var (by simp [Change.strings, hvar]))
    · have hs := screened_member_iff.1 (h f.1 f.2 (by simp [Change.strings, hf]))
      have hname := hfield f hf
      simp only [List.mem_cons, List.not_mem_nil, or_false] at hname
      rcases hname with hname | hname | hname <;> simpa [hname] using hs

/-- **No string passes unscreened.**  In an ordered value that is accepted every string except the version and the names
of the operations is an allowed selector or style variable in its place, or a text that is safe, and every name of a
member is one that the grammar has there.  A document of the grammar whose strings are all screened is accepted. -/
theorem validateDocument_screens (screen : Policy.Screen) (ho : j.Ordered) :
    (∀ d, validateDocument screen j = .ok d →
      (∀ path s, j.StringAt path s → Screened screen path s) ∧ ∀ path k, j.NameAt path k → Declared path k) ∧
    (IsDocument j → (∀ path s, j.StringAt path s → Screened screen path s) →
      ∃ d, validateDocument screen j = .ok d) := by
  constructor
  · intro d hd
    obtain ⟨rfl, hj, hsafe⟩ := (validateDocument_eq_ok_iff ho).1 hd
    obtain ⟨hversion, hchanges⟩ := hj.of_toValue
    have hpasses := Policy.Screen.checkDocument_safe_iff.1 hsafe
    refine ⟨fun path s hs => ?_, fun path k hk => ?_⟩
    · rcases (Document.stringAt_toValue hchanges).1 hs with ⟨rfl, rfl⟩ | ⟨i, c, k, hc, rfl, hk⟩
      · exact hversion ▸ .version
      · exact (passes_iff_screened i).1 (hpasses c (List.mem_of_getElem? hc)) k s hk
    · rcases Document.nameAt_toValue hchanges hk with ⟨rfl, hname⟩ | ⟨i, c, -, rfl, hname⟩
      · exact .document hname
      · exact .change i c.op hname
  · intro hj hstrings
    obtain ⟨d, rfl⟩ := hj.exists_toValue ho
    obtain ⟨-, hchanges⟩ := hj.of_toValue
    refine ⟨d, (validateDocument_eq_ok_iff ho).2 ⟨rfl, hj, Policy.Screen.checkDocument_safe_iff.2 fun c hc => ?_⟩⟩
    obtain ⟨i, hi⟩ := List.mem_iff_getElem?.1 hc
    refine (passes_iff_screened i).2 fun k s hk => hstrings _ _ ?_
    exact (Document.stringAt_toValue hchanges).2 (.inr ⟨i, c, k, hi, rfl, hk⟩)

/-- A title, under tables with one selector, one command and one keyword. -/
theorem validateDocument_screens_title :
    let tables : Policy.Tables :=
      { version := "1", allowedSelectors := ["#title"], allowedStyleVars := [], dangerousCommands := ["sudo "],
        injectionPatterns := [], prohibitedKeywords := ["casino"], markupPatterns := [], personalRules := [],
        maxInputLength := 20 }
    let j := Json.obj [("changes", .arr [.obj [("op", .str "set_text"), ("selector", .str "#title"),
      ("text", .str "Hello")]]), ("version", .str "1.0")]
    let d := Document.ofChanges [.setText "#title" "Hello"]
    ∃ screen, Policy.Screen.ofTables tables = .ok screen ∧ j.Ordered ∧ validateDocument screen j = .ok d ∧
      (∀ path s, j.StringAt path s → Screened screen path s) ∧ ∀ path k, j.NameAt path k → Declared path k := by
  intro tables j d
  have hchange : Ordered (.obj [("op", .str "set_text"), ("selector", .str "#title"), ("text", .str "Hello")]) :=
    .obj (by decide) (by simp [Ordered.str])
  have ho : j.Ordered := .obj (by decide) (by simp [Ordered.str, Ordered.arr, hchange])
  have hok : ∃ screen, Policy.Screen.ofTables tables = .ok screen ∧ validateDocument screen j = .ok d :=
    ⟨_, rfl, by decide +kernel⟩
  obtain ⟨screen, hscreen, hd⟩ := hok
  exact ⟨screen, hscreen, ho, hd, (validateDocument_screens screen ho).1 d hd⟩

end Engine

end SiteEdit
