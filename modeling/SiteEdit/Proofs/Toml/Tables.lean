import SiteEdit.Proofs.Toml.Statements
/-!
# Tables of TOML are read back

The statements under the header of a table do to it what they would do to a document of their own.  So a table is read
back if its own tables are, and a document whose values come before its tables is what is read from its text.
-/
namespace SiteEdit.Toml

variable {path current : List String} {key : String} {s : Statement} {ss : List Statement} {ms inner : Members}
  {j : Json} {n : Nat}

/-! ## Statements in another table -/

namespace Statement

/-- A statement as it is written in the table at a path. -/
def below (path : List String) : Statement → Statement
  | .header rest => .header (path ++ rest)
  | .itemHeader rest => .itemHeader (path ++ rest)
  | .assign key j => .assign key j

theorem below_nil (s : Statement) : s.below [] = s := by
  cases s <;> rfl

theorem below_below (path rest : List String) (s : Statement) : (s.below rest).below path = s.below (path ++ rest) := by
  cases s <;> simp [below]

/-- Whether a statement has its place in every table: the document itself has no header. -/
def IsInner : Statement → Prop
  | .header path | .itemHeader path => path ≠ []
  | .assign _ _ => True

end Statement

/-! ## Building -/

/-- The path of the open table and all tables. -/
abbrev Progress := List String × Members

/-- Carries out one statement. -/
def step (p : Progress) : Statement → Option Progress
  | .header path => (atHeader openTable path p.2).map (path, ·)
  | .itemHeader path => (atHeader openItem path p.2).map (path, ·)
  | .assign path j => (within (assign j path) p.1 p.2).map (p.1, ·)

theorem build_eq : ∀ (ss : List Statement) (current : List String) (ms : Members),
    build current ms ss = (ss.foldlM step (current, ms)).map Prod.snd
  | [], _, _ => rfl
  | .header path :: ss, current, ms => by
    rw [build, List.foldlM_cons, step]
    cases atHeader openTable path ms with
    | none => rfl
    | some ms' => exact build_eq ss path ms'
  | .itemHeader path :: ss, current, ms => by
    rw [build, List.foldlM_cons, step]
    cases atHeader openItem path ms with
    | none => rfl
    | some ms' => exact build_eq ss path ms'
  | .assign path j :: ss, current, ms => by
    rw [build, List.foldlM_cons, step]
    cases within (assign j path) current ms with
    | none => rfl
    | some ms' => exact build_eq ss current ms'

/-- Progress in the last table, seen from outside. -/
def inTable (key : String) (ms : Members) (origin : Origin) (p : Progress) : Progress :=
  (key :: p.1, ms ++ [(key, .table origin p.2)])

theorem lookup_last (h : ms.lookup key = none) (node : Node) : (ms ++ [(key, node)]).lookup key = some node := by
  rw [List.lookup_append, h]
  simp

theorem replaced_last (h : ms.lookup key = none) (node node' : Node) :
    replaced key node' (ms ++ [(key, node)]) = ms ++ [(key, node')] := by
  unfold replaced
  rw [List.map_append, List.map_singleton, if_pos rfl]
  congr 1
  refine (List.map_congr_left fun m hm => if_neg fun heq => ?_).trans (List.map_id ms)
  have := List.lookup_eq_none_iff.1 h m hm
  simp [heq] at this

/-- **A statement in a table does to it what it does to a document.** -/
theorem step_below (h : ms.lookup key = none) (origin : Origin) (p : Progress) (hs : s.IsInner) :
    step (inTable key ms origin p) (s.below [key]) = (step p s).map (inTable key ms origin) := by
  have hlast := lookup_last h (.table origin p.2)
  cases s with
  | header path =>
    obtain ⟨k, path, rfl⟩ := List.exists_cons_of_ne_nil hs
    simp only [step, Statement.below, inTable, List.singleton_append, atHeader, hlast, Option.map_map,
      replaced_last h]
    rfl
  | itemHeader path =>
    obtain ⟨k, path, rfl⟩ := List.exists_cons_of_ne_nil hs
    simp only [step, Statement.below, inTable, List.singleton_append, atHeader, hlast, Option.map_map,
      replaced_last h]
    rfl
  | assign path j =>
    simp only [step, Statement.below, inTable, within, hlast, Option.map_map, replaced_last h]
    rfl

theorem foldlM_below (h : ms.lookup key = none) (origin : Origin) :
    ∀ (ss : List Statement) (p : Progress), (∀ s ∈ ss, s.IsInner) →
      (ss.map (.below [key])).foldlM step (inTable key ms origin p) =
        (ss.foldlM step p).map (inTable key ms origin)
  | [], _, _ => rfl
  | s :: ss, p, hss => by
    rw [List.forall_mem_cons] at hss
    rw [List.map_cons, List.foldlM_cons, List.foldlM_cons, step_below h origin p hss.1]
    cases step p s with
    | none => rfl
    | some p' => exact foldlM_below h origin ss p' hss.2

/-- A header that leads through a table that is not there makes it. -/
theorem step_implied (h : ms.lookup key = none) (current : List String) (hpath : path ≠ []) :
    step (current, ms) (.header (key :: path)) =
      step (inTable key ms .implied ([], [])) (.header (key :: path)) := by
  obtain ⟨k, path, rfl⟩ := List.exists_cons_of_ne_nil hpath
  simp only [step, inTable, atHeader, h, lookup_last h, replaced_last h]

/-! ## What a document is written as -/

/-- The values of a table. -/
def assignments (members : List (String × Json)) : List Statement :=
  (members.filter fun m => !isTable m.2).map fun m => .assign [m.1] m.2

mutual

/-- The statements of a table, a block for each table in it that has a header of its own. -/
def tableBlocks : Json → List (List Statement)
  | .obj members =>
    (if members.all (fun m => isTable m.2) && !members.isEmpty then [] else [.header [] :: assignments members]) ++
      membersBlocks members
  | _ => []
termination_by structural j => j

def membersBlocks : List (String × Json) → List (List Statement)
  | [] => []
  | m :: rest => memberBlocks m ++ membersBlocks rest
termination_by structural l => l

def memberBlocks : String × Json → List (List Statement)
  | (key, j) => (tableBlocks j).map (List.map (.below [key]))
termination_by structural m => m

end

/-- The statements of a document. -/
def documentBlocks (members : List (String × Json)) : List (List Statement) :=
  (if assignments members = [] then [] else [assignments members]) ++ membersBlocks members

/-- The text of a block in the table at a path. -/
def textBelow (path : List String) (b : List Statement) : List Char := b.flatMap fun s => (s.below path).text

theorem text_assignment (m : String × Json) : Statement.text (.assign [m.1] m.2) = writeAssignment m := by
  simp [Statement.text, writeAssignment, writePath]

theorem textBelow_assignments (path : List String) (members : List (String × Json)) :
    textBelow path (assignments members) = writeAssignments members := by
  unfold textBelow assignments writeAssignments
  rw [List.flatMap_map]
  exact List.flatMap_congr fun m _ => text_assignment m

theorem textBelow_header (path : List String) (members : List (String × Json)) :
    textBelow path (.header [] :: assignments members) =
      ['['] ++ writePath path ++ [']', '\n'] ++ writeAssignments members := by
  rw [← textBelow_assignments path]
  simp [textBelow, Statement.below, Statement.text]

theorem textBelow_map (path : List String) (key : String) (b : List Statement) :
    textBelow path (b.map (.below [key])) = textBelow (path ++ [key]) b := by
  unfold textBelow
  rw [List.flatMap_map]
  simp only [Statement.below_below]

mutual

theorem tableText_eq (path : List String) : ∀ j : Json, tableText path j = (tableBlocks j).map (textBelow path)
  | .obj members => by
    rw [tableText, tableBlocks, List.map_append, tablesText_eq path members]
    split_ifs
    · rfl
    · rw [List.map_singleton, textBelow_header]
  | .null => rfl
  | .bool _ => rfl
  | .num _ => rfl
  | .str _ => rfl
  | .arr _ => rfl
termination_by structural j => j

theorem tablesText_eq (path : List String) :
    ∀ members : List (String × Json), tablesText path members = (membersBlocks members).map (textBelow path)
  | [] => rfl
  | m :: members => by
    rw [tablesText, membersBlocks, List.map_append, memberText_eq path m, tablesText_eq path members]
termination_by structural l => l

theorem memberText_eq (path : List String) :
    ∀ m : String × Json, memberText path m = (memberBlocks m).map (textBelow path)
  | (key, j) => by
    rw [memberText, memberBlocks, List.map_map, tableText_eq (path ++ [key]) j]
    exact List.map_congr_left fun b _ => (textBelow_map path key b).symm
termination_by structural m => m

end

theorem print_obj (members : List (String × Json)) :
    print (.obj members) = String.ofList (blocksText (documentBlocks members)) := by
  have hinner : textBelow [] = List.flatMap Statement.text := by
    funext b
    simp only [textBelow, Statement.below_nil]
  have hvalues := textBelow_assignments [] members
  have hempty : (writeAssignments members).isEmpty = decide (assignments members = []) := by
    rw [← hvalues, hinner]
    cases assignments members with
    | nil => rfl
    | cons s ss => cases s <;> simp [Statement.text]
  unfold print blocksText documentBlocks
  simp only [hempty, decide_eq_true_eq]
  rw [tablesText_eq, List.map_append, hinner, ← hvalues, hinner]
  split_ifs <;> rfl

/-! ## Documents that are read back -/

/-- A document that has tables in tables up to a depth, with the values of each table before its tables. -/
inductive Tabular : Nat → Json → Prop where
  | obj {n : Nat} {values tables : List (String × Json)} (hvalues : ∀ m ∈ values, isWritable m.2 = true)
      (htables : ∀ m ∈ tables, Tabular n m.2) (hkeys : ((values ++ tables).map Prod.fst).Nodup) :
      Tabular (n + 1) (.obj (values ++ tables))

theorem Tabular.isTable (h : Tabular n j) : isTable j = true := by
  cases h
  rfl

theorem isTable_of_isWritable (h : isWritable j = true) : isTable j = false := by
  cases j with
  | obj => cases h
  | _ => rfl

section Parts

variable {values tables : List (String × Json)}

theorem assignments_append (hvalues : ∀ m ∈ values, isWritable m.2 = true)
    (htables : ∀ m ∈ tables, isTable m.2 = true) :
    assignments (values ++ tables) = values.map fun m => .assign [m.1] m.2 := by
  unfold assignments
  rw [List.filter_append, List.filter_eq_self.2 fun m hm => by rw [isTable_of_isWritable (hvalues m hm)]; rfl,
    List.filter_eq_nil_iff.2 fun m hm => by rw [htables m hm]; decide, List.append_nil]

theorem memberBlocks_of_isTable (m : String × Json) (h : isTable m.2 = false) : memberBlocks m = [] := by
  obtain ⟨key, j⟩ := m
  cases j with
  | obj => cases h
  | _ => rfl

theorem membersBlocks_append (hvalues : ∀ m ∈ values, isWritable m.2 = true) :
    membersBlocks (values ++ tables) = membersBlocks tables := by
  induction values with
  | nil => rfl
  | cons m values ih =>
    rw [List.forall_mem_cons] at hvalues
    rw [List.cons_append, membersBlocks, memberBlocks_of_isTable m (isTable_of_isWritable hvalues.1), ih hvalues.2]
    rfl

end Parts

theorem membersToJson_eq (ms : Members) : membersToJson ms = ms.map fun m => (m.1, m.2.toJson) := by
  induction ms with
  | nil => rfl
  | cons m ms ih =>
    obtain ⟨key, node⟩ := m
    rw [membersToJson, ih]
    rfl

theorem lookup_eq_none {rest : List (String × Json)}
    (h : ((membersToJson ms ++ (key, j) :: rest).map Prod.fst).Nodup) : ms.lookup key = none := by
  rw [List.lookup_eq_none_iff]
  rintro m hm
  rw [membersToJson_eq, List.map_append, List.map_cons, List.nodup_append] at h
  have hne : m.1 ≠ key := h.2.2 m.1 (by simpa using ⟨m.2, hm⟩) key List.mem_cons_self
  simpa using Ne.symm hne

/-! ## Building what was written -/

/-- These statements add members to the tables that are there, whatever table is open. -/
def Adds (ss : List Statement) (members : List (String × Json)) : Prop :=
  ∀ (current : List String) (ms : Members), ((membersToJson ms ++ members).map Prod.fst).Nodup →
    ∃ p, ss.foldlM step (current, ms) = some p ∧ membersToJson p.2 = membersToJson ms ++ members

theorem Adds.nil : Adds [] [] := fun current ms _ => ⟨(current, ms), rfl, (List.append_nil _).symm⟩

theorem Adds.append {ss ss' : List Statement} {members members' : List (String × Json)} (h : Adds ss members)
    (h' : Adds ss' members') : Adds (ss ++ ss') (members ++ members') := by
  intro current ms hkeys
  rw [← List.append_assoc] at hkeys
  obtain ⟨p, hp, hms⟩ := h current ms (by
    rw [List.map_append] at hkeys
    exact (List.nodup_append.1 hkeys).1)
  obtain ⟨p', hp', hms'⟩ := h' p.1 p.2 (by rwa [hms])
  refine ⟨p', ?_, by rw [hms', hms, List.append_assoc]⟩
  rw [List.foldlM_append, hp]
  exact hp'

/-- In the document itself values add themselves. -/
theorem foldlM_values : ∀ (values : List (String × Json)) (ms : Members),
    ((membersToJson ms ++ values).map Prod.fst).Nodup →
      ∃ ms', (values.map fun m => Statement.assign [m.1] m.2).foldlM step ([], ms) = some ([], ms') ∧
        membersToJson ms' = membersToJson ms ++ values
  | [], ms, _ => ⟨ms, rfl, (List.append_nil _).symm⟩
  | (key, j) :: values, ms, hkeys => by
    have hadded : membersToJson (ms ++ [(key, .value j)]) = membersToJson ms ++ [(key, j)] := by
      simp [membersToJson_eq, Node.toJson]
    obtain ⟨ms', hms', hjson⟩ := foldlM_values values (ms ++ [(key, .value j)]) (by
      rwa [hadded, List.append_assoc])
    refine ⟨ms', ?_, by rw [hjson, hadded, List.append_assoc]; rfl⟩
    rw [List.map_cons, List.foldlM_cons]
    have hstep : step ([], ms) (.assign [key] j) = some ([], ms ++ [(key, .value j)]) := by
      simp only [step, within, assign, lookup_eq_none hkeys]
      rfl
    rw [hstep]
    exact hms'

/-- As a document these statements have these members. -/
def Makes (ss : List Statement) (members : List (String × Json)) : Prop :=
  ∃ p, ss.foldlM step ([], []) = some p ∧ membersToJson p.2 = members

theorem Makes.of_adds {values tables : List (String × Json)} (h : Adds ss tables)
    (hkeys : ((values ++ tables).map Prod.fst).Nodup) :
    Makes ((values.map fun m => .assign [m.1] m.2) ++ ss) (values ++ tables) := by
  obtain ⟨ms, hms, hjson⟩ := foldlM_values values [] (by
    rw [List.map_append] at hkeys
    exact (List.nodup_append.1 hkeys).1)
  obtain ⟨p, hp, hmembers⟩ := h [] ms (by rwa [hjson])
  refine ⟨p, ?_, by rw [hmembers, hjson]; rfl⟩
  rw [List.foldlM_append, hms]
  exact hp

theorem membersToJson_inTable (key : String) (ms : Members) (origin : Origin) (p : Progress) :
    membersToJson (inTable key ms origin p).2 = membersToJson ms ++ [(key, .obj (membersToJson p.2))] := by
  rw [membersToJson_eq, inTable, List.map_append, ← membersToJson_eq]
  rfl

/-- A table with a header of its own. -/
theorem Makes.adds_header {members : List (String × Json)} (h : Makes ss members) (hss : ∀ s ∈ ss, s.IsInner)
    (key : String) : Adds (.header [key] :: ss.map (.below [key])) [(key, .obj members)] := by
  obtain ⟨p, hp, rfl⟩ := h
  intro current ms hkeys
  have hnew := lookup_eq_none hkeys
  refine ⟨inTable key ms .header p, ?_, membersToJson_inTable key ms .header p⟩
  have hopen : step (current, ms) (.header [key]) = some (inTable key ms .header ([], [])) := by
    simp only [step, atHeader, openTable, hnew]
    rfl
  rw [List.foldlM_cons, hopen]
  exact (foldlM_below hnew .header ss ([], []) hss).trans (by rw [hp]; rfl)

/-- A table that the header of the first table in it implies. -/
theorem Makes.adds_implied {members : List (String × Json)} (h : Makes (.header path :: ss) members)
    (hpath : path ≠ []) (hss : ∀ s ∈ ss, s.IsInner) (key : String) :
    Adds ((Statement.header path :: ss).map (.below [key])) [(key, .obj members)] := by
  obtain ⟨p, hp, rfl⟩ := h
  intro current ms hkeys
  have hnew := lookup_eq_none hkeys
  refine ⟨inTable key ms .implied p, ?_, membersToJson_inTable key ms .implied p⟩
  have hrun := foldlM_below hnew .implied (.header path :: ss) ([], []) (List.forall_mem_cons.2 ⟨hpath, hss⟩)
  rw [hp, List.map_cons, List.foldlM_cons] at hrun
  rw [List.map_cons, List.foldlM_cons]
  exact (congrArg (· >>= _) (step_implied hnew current hpath)).trans hrun

section Tables

variable {values tables : List (String × Json)}

theorem flatten_memberBlocks (m : String × Json) :
    (memberBlocks m).flatten = (tableBlocks m.2).flatten.map (.below [m.1]) := by
  obtain ⟨key, j⟩ := m
  rw [memberBlocks, List.map_flatten]

/-- A table has a header of its own unless there are only tables in it. -/
theorem flatten_tableBlocks (hvalues : ∀ m ∈ values, isWritable m.2 = true)
    (htables : ∀ m ∈ tables, isTable m.2 = true) :
    (values = [] ∧ tables ≠ [] ∧ tableBlocks (.obj (values ++ tables)) = membersBlocks tables) ∨
      tableBlocks (.obj (values ++ tables)) =
        (.header [] :: values.map fun m => .assign [m.1] m.2) :: membersBlocks tables := by
  rw [tableBlocks, membersBlocks_append hvalues, assignments_append hvalues htables]
  split_ifs with h
  · rw [Bool.and_eq_true, List.all_append, Bool.and_eq_true, List.all_eq_true] at h
    have hnone : values = [] := List.eq_nil_iff_forall_not_mem.2 fun m hm => by
      have := h.1.1 m hm
      rw [isTable_of_isWritable (hvalues m hm)] at this
      cases this
    refine .inl ⟨hnone, ?_, rfl⟩
    rintro rfl
    rw [hnone] at h
    exact absurd h.2 (by decide)
  · exact .inr rfl

theorem isInner_values (values : List (String × Json)) :
    ∀ s ∈ values.map fun m => Statement.assign [m.1] m.2, s.IsInner :=
  List.forall_mem_map.2 fun _ _ => trivial

theorem isInner_memberBlocks (m : String × Json) : ∀ s ∈ (memberBlocks m).flatten, s.IsInner := by
  intro s hs
  rw [flatten_memberBlocks, List.mem_map] at hs
  obtain ⟨s, -, rfl⟩ := hs
  cases s <;> simp [Statement.below, Statement.IsInner]

theorem isInner_membersBlocks (members : List (String × Json)) :
    ∀ s ∈ (membersBlocks members).flatten, s.IsInner := by
  induction members with
  | nil => exact fun s hs => absurd hs List.not_mem_nil
  | cons m members ih =>
    rw [membersBlocks, List.flatten_append, List.forall_mem_append]
    exact ⟨isInner_memberBlocks m, ih⟩

/-- The first statement of a table is a header. -/
theorem Tabular.exists_header (h : Tabular n j) : ∃ path ss, (tableBlocks j).flatten = .header path :: ss := by
  induction h with
  | @obj n values tables hvalues htables hkeys ih =>
    rcases flatten_tableBlocks hvalues fun m hm => (htables m hm).isTable with ⟨-, hne, hblocks⟩ | hblocks
    · obtain ⟨m, tables, rfl⟩ := List.exists_cons_of_ne_nil hne
      obtain ⟨path, ss, hfirst⟩ := ih m List.mem_cons_self
      refine ⟨m.1 :: path, ss.map (.below [m.1]) ++ (membersBlocks tables).flatten, ?_⟩
      rw [hblocks, membersBlocks, List.flatten_append, flatten_memberBlocks, hfirst]
      rfl
    · exact ⟨[], _, by rw [hblocks]; rfl⟩

theorem adds_membersBlocks (h : ∀ m ∈ tables, Adds (memberBlocks m).flatten [m]) :
    Adds (membersBlocks tables).flatten tables := by
  induction tables with
  | nil => exact .nil
  | cons m tables ih =>
    rw [List.forall_mem_cons] at h
    rw [membersBlocks, List.flatten_append]
    exact h.1.append (ih h.2)

/-- **A table is added by its statements.** -/
theorem Tabular.adds (h : Tabular n j) : ∀ key, Adds (memberBlocks (key, j)).flatten [(key, j)] := by
  induction h with
  | @obj n values tables hvalues htables hkeys ih =>
    intro key
    have htable : ∀ m ∈ tables, Toml.isTable m.2 = true := fun m hm => (htables m hm).isTable
    have hadds : Adds (membersBlocks tables).flatten tables := adds_membersBlocks fun m hm => ih m hm m.1
    have hmakes := Makes.of_adds hadds hkeys
    have hinner := isInner_membersBlocks tables
    rw [flatten_memberBlocks]
    rcases flatten_tableBlocks hvalues htable with ⟨rfl, hne, hblocks⟩ | hblocks
    · obtain ⟨m, rest, hrest⟩ := List.exists_cons_of_ne_nil hne
      obtain ⟨path, ss, hfirst⟩ := (htables m (by rw [hrest]; exact List.mem_cons_self)).exists_header
      have hhead : (membersBlocks tables).flatten =
          .header (m.1 :: path) :: (ss.map (.below [m.1]) ++ (membersBlocks rest).flatten) := by
        rw [hrest, membersBlocks, List.flatten_append, flatten_memberBlocks, hfirst]
        rfl
      rw [hhead, List.forall_mem_cons] at hinner
      rw [hblocks, hhead]
      rw [hhead] at hmakes
      exact hmakes.adds_implied (List.cons_ne_nil _ _) hinner.2 key
    · rw [hblocks]
      exact Makes.adds_header hmakes (List.forall_mem_append.2 ⟨isInner_values values, hinner⟩) key

/-! ## What is written can be read -/

/-- A statement with a header of less than so many keys, or with a value that can be written. -/
def Statement.Fits (n : Nat) : Statement → Prop
  | .header path | .itemHeader path => path.length < n
  | .assign path j => IsPath path ∧ isWritable j = true

theorem Statement.Fits.below (h : s.Fits n) (key : String) : (s.below [key]).Fits (n + 1) := by
  cases s with
  | assign => exact h
  | _ => exact Nat.succ_lt_succ h

theorem Statement.Fits.isWritable (h : s.Fits n) (hs : s.IsInner) (hn : n ≤ maxDepth + 1) : s.IsWritable := by
  cases s with
  | assign => exact h
  | _ => exact ⟨hs, Nat.le_of_lt_succ (Nat.lt_of_lt_of_le h hn)⟩

theorem fits_values (hvalues : ∀ m ∈ values, isWritable m.2 = true) (n : Nat) :
    ∀ s ∈ values.map fun m => Statement.assign [m.1] m.2, s.Fits n :=
  List.forall_mem_map.2 fun m hm => ⟨⟨List.cons_ne_nil _ _, by simp [maxDepth]⟩, hvalues m hm⟩

theorem fits_membersBlocks (h : ∀ m ∈ tables, ∀ b ∈ tableBlocks m.2, b ≠ [] ∧ ∀ s ∈ b, s.Fits n) :
    ∀ b ∈ membersBlocks tables, b ≠ [] ∧ ∀ s ∈ b, s.Fits (n + 1) := by
  induction tables with
  | nil => exact fun b hb => absurd hb List.not_mem_nil
  | cons m tables ih =>
    rw [List.forall_mem_cons] at h
    rw [membersBlocks, List.forall_mem_append]
    refine ⟨?_, ih h.2⟩
    obtain ⟨key, j⟩ := m
    rw [memberBlocks, List.forall_mem_map]
    rintro b hb
    obtain ⟨hne, hfits⟩ := h.1 b hb
    exact ⟨fun hnil => hne (List.map_eq_nil_iff.1 hnil), List.forall_mem_map.2 fun s hs => (hfits s hs).below key⟩

theorem Tabular.fits (h : Tabular n j) : ∀ b ∈ tableBlocks j, b ≠ [] ∧ ∀ s ∈ b, s.Fits n := by
  induction h with
  | @obj n values tables hvalues htables hkeys ih =>
    rcases flatten_tableBlocks hvalues fun m hm => (htables m hm).isTable with ⟨-, -, hblocks⟩ | hblocks
    · rw [hblocks]
      exact fits_membersBlocks ih
    · rw [hblocks, List.forall_mem_cons, List.forall_mem_cons]
      exact ⟨⟨List.cons_ne_nil _ _, Nat.succ_pos n, fits_values hvalues (n + 1)⟩, fits_membersBlocks ih⟩

theorem documentBlocks_append (hvalues : ∀ m ∈ values, isWritable m.2 = true)
    (htables : ∀ m ∈ tables, isTable m.2 = true) :
    documentBlocks (values ++ tables) =
      (if values = [] then [] else [values.map fun m => .assign [m.1] m.2]) ++ membersBlocks tables := by
  unfold documentBlocks
  rw [assignments_append hvalues htables, membersBlocks_append hvalues]
  simp only [List.map_eq_nil_iff]

theorem areWritable_documentBlocks (hvalues : ∀ m ∈ values, isWritable m.2 = true)
    (htables : ∀ m ∈ tables, Tabular n m.2) (hn : n ≤ maxDepth) : AreWritable (documentBlocks (values ++ tables)) := by
  unfold AreWritable
  rw [documentBlocks_append hvalues fun m hm => (htables m hm).isTable, List.forall_mem_append]
  constructor
  · split_ifs with hnil
    · exact fun b hb => absurd hb List.not_mem_nil
    · rw [List.forall_mem_singleton]
      exact ⟨fun h => hnil (List.map_eq_nil_iff.1 h), fun s hs =>
        (fits_values hvalues 0 s hs).isWritable (isInner_values values s hs) (Nat.zero_le _)⟩
  · rintro b hb
    obtain ⟨hne, hfits⟩ := fits_membersBlocks (fun m hm => (htables m hm).fits) b hb
    refine ⟨hne, fun s hs => (hfits s hs).isWritable ?_ (Nat.succ_le_succ hn)⟩
    exact isInner_membersBlocks tables s (List.mem_flatten_of_mem hb hs)

end Tables

/-- **A document is read back from its text.** -/
theorem parse?_print (h : Tabular n j) (hn : n ≤ maxDepth + 1) : parse? (print j) = some j := by
  cases h with
  | @obj n values tables hvalues htables hkeys =>
    have htable : ∀ m ∈ tables, isTable m.2 = true := fun m hm => (htables m hm).isTable
    have hwritable := areWritable_documentBlocks hvalues htables (Nat.le_of_succ_le_succ hn)
    have hflatten : (documentBlocks (values ++ tables)).flatten =
        (values.map fun m => .assign [m.1] m.2) ++ (membersBlocks tables).flatten := by
      rw [documentBlocks_append hvalues htable, List.flatten_append]
      split_ifs with hnil
      · rw [hnil]
        rfl
      · rw [List.flatten_singleton]
    have hadds : Adds (membersBlocks tables).flatten tables :=
      adds_membersBlocks fun m hm => (htables m hm).adds m.1
    obtain ⟨p, hp, hmembers⟩ := Makes.of_adds hadds hkeys
    rw [print_obj, hwritable.parse?_blocksText, hflatten]
    unfold ofStatements?
    rw [build_eq, hp, Option.map_some, Option.map_some, hmembers]

end SiteEdit.Toml
