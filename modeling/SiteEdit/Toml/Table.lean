import SiteEdit.Toml.Statement
/-!
# Tables of TOML

The statements of a document build up a tree of tables.  A key has one value and a table one header.  A table that
was only implied by a longer header can still get its own; one that was built by dotted keys cannot.  A header that
leads through an array of tables means the last of them.
-/
namespace SiteEdit.Toml

/-- How a table came to be. -/
inductive Origin where
  | header
  | implied
  | dotted
  deriving DecidableEq, Repr

/-- A value, a table, or an array of tables, of which the last one can still grow. -/
inductive Node where
  | value (j : Json)
  | table (origin : Origin) (members : List (String × Node))
  | tables (complete : List Json) (members : List (String × Node))
  deriving Repr

/-- The members of a table, in the order in which they came to be. -/
abbrev Members := List (String × Node)

/-- Puts another node in the place of a member. -/
def replaced (key : String) (n : Node) (ms : Members) : Members :=
  ms.map fun m => if m.1 = key then (key, n) else m

mutual

/-- A node as a value. -/
def Node.toJson : Node → Json
  | .value j => j
  | .table _ members => .obj (membersToJson members)
  | .tables complete members => .arr (complete ++ [.obj (membersToJson members)])
termination_by structural n => n

def membersToJson : List (String × Node) → List (String × Json)
  | [] => []
  | m :: rest => memberToJson m :: membersToJson rest
termination_by structural l => l

def memberToJson : String × Node → String × Json
  | (key, n) => (key, n.toJson)
termination_by structural m => m

end

/-- Changes the table that holds the last key of the path of a header. -/
def atHeader (change : String → Members → Option Members) : List String → Members → Option Members
  | [], _ => none
  | [key], ms => change key ms
  | key :: path, ms =>
    match ms.lookup key with
    | none => (atHeader change path []).map fun inner => ms ++ [(key, .table .implied inner)]
    | some (.table origin inner) =>
      (atHeader change path inner).map fun inner => replaced key (.table origin inner) ms
    | some (.tables complete inner) =>
      (atHeader change path inner).map fun inner => replaced key (.tables complete inner) ms
    | some (.value _) => none

/-- Opens a table by its header. -/
def openTable (key : String) (ms : Members) : Option Members :=
  match ms.lookup key with
  | none => some (ms ++ [(key, .table .header [])])
  | some (.table .implied inner) => some (replaced key (.table .header inner) ms)
  | some _ => none

/-- Opens the next table in an array. -/
def openItem (key : String) (ms : Members) : Option Members :=
  match ms.lookup key with
  | none => some (ms ++ [(key, .tables [] [])])
  | some (.tables complete inner) =>
    some (replaced key (.tables (complete ++ [.obj (membersToJson inner)]) []) ms)
  | some _ => none

/-- Gives a dotted key its value.  The last table on the way must have come by dotted keys. -/
def assign (j : Json) : List String → Members → Option Members
  | [], _ => none
  | [key], ms =>
    match ms.lookup key with
    | none => some (ms ++ [(key, .value j)])
    | some _ => none
  | key :: path, ms =>
    match ms.lookup key with
    | none => (assign j path []).map fun inner => ms ++ [(key, .table .dotted inner)]
    | some (.table .dotted inner) => (assign j path inner).map fun inner => replaced key (.table .dotted inner) ms
    | some (.table .implied inner) =>
      if path.length < 2 then none
      else (assign j path inner).map fun inner => replaced key (.table .implied inner) ms
    | some (.tables complete inner) =>
      if path.length < 2 then none
      else (assign j path inner).map fun inner => replaced key (.tables complete inner) ms
    | some _ => none

/-- Changes the table at a path. -/
def within (f : Members → Option Members) : List String → Members → Option Members
  | [], ms => f ms
  | key :: path, ms =>
    match ms.lookup key with
    | some (.table origin inner) => (within f path inner).map fun inner => replaced key (.table origin inner) ms
    | some (.tables complete inner) =>
      (within f path inner).map fun inner => replaced key (.tables complete inner) ms
    | _ => none

/-- Carries out statements; `current` is the path of the table that is open. -/
def build : List String → Members → List Statement → Option Members
  | _, ms, [] => some ms
  | _, ms, .header path :: rest => (atHeader openTable path ms).bind fun ms => build path ms rest
  | _, ms, .itemHeader path :: rest => (atHeader openItem path ms).bind fun ms => build path ms rest
  | current, ms, .assign path j :: rest => (within (assign j path) current ms).bind fun ms => build current ms rest

/-- The value of a document. -/
def ofStatements? (statements : List Statement) : Option Json :=
  (build [] [] statements).map fun ms => .obj (membersToJson ms)

end SiteEdit.Toml
