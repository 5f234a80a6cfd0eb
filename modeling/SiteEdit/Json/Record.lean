import SiteEdit.Json.Basic
/-!
# Reading records and variants from JSON

A record is an object with a member for each field, or the list of its fields in their order.  A closed record
refuses members that are no fields; any other record ignores them.  A variant carries its name in a member of its
own, or as the first item of a list.
-/
namespace SiteEdit.Json

/-! ## Plain values -/

/-- A truth value. -/
def bool? : Json → Option Bool
  | .bool b => some b
  | _ => none

/-- A whole number at least `lo` and below `hi`. -/
def intWithin? (lo hi : Int) : Json → Option Int
  | .num (.int n) => if lo ≤ n ∧ n < hi then some n else none
  | _ => none

/-- A whole number of 64 bits with a sign. -/
def int64? : Json → Option Int := intWithin? (-Int.pow 2 63) (Int.pow 2 63)

/-- A whole number of 64 bits without a sign. -/
def nat64? (j : Json) : Option Nat := (intWithin? 0 (Int.pow 2 64) j).map Int.toNat

/-- A whole number of 32 bits without a sign. -/
def nat32? (j : Json) : Option Nat := (intWithin? 0 (Int.pow 2 32) j).map Int.toNat

/-- A word of 64 bits. -/
def word64? (j : Json) : Option UInt64 := (nat64? j).map UInt64.ofNat

/-- A word of 32 bits. -/
def word32? (j : Json) : Option UInt32 := (nat32? j).map UInt32.ofNat

/-- A list, each item read by `read`. -/
def list? {α : Type} (read : Json → Option α) : Json → Option (List α)
  | .arr items => items.mapM read
  | _ => none

/-- A list of strings. -/
def strings? : Json → Option (List String) := list? asString?

/-- A value or `null`. -/
def nullable? {α : Type} (read : Json → Option α) : Json → Option (Option α)
  | .null => some none
  | j => (read j).map some

/-- The name of a variant without fields: a string, or an object with that one member, which is `null`. -/
def name? : Json → Option String
  | .str s => some s
  | .obj [(s, .null)] => some s
  | _ => none

/-- The name of a variant without fields that stands in a field of another variant: there an empty object will do
for `null`. -/
def innerName? : Json → Option String
  | .obj [(s, .obj [])] => some s
  | j => name? j

/-- The variant of a list of variants that has the name. -/
def variant? {α : Type} (nameOf : α → String) (all : List α) (j : Json) : Option α :=
  (name? j).bind fun s => all.find? (fun a => nameOf a == s)

/-- The variant of a list of variants, in a field of another variant. -/
def innerVariant? {α : Type} (nameOf : α → String) (all : List α) (j : Json) : Option α :=
  (innerName? j).bind fun s => all.find? (fun a => nameOf a == s)

/-! ## Records -/

/-- The fields of a record; `byPosition` if they came as a list. -/
structure Fields where
  members : List (String × Json)
  byPosition : Bool

/-- The fields of a record that ignores other members. -/
def fields? (names : List String) : Json → Option Fields
  | .obj ms => some { members := ms, byPosition := false }
  | .arr items =>
    if items.length ≤ names.length then some { members := names.zip items, byPosition := true } else none
  | _ => none

/-- The fields of a record that refuses other members. -/
def closedFields? (names : List String) (j : Json) : Option Fields :=
  (fields? names j).bind fun f => if f.members.all (fun m => names.contains m.1) then some f else none

namespace Fields

/-- A field that must be there. -/
def get {α : Type} (f : Fields) (name : String) (read : Json → Option α) : Option α :=
  (f.members.lookup name).bind read

/-- A field that may be `null`, or left out of an object. -/
def getOption {α : Type} (f : Fields) (name : String) (read : Json → Option α) : Option (Option α) :=
  match f.members.lookup name with
  | none => if f.byPosition then none else some none
  | some j => nullable? read j

/-- A field that has the value `default` where it is left out. -/
def getD {α : Type} (f : Fields) (name : String) (read : Json → Option α) (default : α) : Option α :=
  match f.members.lookup name with
  | none => some default
  | some j => read j

end Fields

/-! ## Variants -/

/-- The tag of a variant and what is left of its fields. -/
def tagAndRest? (tag : String) : Json → Option (Json × Json)
  | .obj ms => (ms.lookup tag).map fun t => (t, .obj (ms.filter (fun m => m.1 != tag)))
  | .arr (t :: rest) => some (t, .arr rest)
  | _ => none

/-- The name of a variant and what is left of its fields. -/
def tagged? (tag : String) (j : Json) : Option (String × Json) :=
  (tagAndRest? tag j).bind fun r => (asString? r.1).map (·, r.2)

/-- The same for a variant that stands in a field of another variant: there the number of the name among `names` will
do for the name. -/
def innerTagged? (tag : String) (names : List String) (j : Json) : Option (String × Json) :=
  (tagAndRest? tag j).bind fun r => ((asString? r.1).or ((nat64? r.1).bind fun n => names[n]?)).map (·, r.2)

end SiteEdit.Json
