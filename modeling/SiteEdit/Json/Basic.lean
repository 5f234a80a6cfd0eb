import SiteEdit.Number.Shortest
/-!
# JSON values

A number is a whole number or a binary number of 64 bits, and the two are never mixed up: `5` is a whole number and
`5.0` is not.  The members of an object that was read, or that is built by `object`, stand in the order of their
names, each name once.
-/
namespace SiteEdit

open Number (Binary64)

/-- A JSON number. -/
inductive JsonNumber where
  | int (n : Int)
  | real (x : Binary64)
  deriving DecidableEq, Repr

/-- A JSON value. -/
inductive Json where
  | null
  | bool (b : Bool)
  | num (n : JsonNumber)
  | str (s : String)
  | arr (items : List Json)
  | obj (members : List (String × Json))
  deriving Repr

namespace Json

instance : Inhabited Json := ⟨.null⟩

/-! ## Equality -/

mutual

/-- Whether two values are the same. -/
def same : Json → Json → Bool
  | .null, .null => true
  | .bool a, .bool b => a == b
  | .num a, .num b => decide (a = b)
  | .str a, .str b => a == b
  | .arr a, .arr b => sameItems a b
  | .obj a, .obj b => sameMembers a b
  | _, _ => false
termination_by structural j => j

def sameItems : List Json → List Json → Bool
  | [], [] => true
  | a :: as, b :: bs => same a b && sameItems as bs
  | _, _ => false
termination_by structural l => l

def sameMembers : List (String × Json) → List (String × Json) → Bool
  | [], [] => true
  | a :: as, b :: bs => sameMember a b && sameMembers as bs
  | _, _ => false
termination_by structural l => l

def sameMember : String × Json → String × Json → Bool
  | (k, a), (l, b) => k == l && same a b
termination_by structural m => m

end

mutual

theorem same_iff : ∀ a b : Json, same a b = true ↔ a = b
  | .null, b => by cases b <;> simp [same]
  | .bool x, b => by cases b <;> simp [same]
  | .num x, b => by cases b <;> simp [same]
  | .str x, b => by cases b <;> simp [same]
  | .arr xs, b => by
    cases b with
    | arr ys => simp [same, sameItems_iff xs ys]
    | _ => simp [same]
  | .obj xs, b => by
    cases b with
    | obj ys => simp [same, sameMembers_iff xs ys]
    | _ => simp [same]

theorem sameItems_iff : ∀ a b : List Json, sameItems a b = true ↔ a = b
  | [], b => by cases b <;> simp [sameItems]
  | a :: as, b => by
    cases b with
    | nil => simp [sameItems]
    | cons b bs => simp [sameItems, same_iff a b, sameItems_iff as bs]

theorem sameMembers_iff : ∀ a b : List (String × Json), sameMembers a b = true ↔ a = b
  | [], b => by cases b <;> simp [sameMembers]
  | (k, a) :: as, b => by
    cases b with
    | nil => simp [sameMembers]
    | cons b bs =>
      obtain ⟨l, b⟩ := b
      simp [sameMembers, sameMember, same_iff a b, sameMembers_iff as bs]

end

instance : DecidableEq Json := fun a b => decidable_of_iff _ (same_iff a b)

/-! ## Building -/

/-- A natural number as a value. -/
def ofNat (n : Nat) : Json := .num (.int n)

/-- A whole number as a value. -/
def ofInt (n : Int) : Json := .num (.int n)

/-- A value that may be missing, as itself or `null`. -/
def ofOption {α : Type} (f : α → Json) : Option α → Json
  | none => .null
  | some a => f a

/-- A list of values. -/
def ofList {α : Type} (f : α → Json) (as : List α) : Json := .arr (as.map f)

/-- A list of strings. -/
def ofStrings (ss : List String) : Json := ofList .str ss

/-- Puts a member in its place by name; a member of the same name is replaced. -/
def insertMember (k : String) (v : Json) : List (String × Json) → List (String × Json)
  | [] => [(k, v)]
  | (l, w) :: rest =>
    if k < l then (k, v) :: (l, w) :: rest
    else if k = l then (k, v) :: rest
    else (l, w) :: insertMember k v rest

/-- The members in the order of their names; of two with one name the later stays. -/
def sortMembers (ms : List (String × Json)) : List (String × Json) :=
  ms.foldl (fun acc m => insertMember m.1 m.2 acc) []

/-- The object with these members. -/
def object (ms : List (String × Json)) : Json := .obj (sortMembers ms)

/-! ## Looking inside -/

/-- The member of an object with a name. -/
def get? (key : String) : Json → Option Json
  | .obj ms => ms.lookup key
  | _ => none

/-- The string that a value is. -/
def asString? : Json → Option String
  | .str s => some s
  | _ => none

/-- The whole number that a value is. -/
def asInt? : Json → Option Int
  | .num (.int n) => some n
  | _ => none

end Json

end SiteEdit
