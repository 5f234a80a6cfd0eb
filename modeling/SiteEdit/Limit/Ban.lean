import SiteEdit.Time
/-!
# Bans
-/
namespace SiteEdit.Limit

/-- Who placed a ban. -/
inductive BanSource where
  /-- The limiter, after too many violations. -/
  | automatic
  /-- An operator. -/
  | admin
  deriving DecidableEq, Repr

namespace BanSource

def all : List BanSource := [.automatic, .admin]

def name : BanSource → String
  | .automatic => "automatic"
  | .admin => "admin"

end BanSource

/-- A ban on a key. -/
structure Ban where
  reason : String
  bannedAt : Millis
  /-- When it ends; a permanent ban does not. -/
  expiresAt : Option Millis
  source : BanSource
  deriving DecidableEq, Repr

namespace Ban

def isPermanent (b : Ban) : Bool := b.expiresAt.isNone

/-- Whether the ban still holds.  It no longer does at the time when it ends. -/
def isActive (b : Ban) (now : Millis) : Bool :=
  match b.expiresAt with
  | some t => now < t
  | none => true

/-- What someone who is banned is told. -/
def message (b : Ban) : String :=
  match b.expiresAt with
  | some t => "Banned until " ++ toString t ++ " (" ++ b.reason ++ ")"
  | none => "Banned permanently (" ++ b.reason ++ ")"

end Ban

end SiteEdit.Limit
