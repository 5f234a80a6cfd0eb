import SiteEdit.Json.Basic
/-!
# Events

What the parts of the engine report about themselves.  A part does not write the log: each of its operations returns
the events that belong to it.
-/
namespace SiteEdit.Audit

/-- How serious an event is. -/
inductive Level where
  | info
  | warning
  | critical
  deriving DecidableEq, Repr

namespace Level

def all : List Level := [.info, .warning, .critical]

def name : Level → String
  | .info => "info"
  | .warning => "warning"
  | .critical => "critical"

/-- Where a level stands in the order of seriousness. -/
def rank : Level → Nat
  | .info => 0
  | .warning => 1
  | .critical => 2

end Level

/-- Something that happened. -/
structure Event where
  level : Level
  name : String
  session : Option String
  data : Json
  deriving DecidableEq, Repr

/-- A result, the state after it, and what is to be recorded about it. -/
structure Audited (σ α : Type) where
  result : α
  state : σ
  events : List Event := []

namespace Audited

variable {σ α β : Type}

/-- Goes on from a result and its state.  The events of both follow each other. -/
def next (a : Audited σ α) (f : α → σ → Audited σ β) : Audited σ β :=
  let b := f a.result a.state
  { b with events := a.events ++ b.events }

/-- Changes the result. -/
def map (f : α → β) (a : Audited σ α) : Audited σ β := { result := f a.result, state := a.state, events := a.events }

end Audited

end SiteEdit.Audit
