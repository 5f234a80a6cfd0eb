import SiteEdit.Session.Basic
/-!
# A session and its snapshots

The history holds the snapshots in force, the detached queue those that were taken back.  Both have an upper bound
and lose their oldest snapshots first.
-/
namespace SiteEdit.Session

/-- A session and the ids of its snapshots, the oldest first. -/
structure Entry where
  session : Session
  history : List String
  detached : List String
  deriving DecidableEq, Repr

namespace Entry

/-- The entry of a session without snapshots. -/
def ofSession (s : Session) : Entry := { session := s, history := [], detached := [] }

/-- Whether the session never had a snapshot. -/
def isUnused (e : Entry) : Bool :=
  e.session.quota.transformCount == 0 && e.history.isEmpty && e.detached.isEmpty

/-- The newest snapshot in force. -/
def current? (e : Entry) : Option String := e.history.getLast?

/-- The entry with its time starting anew. -/
def slide (e : Entry) (now ttl : Millis) : Entry := { e with session := { e.session with ttlAt := now + ttl } }

/-- The entry with one more request counted. -/
def countRequest (e : Entry) : Entry :=
  let quota := e.session.quota
  { e with session := { e.session with quota := { quota with requestCount := quota.requestCount + 1 } } }

/-- The entry with one more transformation counted. -/
def countTransform (e : Entry) : Entry :=
  let quota := e.session.quota
  { e with session := { e.session with quota := { quota with transformCount := quota.transformCount + 1 } } }

/-- Adds a snapshot to the history; returns those that are pushed out. -/
def push (e : Entry) (id : String) (cap : Nat) : Entry × List String :=
  let history := e.history ++ [id]
  let surplus := history.length - cap
  ({ e with history := history.drop surplus }, history.take surplus)

/-- Adds snapshots to the detached queue; returns those that are pushed out. -/
def detach (e : Entry) (ids : List String) (cap : Nat) : Entry × List String :=
  let detached := e.detached ++ ids
  let surplus := detached.length - cap
  ({ e with detached := detached.drop surplus }, detached.take surplus)

/-- Takes the newest snapshot off the history, `n` times; returns what was there to take, the newest first. -/
def popBack (e : Entry) : Nat → Entry × List String
  | 0 => (e, [])
  | n + 1 =>
    let (rest, removed) := { e with history := e.history.dropLast }.popBack n
    (rest, e.history.getLast?.toList ++ removed)

/-- Takes up to `steps` snapshots off the history, one after the other; returns them, the newest first. -/
def pop (e : Entry) (steps : Nat) : Entry × List String := e.popBack (min steps e.history.length)

/-- Takes all snapshots off the history at once; returns them, the newest first. -/
def drain (e : Entry) : Entry × List String := ({ e with history := [] }, e.history.reverse)

end Entry

end SiteEdit.Session
