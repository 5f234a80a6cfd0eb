import SiteEdit.Document.Basic
import SiteEdit.Time
/-!
# Sessions and snapshots

A session belongs to one client and lives for a limited time.  A snapshot is one accepted document of a session.
-/
namespace SiteEdit

/-- How much a session was used. -/
structure Session.Quota where
  requestCount : Nat
  transformCount : Nat
  deriving DecidableEq, Repr

/-- A session. -/
structure Session where
  id : String
  /-- The hash of the client's address and user agent. -/
  identity : String
  createdAt : Millis
  /-- When its time is over. -/
  ttlAt : Millis
  quota : Session.Quota
  deriving DecidableEq, Repr

/-- What is noted about a snapshot. -/
structure Snapshot.Metadata where
  timestamp : Millis
  note : Option String
  deriving DecidableEq, Repr

/-- An accepted document. -/
structure Snapshot where
  id : String
  sessionId : String
  document : Document
  metadata : Snapshot.Metadata
  createdAt : Millis
  deriving DecidableEq, Repr

namespace Session

/-- Whether the time of a session is over. -/
def isExpired (s : Session) (now : Millis) : Bool := s.ttlAt ≤ now

/-- How long a session has left. -/
def ttlRemaining (s : Session) (now : Millis) : Millis := max 0 (s.ttlAt - now)

/-- The settings of sessions. -/
structure Settings where
  /-- How long a session lives after its last change. -/
  ttlSecs : UInt64 := 1800
  /-- How many snapshots its history keeps. -/
  maxHistory : UInt64 := 5
  /-- How many undone snapshots are kept. -/
  maxDetached : UInt64 := 5
  deriving DecidableEq, Repr

/-- How long a session lives after its last change. -/
def Settings.ttl (s : Settings) : Millis := seconds s.ttlSecs

/-- What taking back snapshots did. -/
structure UndoOutcome where
  /-- The snapshots that were taken back, the newest first. -/
  removed : List String
  /-- The newest snapshot that is left. -/
  current : Option Snapshot
  deriving DecidableEq, Repr

/-- What can be seen of a session. -/
structure State where
  sessionId : String
  snapshotCount : Nat
  currentSnapshotId : Option String
  ttlRemaining : Millis
  canUndo : Bool
  quota : Quota
  deriving DecidableEq, Repr

/-- Counts of sessions and snapshots. -/
structure Stats where
  activeSessions : Nat
  storedSnapshots : Nat
  sessionsCreated : Nat
  sessionsExpired : Nat
  sessionsDestroyed : Nat
  sessionsDiscarded : Nat
  snapshotsCreated : Nat
  snapshotsEvicted : Nat
  deriving DecidableEq, Repr

/-- Why a session cannot be used. -/
inductive Error where
  | notFound (id : String)
  | expired (id : String)
  deriving DecidableEq, Repr

/-- The sentence for an error. -/
def Error.message : Error → String
  | .notFound id => "Session not found: " ++ id
  | .expired id => "Session expired: " ++ id

end Session

end SiteEdit
