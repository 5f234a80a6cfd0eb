import SiteEdit.Audit.Event
import SiteEdit.Identity
import SiteEdit.Session.Entry
import SiteEdit.Store
/-!
# The sessions and their snapshots

Every operation on a session looks first whether its time is over; if so the session is evicted with all its
snapshots.  Ids are chosen by the caller, who must not choose one twice.
-/
namespace SiteEdit.Session

open Audit (Audited Event)

/-- Sessions and snapshots by id, and counters. -/
structure Manager where
  settings : Settings
  sessions : Store Entry
  snapshots : Store Snapshot
  created : Nat
  expired : Nat
  destroyed : Nat
  discarded : Nat
  snapshotsCreated : Nat
  snapshotsEvicted : Nat
  deriving DecidableEq, Repr

namespace Manager

/-- The manager without sessions. -/
def empty (settings : Settings) : Manager :=
  { settings := settings, sessions := .empty, snapshots := .empty, created := 0, expired := 0, destroyed := 0,
    discarded := 0, snapshotsCreated := 0, snapshotsEvicted := 0 }

/-- Something minor that happened to a session. -/
def note (name session : String) (members : List (String × Json)) : Event :=
  { level := .info, name := name, session := some session, data := Json.object members }

/-! ## Dropping -/

/-- Drops snapshots. -/
def dropSnapshots (m : Manager) (ids : List String) : Manager :=
  { m with snapshots := ids.foldl Store.erase m.snapshots }

/-- Drops snapshots that a bound pushed out, and counts them. -/
def evictSnapshots (m : Manager) (ids : List String) : Manager :=
  { m.dropSnapshots ids with snapshotsEvicted := m.snapshotsEvicted + ids.length }

/-- Drops all snapshots of a session; returns how many. -/
def dropSession (m : Manager) (id : String) : Manager × Nat :=
  let kept := m.snapshots.filter fun _ s => s.sessionId != id
  ({ m with sessions := m.sessions.erase id, snapshots := kept }, m.snapshots.size - kept.size)

/-- Drops a session whose time is over. -/
def evict (m : Manager) (id : String) : Audited Manager Unit :=
  let (dropped, deleted) := m.dropSession id
  { result := ()
    state := { dropped with expired := m.expired + 1 }
    events := [note "session_expired" id [("snapshots_deleted", Json.ofNat deleted)]] }

/-! ## Starting -/

/-- Starts a session. -/
def create (m : Manager) (now : Millis) (fresh identity : String) : Audited Manager Session :=
  let session : Session :=
    { id := fresh
      identity := identity
      createdAt := now
      ttlAt := now + m.settings.ttl
      quota := { requestCount := 1, transformCount := 0 } }
  { result := session
    state := { m with sessions := m.sessions.insert fresh (.ofSession session), created := m.created + 1 }
    events := [note "session_created" fresh [("ttl_at", Json.ofInt session.ttlAt)]] }

/-- The session that a client presents, if it is live and the client's own; else a new one, which gets the id
`fresh`. -/
def createOrGet (m : Manager) (now : Millis) (fresh : String) (presented : Option String) (ip userAgent : String) :
    Audited Manager Session :=
  let identity := identityHash ip userAgent
  match presented.bind fun id => (m.sessions.get? id).map fun entry => (id, entry) with
  | none => m.create now fresh identity
  | some (id, entry) =>
    if entry.session.isExpired now then (m.evict id).next fun _ m => m.create now fresh identity
    else if entry.session.identity = identity then
      { result := entry.countRequest.session, state := { m with sessions := m.sessions.adjust id Entry.countRequest } }
    else
      let mismatch : Audited Manager Unit :=
        { result := ()
          state := m
          events := [{
            level := .warning
            name := "session_identity_mismatch"
            session := some id
            data := Json.object [("presented_session", .str id)] }] }
      mismatch.next fun _ m => m.create now fresh identity

/-! ## Using a session -/

/-- Changes a live session.  A session whose time is over is evicted instead. -/
def withLive {α : Type} (m : Manager) (now : Millis) (id : String) (f : Entry → Entry × α) :
    Audited Manager (Except Error α) :=
  match m.sessions.get? id with
  | none => { result := .error (.notFound id), state := m }
  | some entry =>
    if entry.session.isExpired now then (m.evict id).map fun _ => .error (.expired id)
    else
      let (changed, a) := f entry
      { result := .ok a, state := { m with sessions := m.sessions.adjust id fun _ => changed } }

/-- Looks at a live session. -/
def view {α : Type} (m : Manager) (now : Millis) (id : String) (f : Entry → α) : Audited Manager (Except Error α) :=
  m.withLive now id fun entry => (entry, f entry)

/-- Starts the time of a session anew. -/
def renew (m : Manager) (now : Millis) (id : String) : Audited Manager (Except Error Session) :=
  m.withLive now id fun entry =>
    let renewed := entry.slide now m.settings.ttl
    (renewed, renewed.session)

/-- Adds a document to the history of a session, as the snapshot `fresh`.  It is stored before the session is looked
at, so the eviction of an expired session counts it too. -/
def createSnapshot (m : Manager) (now : Millis) (fresh id : String) (document : Document) (text : Option String) :
    Audited Manager (Except Error Snapshot) :=
  let snapshot : Snapshot :=
    { id := fresh
      sessionId := id
      document := document
      metadata := { timestamp := now, note := text }
      createdAt := now }
  let stored := { m with snapshots := m.snapshots.insert fresh snapshot }
  let pushed := stored.withLive now id fun entry =>
    let (longer, evicted) := entry.push fresh m.settings.maxHistory.toNat
    ((longer.slide now m.settings.ttl).countTransform, evicted)
  pushed.next fun
    | .error e, m => { result := .error e, state := m.dropSnapshots [fresh] }
    | .ok evicted, m =>
      { result := .ok snapshot
        state := { m.evictSnapshots evicted with snapshotsCreated := m.snapshotsCreated + 1 }
        events := [note "snapshot_created" id [("snapshot_id", .str fresh),
          ("changes", Json.ofNat document.changes.length), ("evicted", Json.ofStrings evicted)]] }

/-- Takes the newest snapshots off the history of a live session and detaches them.  The result is what was taken off,
what was pushed out of the detached queue, and the newest snapshot that is left. -/
def takeBack (m : Manager) (now : Millis) (id : String) (steps : Nat) :
    Audited Manager (Except Error (List String × List String × Option String)) :=
  let taken := m.withLive now id fun entry =>
    let (shorter, removed) := entry.pop steps
    let (detached, purged) := shorter.detach removed m.settings.maxDetached.toNat
    (detached.slide now m.settings.ttl, (removed, purged, detached.current?))
  taken.next fun
    | .error e, m => { result := .error e, state := m }
    | .ok (removed, purged, current), m =>
      { result := .ok (removed, purged, current), state := m.evictSnapshots purged }

/-- Takes back the newest snapshots. -/
def undo (m : Manager) (now : Millis) (id : String) (steps : Nat) : Audited Manager (Except Error UndoOutcome) :=
  (m.takeBack now id steps).next fun
    | .error e, m => { result := .error e, state := m }
    | .ok (removed, purged, current), m =>
      { result := .ok { removed := removed, current := current.bind m.snapshots.get? }
        state := m
        events := [note "snapshot_undone" id [("steps", Json.ofNat steps), ("removed", Json.ofStrings removed),
          ("current", Json.ofOption .str current), ("purged", Json.ofStrings purged)]] }

/-- Takes back all snapshots. -/
def reset (m : Manager) (now : Millis) (id : String) : Audited Manager (Except Error UndoOutcome) :=
  let taken := m.withLive now id fun entry =>
    let (emptied, removed) := entry.drain
    let (detached, purged) := emptied.detach removed m.settings.maxDetached.toNat
    (detached.slide now m.settings.ttl, (removed, purged))
  taken.next fun
    | .error e, m => { result := .error e, state := m }
    | .ok (removed, purged), m =>
      { result := .ok { removed := removed, current := none }
        state := m.evictSnapshots purged
        events := [note "session_reset" id [("removed", Json.ofStrings removed),
          ("purged", Json.ofStrings purged)]] }

/-! ## Looking -/

/-- The session with an id. -/
def session (m : Manager) (now : Millis) (id : String) : Audited Manager (Except Error Session) :=
  m.view now id Entry.session

/-- The state of a session. -/
def state (m : Manager) (now : Millis) (id : String) : Audited Manager (Except Error State) :=
  m.view now id fun entry =>
    { sessionId := entry.session.id
      snapshotCount := entry.history.length
      currentSnapshotId := entry.current?
      ttlRemaining := entry.session.ttlRemaining now
      canUndo := !entry.history.isEmpty
      quota := entry.session.quota }

/-- The snapshots in force, the oldest first. -/
def history (m : Manager) (now : Millis) (id : String) : Audited Manager (Except Error (List Snapshot)) :=
  (m.view now id Entry.history).map fun ids => ids.map fun ids => ids.filterMap m.snapshots.get?

/-- The snapshot with an id, in force or detached. -/
def snapshot? (m : Manager) (id : String) : Option Snapshot := m.snapshots.get? id

/-- The counts. -/
def stats (m : Manager) : Stats :=
  { activeSessions := m.sessions.size
    storedSnapshots := m.snapshots.size
    sessionsCreated := m.created
    sessionsExpired := m.expired
    sessionsDestroyed := m.destroyed
    sessionsDiscarded := m.discarded
    snapshotsCreated := m.snapshotsCreated
    snapshotsEvicted := m.snapshotsEvicted }

/-! ## Ending -/

/-- Ends a session; says whether there was one. -/
def destroy (m : Manager) (id : String) : Audited Manager Bool :=
  match m.sessions.get? id with
  | none => { result := false, state := m }
  | some _ =>
    let (dropped, deleted) := m.dropSession id
    { result := true
      state := { dropped with destroyed := m.destroyed + 1 }
      events := [note "session_destroyed" id [("snapshots_deleted", Json.ofNat deleted)]] }

/-- Drops a session that never had a snapshot; says whether it did. -/
def discardUnused (m : Manager) (id : String) : Audited Manager Bool :=
  if (m.sessions.get? id).any Entry.isUnused then
    { result := true
      state := { m with sessions := m.sessions.erase id, discarded := m.discarded + 1 }
      events := [note "session_discarded" id []] }
  else { result := false, state := m }

/-- Evicts sessions one after the other. -/
def evictAll (m : Manager) : List String → Audited Manager Unit
  | [] => { result := (), state := m }
  | id :: ids => (m.evict id).next fun _ m => m.evictAll ids

/-- The sessions whose time is over. -/
def overdue (m : Manager) (now : Millis) : List String :=
  (m.sessions.toSorted.filter fun entry => entry.2.session.isExpired now).map Prod.fst

/-- Evicts all sessions whose time is over; returns how many. -/
def sweep (m : Manager) (now : Millis) : Audited Manager Nat :=
  (m.evictAll (m.overdue now)).map fun _ => (m.overdue now).length

end Manager

end SiteEdit.Session
