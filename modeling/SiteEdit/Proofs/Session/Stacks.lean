import SiteEdit.Proofs.Session.Run
import Mathlib.Data.List.DropRight
/-!
# Stacks of documents

The ideal manager.  A session has its snapshots themselves, not their ids: a stack of those in force and a queue of
those that were taken back.  There is no store of snapshots beside the sessions, so what a session has goes with it.
-/
namespace SiteEdit.Session

open Audit (Audited)

/-- A session and its snapshots, the oldest first. -/
structure Stack where
  session : Session
  /-- The snapshots in force. -/
  active : List Snapshot
  /-- The snapshots that were taken back. -/
  undone : List Snapshot
  deriving DecidableEq, Repr

structure Counts where
  created : Nat := 0
  expired : Nat := 0
  destroyed : Nat := 0
  discarded : Nat := 0
  snapshotsCreated : Nat := 0
  snapshotsEvicted : Nat := 0
  deriving DecidableEq, Repr

/-- The stacks of all sessions. -/
structure Stacks where
  settings : Settings
  sessions : Store Stack
  counts : Counts
  deriving DecidableEq, Repr

namespace Stack

/-- The stack with one more snapshot, as far as there is room: the newest `cap` are kept. -/
def push (s : Stack) (snapshot : Snapshot) (cap : Nat) : Stack :=
  { s with active := (s.active ++ [snapshot]).rtake cap }

/-- What taking back the newest `n` snapshots takes back, the newest first. -/
def newest (s : Stack) (n : Nat) : List Snapshot := (s.active.rtake n).reverse

/-- The stack without its newest `n` snapshots.  They are queued, and the last `cap` of the queue are kept. -/
def undo (s : Stack) (n cap : Nat) : Stack :=
  { s with active := s.active.rdrop n, undone := (s.undone ++ s.newest n).rtake cap }

/-- The stack with a session that lives until `ttlAt`. -/
def renew (s : Stack) (ttlAt : Millis) : Stack := { s with session := { s.session with ttlAt := ttlAt } }

/-- The stack with other counts of requests and transformations. -/
def withQuota (s : Stack) (quota : Quota) : Stack := { s with session := { s.session with quota := quota } }

end Stack

namespace Stacks

def empty (settings : Settings) : Stacks := { settings := settings, sessions := .empty, counts := {} }

/-- Replaces the stack of a session. -/
def put (a : Stacks) (id : String) (s : Stack) : Stacks := { a with sessions := a.sessions.adjust id fun _ => s }

/-- Drops a session whose time is over. -/
def expire (a : Stacks) (id : String) : Stacks :=
  { a with sessions := a.sessions.erase id, counts.expired := a.counts.expired + 1 }

/-- Goes on with a live session.  One whose time is over is dropped. -/
def onLive {α : Type} (a : Stacks) (now : Millis) (id : String) (f : Stack → Audited Stacks α) :
    Audited Stacks (Except Error α) :=
  match a.sessions.get? id with
  | none => { result := .error (.notFound id), state := a }
  | some s =>
    if s.session.isExpired now then { result := .error (.expired id), state := a.expire id } else (f s).map .ok

/-- Looks at a live session. -/
def view {α : Type} (a : Stacks) (now : Millis) (id : String) (f : Stack → α) : Audited Stacks (Except Error α) :=
  a.onLive now id fun s => { result := f s, state := a }

def start (a : Stacks) (now : Millis) (fresh ip userAgent : String) : Audited Stacks Session :=
  let session : Session :=
    { id := fresh
      identity := identityHash ip userAgent
      createdAt := now
      ttlAt := now + a.settings.ttl
      quota := { requestCount := 1, transformCount := 0 } }
  { result := session
    state :=
      { a with
        sessions := a.sessions.insert fresh { session := session, active := [], undone := [] }
        counts.created := a.counts.created + 1 } }

/-- Reuses the presented session if it is live and the client's own, else starts one. -/
def createOrGet (a : Stacks) (now : Millis) (fresh : String) (presented : Option String) (ip userAgent : String) :
    Audited Stacks Session :=
  match presented with
  | none => a.start now fresh ip userAgent
  | some id =>
    match a.sessions.get? id with
    | none => a.start now fresh ip userAgent
    | some s =>
      if s.session.isExpired now then (a.expire id).start now fresh ip userAgent
      else if s.session.identity = identityHash ip userAgent then
        let quota := s.session.quota
        let used := s.withQuota { quota with requestCount := quota.requestCount + 1 }
        { result := used.session, state := a.put id used }
      else a.start now fresh ip userAgent

/-- Lets a live session live longer. -/
def renew (a : Stacks) (now : Millis) (id : String) : Audited Stacks (Except Error Session) :=
  a.onLive now id fun s =>
    let renewed := s.renew (now + a.settings.ttl)
    { result := renewed.session, state := a.put id renewed }

/-- Appends a snapshot to the stack of a live session. -/
def record (a : Stacks) (now : Millis) (id : String) (snapshot : Snapshot) :
    Audited Stacks (Except Error Snapshot) :=
  a.onLive now id fun s =>
    let cap := a.settings.maxHistory.toNat
    let quota := s.session.quota
    let pushed := ((s.push snapshot cap).renew (now + a.settings.ttl)).withQuota
      { quota with transformCount := quota.transformCount + 1 }
    { result := snapshot
      state :=
        { a.put id pushed with
          counts.snapshotsCreated := a.counts.snapshotsCreated + 1
          counts.snapshotsEvicted := a.counts.snapshotsEvicted + (s.active.length + 1 - cap) } }

/-- Takes back the newest snapshots of a live session, as many as `steps` says of its stack. -/
def undo (a : Stacks) (now : Millis) (id : String) (steps : Stack → Nat) :
    Audited Stacks (Except Error UndoOutcome) :=
  a.onLive now id fun s =>
    let cap := a.settings.maxDetached.toNat
    let left := s.undo (steps s) cap
    { result := { removed := (s.newest (steps s)).map Snapshot.id, current := left.active.getLast? }
      state :=
        { a.put id (left.renew (now + a.settings.ttl)) with
          counts.snapshotsEvicted :=
            a.counts.snapshotsEvicted + (s.undone.length + (s.newest (steps s)).length - cap) } }

/-- What can be seen of a session. -/
def state (a : Stacks) (now : Millis) (id : String) : Audited Stacks (Except Error State) :=
  a.view now id fun s =>
    { sessionId := s.session.id
      snapshotCount := s.active.length
      currentSnapshotId := s.active.getLast?.map Snapshot.id
      ttlRemaining := s.session.ttlRemaining now
      canUndo := decide (s.active ≠ [])
      quota := s.session.quota }

/-- Every snapshot that some session has, in force or taken back. -/
def snapshots (a : Stacks) : List Snapshot := a.sessions.entries.flatMap fun e => e.2.active ++ e.2.undone

def stats (a : Stacks) : Stats :=
  { activeSessions := a.sessions.size
    storedSnapshots := a.snapshots.length
    sessionsCreated := a.counts.created
    sessionsExpired := a.counts.expired
    sessionsDestroyed := a.counts.destroyed
    sessionsDiscarded := a.counts.discarded
    snapshotsCreated := a.counts.snapshotsCreated
    snapshotsEvicted := a.counts.snapshotsEvicted }

/-- Drops a session, with what it has. -/
def destroy (a : Stacks) (id : String) : Audited Stacks Bool :=
  if (a.sessions.get? id).isSome then
    { result := true
      state := { a with sessions := a.sessions.erase id, counts.destroyed := a.counts.destroyed + 1 } }
  else { result := false, state := a }

/-- Drops a session that has nothing and never had a snapshot. -/
def discardUnused (a : Stacks) (id : String) : Audited Stacks Bool :=
  if (a.sessions.get? id).any fun s =>
      s.session.quota.transformCount == 0 && s.active.isEmpty && s.undone.isEmpty then
    { result := true
      state := { a with sessions := a.sessions.erase id, counts.discarded := a.counts.discarded + 1 } }
  else { result := false, state := a }

/-- Drops every session whose time is over. -/
def sweep (a : Stacks) (now : Millis) : Audited Stacks Nat :=
  let dropped := a.sessions.filter fun _ s => s.session.isExpired now
  { result := dropped.size
    state :=
      { a with
        sessions := a.sessions.filter fun _ s => !s.session.isExpired now
        counts.expired := a.counts.expired + dropped.size } }

def perform (a : Stacks) (now : Millis) : Action → Audited Stacks Answer
  | .createOrGet fresh presented ip userAgent => (a.createOrGet now fresh presented ip userAgent).map .started
  | .renew id => (a.renew now id).map .session
  | .createSnapshot fresh id document text => (a.record now id (.taken now fresh id document text)).map .snapshot
  | .undo id steps => (a.undo now id fun _ => steps).map .undone
  | .reset id => (a.undo now id fun s => s.active.length).map .undone
  | .session id => (a.view now id Stack.session).map .session
  | .state id => (a.state now id).map .state
  | .history id => (a.view now id Stack.active).map .history
  | .snapshot id => { result := .found (a.snapshots.find? fun s => s.id == id), state := a }
  | .stats => { result := .stats a.stats, state := a }
  | .destroy id => (a.destroy id).map .done
  | .discardUnused id => (a.discardUnused id).map .done
  | .sweep => (a.sweep now).map .swept

/-- What the ideal manager returns for actions. -/
def answers (a : Stacks) : Actions → List Answer
  | [] => []
  | (now, act) :: acts => (a.perform now act).result :: (a.perform now act).state.answers acts

end Stacks

end SiteEdit.Session
