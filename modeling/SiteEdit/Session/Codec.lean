import SiteEdit.Document.Codec
import SiteEdit.Session.Entry
/-!
# Sessions as JSON
-/
namespace SiteEdit

open Json (fields?)

namespace Session

namespace Quota

def toJson (q : Quota) : Json :=
  .obj [("request_count", Json.ofNat q.requestCount), ("transform_count", Json.ofNat q.transformCount)]

def ofJson? (j : Json) : Option Quota := do
  let f ← fields? ["request_count", "transform_count"] j
  pure
    { requestCount := ← f.get "request_count" Json.nat64?
      transformCount := ← f.get "transform_count" Json.nat64? }

end Quota

def toJson (s : Session) : Json :=
  .obj
    [("id", .str s.id), ("identity_hash", .str s.identity), ("created_at", Json.ofInt s.createdAt),
      ("ttl_at", Json.ofInt s.ttlAt), ("quota", s.quota.toJson)]

def ofJson? (j : Json) : Option Session := do
  let f ← fields? ["id", "identity_hash", "created_at", "ttl_at", "quota"] j
  pure
    { id := ← f.get "id" Json.asString?
      identity := ← f.get "identity_hash" Json.asString?
      createdAt := ← f.get "created_at" Json.int64?
      ttlAt := ← f.get "ttl_at" Json.int64?
      quota := ← f.get "quota" Quota.ofJson? }

end Session

namespace Snapshot

namespace Metadata

def toJson (m : Metadata) : Json :=
  .obj [("timestamp", Json.ofInt m.timestamp), ("note", Json.ofOption .str m.note)]

def ofJson? (j : Json) : Option Metadata := do
  let f ← fields? ["timestamp", "note"] j
  pure { timestamp := ← f.get "timestamp" Json.int64?, note := ← f.getOption "note" Json.asString? }

end Metadata

def toJson (s : Snapshot) : Json :=
  .obj
    [("id", .str s.id), ("session_id", .str s.sessionId), ("dsl", s.document.toJson),
      ("metadata", s.metadata.toJson), ("created_at", Json.ofInt s.createdAt)]

def ofJson? (j : Json) : Option Snapshot := do
  let f ← fields? ["id", "session_id", "dsl", "metadata", "created_at"] j
  pure
    { id := ← f.get "id" Json.asString?
      sessionId := ← f.get "session_id" Json.asString?
      document := ← f.get "dsl" Document.ofValue?
      metadata := ← f.get "metadata" Metadata.ofJson?
      createdAt := ← f.get "created_at" Json.int64? }

end Snapshot

namespace Session

namespace Settings

def toJson (s : Settings) : Json :=
  .obj
    [("ttl_secs", Json.ofNat s.ttlSecs.toNat), ("max_history", Json.ofNat s.maxHistory.toNat),
      ("max_detached", Json.ofNat s.maxDetached.toNat)]

def ofJson? (j : Json) : Option Settings := do
  let f ← fields? ["ttl_secs", "max_history", "max_detached"] j
  let standard : Settings := {}
  pure
    { ttlSecs := ← f.getD "ttl_secs" Json.word64? standard.ttlSecs
      maxHistory := ← f.getD "max_history" Json.word64? standard.maxHistory
      maxDetached := ← f.getD "max_detached" Json.word64? standard.maxDetached }

end Settings

namespace Entry

def toJson (e : Entry) : Json :=
  .obj
    [("session", e.session.toJson), ("history", Json.ofStrings e.history), ("detached", Json.ofStrings e.detached)]

/-- Reads an entry.  The detached queue may be left out. -/
def ofJson? (j : Json) : Option Entry := do
  let f ← fields? ["session", "history", "detached"] j
  pure
    { session := ← f.get "session" Session.ofJson?
      history := ← f.get "history" Json.strings?
      detached := ← f.getD "detached" Json.strings? [] }

end Entry

namespace UndoOutcome

def toJson (o : UndoOutcome) : Json :=
  .obj [("removed", Json.ofStrings o.removed), ("current", Json.ofOption Snapshot.toJson o.current)]

def ofJson? (j : Json) : Option UndoOutcome := do
  let f ← fields? ["removed", "current"] j
  pure { removed := ← f.get "removed" Json.strings?, current := ← f.getOption "current" Snapshot.ofJson? }

end UndoOutcome

namespace State

def toJson (s : State) : Json :=
  .obj
    [("session_id", .str s.sessionId), ("snapshot_count", Json.ofNat s.snapshotCount),
      ("current_snapshot_id", Json.ofOption .str s.currentSnapshotId),
      ("ttl_remaining_ms", Json.ofInt s.ttlRemaining), ("can_undo", .bool s.canUndo), ("quota", s.quota.toJson)]

def ofJson? (j : Json) : Option State := do
  let f ← fields?
    ["session_id", "snapshot_count", "current_snapshot_id", "ttl_remaining_ms", "can_undo", "quota"] j
  pure
    { sessionId := ← f.get "session_id" Json.asString?
      snapshotCount := ← f.get "snapshot_count" Json.nat64?
      currentSnapshotId := ← f.getOption "current_snapshot_id" Json.asString?
      ttlRemaining := ← f.get "ttl_remaining_ms" Json.int64?
      canUndo := ← f.get "can_undo" Json.bool?
      quota := ← f.get "quota" Quota.ofJson? }

end State

namespace Stats

def toJson (s : Stats) : Json :=
  .obj
    [("active_sessions", Json.ofNat s.activeSessions), ("stored_snapshots", Json.ofNat s.storedSnapshots),
      ("sessions_created", Json.ofNat s.sessionsCreated), ("sessions_expired", Json.ofNat s.sessionsExpired),
      ("sessions_destroyed", Json.ofNat s.sessionsDestroyed),
      ("sessions_discarded", Json.ofNat s.sessionsDiscarded),
      ("snapshots_created", Json.ofNat s.snapshotsCreated), ("snapshots_evicted", Json.ofNat s.snapshotsEvicted)]

def ofJson? (j : Json) : Option Stats := do
  let f ← fields?
    ["active_sessions", "stored_snapshots", "sessions_created", "sessions_expired", "sessions_destroyed",
      "sessions_discarded", "snapshots_created", "snapshots_evicted"] j
  pure
    { activeSessions := ← f.get "active_sessions" Json.nat64?
      storedSnapshots := ← f.get "stored_snapshots" Json.nat64?
      sessionsCreated := ← f.get "sessions_created" Json.nat64?
      sessionsExpired := ← f.get "sessions_expired" Json.nat64?
      sessionsDestroyed := ← f.get "sessions_destroyed" Json.nat64?
      sessionsDiscarded := ← f.get "sessions_discarded" Json.nat64?
      snapshotsCreated := ← f.get "snapshots_created" Json.nat64?
      snapshotsEvicted := ← f.get "snapshots_evicted" Json.nat64? }

end Stats

end Session

end SiteEdit
