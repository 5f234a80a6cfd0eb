import SiteEdit.Audit.Log
import SiteEdit.Json.Record
/-!
# The audit log as JSON
-/
namespace SiteEdit.Audit

open Json (fields?)

def Level.toJson (l : Level) : Json := .str l.name

def Level.ofJson? : Json → Option Level := Json.variant? Level.name Level.all

namespace Entry

def toJson (e : Entry) : Json :=
  .obj
    [("id", Json.ofNat e.id), ("level", e.level.toJson), ("event", .str e.event),
      ("session_id", Json.ofOption .str e.session), ("data", e.data), ("created_at", Json.ofInt e.createdAt)]

def ofJson? (j : Json) : Option Entry := do
  let f ← fields? ["id", "level", "event", "session_id", "data", "created_at"] j
  pure
    { id := ← f.get "id" Json.nat64?
      level := ← f.get "level" Level.ofJson?
      event := ← f.get "event" Json.asString?
      session := ← f.getOption "session_id" Json.asString?
      data := ← f.get "data" some
      createdAt := ← f.get "created_at" Json.int64? }

end Entry

namespace Settings

def toJson (s : Settings) : Json := .obj [("max_entries", Json.ofNat s.maxEntries.toNat)]

def ofJson? (j : Json) : Option Settings := do
  let f ← fields? ["max_entries"] j
  pure { maxEntries := ← f.getD "max_entries" Json.word64? 1000 }

end Settings

namespace Log.Stats

def toJson (s : Stats) : Json :=
  .obj
    [("retained", Json.ofNat s.retained), ("info", Json.ofNat s.info), ("warning", Json.ofNat s.warning),
      ("critical", Json.ofNat s.critical), ("dropped", Json.ofNat s.dropped),
      ("total_recorded", Json.ofNat s.recorded)]

def ofJson? (j : Json) : Option Stats := do
  let f ← fields? ["retained", "info", "warning", "critical", "dropped", "total_recorded"] j
  pure
    { retained := ← f.get "retained" Json.nat64?
      info := ← f.get "info" Json.nat64?
      warning := ← f.get "warning" Json.nat64?
      critical := ← f.get "critical" Json.nat64?
      dropped := ← f.get "dropped" Json.nat64?
      recorded := ← f.get "total_recorded" Json.nat64? }

end Log.Stats

end SiteEdit.Audit
