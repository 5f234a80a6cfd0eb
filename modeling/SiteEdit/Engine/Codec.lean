import SiteEdit.Engine.Basic
import SiteEdit.Audit.Codec
import SiteEdit.Limit.Codec
import SiteEdit.Session.Codec
/-!
# Requests and what becomes of them as JSON
-/
namespace SiteEdit

open Json (fields?)

namespace Request

def toJson (r : Request) : Json :=
  .obj
    [("text", .str r.text), ("ip", .str r.ip), ("user_agent", .str r.userAgent),
      ("session_id", Json.ofOption .str r.session)]

/-- Reads a request.  The session may be left out. -/
def ofJson? (j : Json) : Option Request := do
  let f ← fields? ["text", "ip", "user_agent", "session_id"] j
  pure
    { text := ← f.get "text" Json.asString?
      ip := ← f.get "ip" Json.asString?
      userAgent := ← f.get "user_agent" Json.asString?
      session := ← f.getD "session_id" (Json.nullable? Json.asString?) none }

end Request

namespace Engine

namespace Accepted

def toJson (a : Accepted) : Json :=
  .obj
    [("session_id", .str a.sessionId), ("snapshot", a.snapshot.toJson), ("dsl", a.document.toJson),
      ("remaining", Json.ofNat a.remaining), ("risk", a.risk.toJson),
      ("pii", Json.ofList Policy.PersonalKind.toJson a.personal)]

def ofJson? (j : Json) : Option Accepted := do
  let f ← fields? ["session_id", "snapshot", "dsl", "remaining", "risk", "pii"] j
  pure
    { sessionId := ← f.get "session_id" Json.asString?
      snapshot := ← f.get "snapshot" Snapshot.ofJson?
      document := ← f.get "dsl" Document.ofValue?
      remaining := ← f.get "remaining" Json.nat32?
      risk := ← f.get "risk" Policy.Risk.ofJson?
      personal := ← f.get "pii" (Json.list? Policy.PersonalKind.ofJson?) }

end Accepted

namespace SweepSummary

def toJson (s : SweepSummary) : Json :=
  .obj [("sessions_expired", Json.ofNat s.sessionsExpired), ("rate_limit", s.limits.toJson)]

def ofJson? (j : Json) : Option SweepSummary := do
  let f ← fields? ["sessions_expired", "rate_limit"] j
  pure
    { sessionsExpired := ← f.get "sessions_expired" Json.nat64?
      limits := ← f.get "rate_limit" Limit.Swept.ofJson? }

end SweepSummary

namespace Stats

def toJson (s : Stats) : Json :=
  .obj [("rate_limit", s.limits.toJson), ("sessions", s.sessions.toJson), ("audit", s.audit.toJson)]

def ofJson? (j : Json) : Option Stats := do
  let f ← fields? ["rate_limit", "sessions", "audit"] j
  pure
    { limits := ← f.get "rate_limit" Limit.Stats.ofJson?
      sessions := ← f.get "sessions" Session.Stats.ofJson?
      audit := ← f.get "audit" Audit.Log.Stats.ofJson? }

end Stats

/-- A refusal as it is shown. -/
def Refusal.toJson (r : Refusal) : Json := .obj [("kind", .str r.kind), ("message", .str r.message)]

end Engine

end SiteEdit
