import SiteEdit.Json.Record
import SiteEdit.Limit.Limiter
/-!
# The limits as JSON
-/
namespace SiteEdit.Limit

open Json (fields?)

def Dimension.toJson (d : Dimension) : Json := .str d.name

def Dimension.ofJson? : Json → Option Dimension := Json.variant? Dimension.name Dimension.all

def BanSource.toJson (s : BanSource) : Json := .str s.name

def BanSource.ofJson? : Json → Option BanSource := Json.variant? BanSource.name BanSource.all

namespace Key

def toJson (k : Key) : Json := .obj [("dimension", k.dimension.toJson), ("value", .str k.value)]

def ofJson? (j : Json) : Option Key := do
  let f ← fields? ["dimension", "value"] j
  pure { dimension := ← f.get "dimension" Dimension.ofJson?, value := ← f.get "value" Json.asString? }

end Key

namespace Ceiling

def toJson (c : Ceiling) : Json :=
  .obj [("max_requests", Json.ofNat c.maxRequests.toNat), ("window_secs", Json.ofNat c.windowSecs.toNat)]

/-- Reads a ceiling.  Neither of its fields can be left out. -/
def ofJson? (j : Json) : Option Ceiling := do
  let f ← fields? ["max_requests", "window_secs"] j
  pure { maxRequests := ← f.get "max_requests" Json.word32?, windowSecs := ← f.get "window_secs" Json.word64? }

end Ceiling

namespace Settings

def toJson (s : Settings) : Json :=
  .obj
    [("ban_threshold", Json.ofNat s.banThreshold.toNat), ("ban_duration_secs", Json.ofNat s.banDurationSecs.toNat),
      ("idle_record_ttl_secs", Json.ofNat s.idleRecordTtlSecs.toNat), ("ip", s.ip.toJson),
      ("session", s.session.toJson)]

def ofJson? (j : Json) : Option Settings := do
  let f ← fields? ["ban_threshold", "ban_duration_secs", "idle_record_ttl_secs", "ip", "session"] j
  let standard : Settings := {}
  pure
    { banThreshold := ← f.getD "ban_threshold" Json.word32? standard.banThreshold
      banDurationSecs := ← f.getD "ban_duration_secs" Json.word64? standard.banDurationSecs
      idleRecordTtlSecs := ← f.getD "idle_record_ttl_secs" Json.word64? standard.idleRecordTtlSecs
      ip := ← f.getD "ip" Ceiling.ofJson? standard.ip
      session := ← f.getD "session" Ceiling.ofJson? standard.session }

end Settings

namespace Ban

def toJson (b : Ban) : Json :=
  .obj
    [("reason", .str b.reason), ("banned_at", Json.ofInt b.bannedAt),
      ("expires_at", Json.ofOption Json.ofInt b.expiresAt), ("source", b.source.toJson)]

def ofJson? (j : Json) : Option Ban := do
  let f ← fields? ["reason", "banned_at", "expires_at", "source"] j
  pure
    { reason := ← f.get "reason" Json.asString?
      bannedAt := ← f.get "banned_at" Json.int64?
      expiresAt := ← f.getOption "expires_at" Json.int64?
      source := ← f.get "source" BanSource.ofJson? }

end Ban

namespace Record

def toJson (r : Record) : Json :=
  .obj
    [("count", Json.ofNat r.count), ("window_start", Json.ofInt r.windowStart),
      ("violation_count", Json.ofNat r.violations), ("last_seen", Json.ofInt r.lastSeen)]

def ofJson? (j : Json) : Option Record := do
  let f ← fields? ["count", "window_start", "violation_count", "last_seen"] j
  pure
    { count := ← f.get "count" Json.nat32?
      windowStart := ← f.get "window_start" Json.int64?
      violations := ← f.get "violation_count" Json.nat32?
      lastSeen := ← f.get "last_seen" Json.int64? }

end Record

namespace DenialKind

def toJson : DenialKind → Json
  | .rateLimited dimension retryAfter =>
    .obj [("type", .str "rate_limited"), ("dimension", dimension.toJson), ("retry_after_ms", Json.ofInt retryAfter)]
  | .banned expiresAt => .obj [("type", .str "banned"), ("expires_at", Json.ofOption Json.ofInt expiresAt)]

/-- Reads a kind by its name and the rest of its fields. -/
def ofFields? (name : String) (rest : Json) : Option DenialKind := do
  match name with
  | "rate_limited" =>
    let f ← fields? ["dimension", "retry_after_ms"] rest
    let dimension ← f.get "dimension" (Json.innerVariant? Dimension.name Dimension.all)
    pure (.rateLimited dimension (← f.get "retry_after_ms" Json.int64?))
  | "banned" =>
    let f ← fields? ["expires_at"] rest
    pure (.banned (← f.getOption "expires_at" Json.int64?))
  | _ => none

def ofJson? (j : Json) : Option DenialKind := (Json.tagged? "type" j).bind fun r => ofFields? r.1 r.2

/-- Reads a kind that stands in a field of a decision. -/
def ofInner? (j : Json) : Option DenialKind :=
  (Json.innerTagged? "type" ["rate_limited", "banned"] j).bind fun r => ofFields? r.1 r.2

end DenialKind

namespace Denial

/-- The members of a denial. -/
def members (d : Denial) : List (String × Json) :=
  [("key", .str d.key), ("kind", d.kind.toJson), ("reason", .str d.reason)]

def toJson (d : Denial) : Json := .obj d.members

/-- Reads a denial, its kind by `kind?`. -/
def ofFields? (kind? : Json → Option DenialKind) (j : Json) : Option Denial := do
  let f ← fields? ["key", "kind", "reason"] j
  pure
    { key := ← f.get "key" Json.asString?
      kind := ← f.get "kind" kind?
      reason := ← f.get "reason" Json.asString? }

def ofJson? : Json → Option Denial := ofFields? DenialKind.ofJson?

end Denial

namespace Decision

/-- A decision carries the members of its denial beside its name. -/
def toJson : Decision → Json
  | .allow remaining => .obj [("decision", .str "allow"), ("remaining", Json.ofNat remaining)]
  | .deny denial => .obj (("decision", .str "deny") :: denial.members)

def ofJson? (j : Json) : Option Decision := do
  let (tag, rest) ← Json.tagged? "decision" j
  match tag with
  | "allow" =>
    let f ← fields? ["remaining"] rest
    pure (.allow (← f.get "remaining" Json.nat32?))
  | "deny" => pure (.deny (← Denial.ofFields? DenialKind.ofInner? rest))
  | _ => none

end Decision

namespace Swept

def toJson (s : Swept) : Json :=
  .obj [("expired_bans", Json.ofNat s.expiredBans), ("idle_records", Json.ofNat s.idleRecords)]

def ofJson? (j : Json) : Option Swept := do
  let f ← fields? ["expired_bans", "idle_records"] j
  pure { expiredBans := ← f.get "expired_bans" Json.nat64?, idleRecords := ← f.get "idle_records" Json.nat64? }

end Swept

namespace Stats

def toJson (s : Stats) : Json :=
  .obj
    [("allowed", Json.ofNat s.allowed), ("rate_limited", Json.ofNat s.rateLimited),
      ("banned_rejections", Json.ofNat s.bannedRejections), ("bans_created", Json.ofNat s.bansCreated),
      ("active_bans", Json.ofNat s.activeBans), ("tracked_keys", Json.ofNat s.trackedKeys)]

def ofJson? (j : Json) : Option Stats := do
  let f ← fields?
    ["allowed", "rate_limited", "banned_rejections", "bans_created", "active_bans", "tracked_keys"] j
  pure
    { allowed := ← f.get "allowed" Json.nat64?
      rateLimited := ← f.get "rate_limited" Json.nat64?
      bannedRejections := ← f.get "banned_rejections" Json.nat64?
      bansCreated := ← f.get "bans_created" Json.nat64?
      activeBans := ← f.get "active_bans" Json.nat64?
      trackedKeys := ← f.get "tracked_keys" Json.nat64? }

end Stats

end SiteEdit.Limit
