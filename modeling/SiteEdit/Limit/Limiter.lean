import SiteEdit.Audit.Log
import SiteEdit.Limit.Ban
import SiteEdit.Limit.Window
import SiteEdit.Store
/-!
# The limiter

A request is first held against the bans, then counted.  A key that goes past its ceiling too often is banned for a
while.  Every operation returns the limiter after it and the events to be recorded.
-/
namespace SiteEdit.Limit

open Audit (Audited Event)

/-- Why a request is refused. -/
inductive DenialKind where
  | rateLimited (dimension : Dimension) (retryAfter : Millis)
  /-- Banned, until a time if there is one. -/
  | banned (expiresAt : Option Millis)
  deriving DecidableEq, Repr

/-- The refusal of a request. -/
structure Denial where
  key : String
  kind : DenialKind
  reason : String
  deriving DecidableEq, Repr

/-- The answer to a request. -/
inductive Decision where
  | allow (remaining : Nat)
  | deny (denial : Denial)
  deriving DecidableEq, Repr

/-- What a sweep removed. -/
structure Swept where
  expiredBans : Nat
  idleRecords : Nat
  deriving DecidableEq, Repr

/-- Counts of a limiter. -/
structure Stats where
  allowed : Nat
  rateLimited : Nat
  bannedRejections : Nat
  bansCreated : Nat
  activeBans : Nat
  trackedKeys : Nat
  deriving DecidableEq, Repr

/-- Records and bans by the text of their keys, and counters. -/
structure Limiter where
  settings : Settings
  records : Store Record
  bans : Store Ban
  allowed : Nat
  rateLimited : Nat
  bannedRejections : Nat
  bansCreated : Nat
  deriving DecidableEq, Repr

namespace Limiter

/-- The limiter that has seen no request. -/
def empty (settings : Settings) : Limiter :=
  { settings := settings, records := .empty, bans := .empty, allowed := 0, rateLimited := 0, bannedRejections := 0,
    bansCreated := 0 }

/-! ## Checks -/

/-- A request that a ban refuses. -/
def refuseBanned (l : Limiter) (key : Key) (ban : Ban) : Audited Limiter Decision :=
  { result := .deny { key := key.text, kind := .banned ban.expiresAt, reason := ban.message }
    state := { l with bannedRejections := l.bannedRejections + 1 }
    events := [{
      level := .warning
      name := "banned_request_rejected"
      session := key.session?
      data := Json.object [("key", .str key.text), ("expires_at", Json.ofOption Json.ofInt ban.expiresAt)] }] }

/-- Drops a ban that has ended, if the key has one. -/
def dropEnded (l : Limiter) (key : Key) : Audited Limiter Unit :=
  match l.bans.get? key.text with
  | none => { result := (), state := l }
  | some ban =>
    { result := ()
      state := { l with bans := l.bans.erase key.text }
      events := [{
        level := .info
        name := "ban_expired"
        session := key.session?
        data := Json.object [("key", .str key.text), ("banned_at", Json.ofInt ban.bannedAt)] }] }

/-- Bans a key for its violations, which the ban clears. -/
def escalate (l : Limiter) (now : Millis) (key : Key) (violations : Nat) : Audited Limiter Decision :=
  let expiresAt := now + l.settings.banDuration
  let ban : Ban :=
    { reason := toString violations ++ " rate-limit violations"
      bannedAt := now
      expiresAt := some expiresAt
      source := .automatic }
  { result := .deny { key := key.text, kind := .banned (some expiresAt), reason := ban.message }
    state :=
      { l with
        bans := l.bans.insert key.text ban
        records := l.records.adjust key.text fun r => { r with violations := 0 }
        bansCreated := l.bansCreated + 1 }
    events := [{
      level := .critical
      name := "ban_created"
      session := key.session?
      data := Json.object [("key", .str key.text), ("source", .str BanSource.automatic.name),
        ("violations", Json.ofNat violations), ("expires_at", Json.ofInt expiresAt)] }] }

/-- A duration in seconds, a part of a second as a whole one. -/
def secondsUp (d : Millis) : Int := Int.tdiv (d + 999) 1000

/-- A request past the ceiling. -/
def refuseExceeded (l : Limiter) (key : Key) (violations : Nat) (retryAfter : Millis) : Audited Limiter Decision :=
  { result := .deny
      { key := key.text
        kind := .rateLimited key.dimension retryAfter
        reason := "Too many requests for this " ++ key.dimension.name ++ "; retry in "
          ++ toString (secondsUp retryAfter) ++ "s" }
    state := { l with rateLimited := l.rateLimited + 1 }
    events := [{
      level := .warning
      name := "rate_limited"
      session := key.session?
      data := Json.object [("key", .str key.text), ("violations", Json.ofNat violations),
        ("retry_after_ms", Json.ofInt retryAfter)] }] }

/-- Counts a request of a key that is not banned. -/
def count (l : Limiter) (now : Millis) (key : Key) : Audited Limiter Decision :=
  let (record, outcome) := step (l.records.get? key.text) now (l.settings.ceiling key.dimension)
  let counted := { l with records := l.records.insert key.text record }
  match outcome with
  | .within remaining => { result := .allow remaining, state := { counted with allowed := l.allowed + 1 } }
  | .exceeded retryAfter =>
    if l.settings.banThreshold.toNat ≤ record.violations then counted.escalate now key record.violations
    else counted.refuseExceeded key record.violations retryAfter

/-- The ban that holds for a key. -/
def activeBan? (l : Limiter) (now : Millis) (key : Key) : Option Ban :=
  (l.bans.get? key.text).filter fun ban => ban.isActive now

/-- Decides on one request of a key. -/
def check (l : Limiter) (now : Millis) (key : Key) : Audited Limiter Decision :=
  match l.activeBan? now key with
  | some ban => l.refuseBanned key ban
  | none => (l.dropEnded key).next fun _ l => l.count now key

/-! ## Bans -/

/-- Bans a key for a duration, or for good without one. -/
def ban (l : Limiter) (now : Millis) (key : Key) (reason : String) (duration : Option Millis) :
    Audited Limiter Ban :=
  let ban : Ban :=
    { reason := reason, bannedAt := now, expiresAt := duration.map (now + ·), source := .admin }
  { result := ban
    state := { l with bans := l.bans.insert key.text ban, bansCreated := l.bansCreated + 1 }
    events := [{
      level := .critical
      name := "ban_created"
      session := key.session?
      data := Json.object [("key", .str key.text), ("source", .str BanSource.admin.name), ("reason", .str reason),
        ("expires_at", Json.ofOption Json.ofInt ban.expiresAt)] }] }

/-- Lifts a ban; says whether there was one, ended or not. -/
def unban (l : Limiter) (key : Key) : Audited Limiter Bool :=
  match l.bans.get? key.text with
  | none => { result := false, state := l }
  | some _ =>
    { result := true
      state := { l with bans := l.bans.erase key.text }
      events := [{
        level := .info
        name := "ban_lifted"
        session := key.session?
        data := Json.object [("key", .str key.text)] }] }

/-- The bans that hold, by key. -/
def activeBans (l : Limiter) (now : Millis) : List (String × Ban) :=
  l.bans.toSorted.filter fun entry => entry.2.isActive now

/-! ## Records -/

/-- Forgets the record of a key.  Its ban stays. -/
def reset (l : Limiter) (key : Key) : Limiter := { l with records := l.records.erase key.text }

/-- The record of a key. -/
def record? (l : Limiter) (key : Key) : Option Record := l.records.get? key.text

/-- Whether a record is still kept. -/
def keeps (l : Limiter) (now : Millis) (key : String) (r : Record) : Bool :=
  now - r.lastSeen < l.settings.retention (Key.dimensionOf key)

/-- Drops the bans that have ended and the records that are idle. -/
def sweep (l : Limiter) (now : Millis) : Audited Limiter Swept :=
  let ended := l.bans.toSorted.filter fun entry => !entry.2.isActive now
  let records := l.records.filter (l.keeps now)
  { result := { expiredBans := ended.length, idleRecords := l.records.size - records.size }
    state := { l with bans := l.bans.filter fun _ ban => ban.isActive now, records := records }
    events := ended.map fun entry =>
      { level := .info
        name := "ban_expired"
        session := none
        data := Json.object [("key", .str entry.1), ("banned_at", Json.ofInt entry.2.bannedAt)] } }

/-- The counts at a time. -/
def stats (l : Limiter) (now : Millis) : Stats :=
  { allowed := l.allowed
    rateLimited := l.rateLimited
    bannedRejections := l.bannedRejections
    bansCreated := l.bansCreated
    activeBans := (l.activeBans now).length
    trackedKeys := l.records.size }

end Limiter

end SiteEdit.Limit
