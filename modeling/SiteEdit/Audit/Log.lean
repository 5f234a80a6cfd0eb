import SiteEdit.Audit.Event
import SiteEdit.Policy.Screen
import SiteEdit.Time
/-!
# The audit log

The log numbers the events from one, redacts what they carry and keeps the newest, up to its size.
-/
namespace SiteEdit.Audit

/-- A recorded event, redacted. -/
structure Entry where
  id : Nat
  level : Level
  event : String
  session : Option String
  data : Json
  createdAt : Millis
  deriving DecidableEq, Repr

/-- The settings of a log. -/
structure Settings where
  maxEntries : UInt64 := 1000
  deriving DecidableEq, Repr

/-- The newest entries, the oldest of them first. -/
structure Log where
  settings : Settings
  entries : List Entry
  recorded : Nat
  dropped : Nat
  deriving DecidableEq, Repr

namespace Log

/-- The log without entries. -/
def empty (settings : Settings) : Log := { settings := settings, entries := [], recorded := 0, dropped := 0 }

/-- Records an event.  Its number is one more than the events recorded before. -/
def record (log : Log) (now : Millis) (e : Event) : Log :=
  let entry : Entry :=
    { id := log.recorded + 1
      level := e.level
      event := e.name
      session := e.session
      data := Policy.Redactor.builtin.redactJson e.data
      createdAt := now }
  let entries := log.entries ++ [entry]
  let surplus := entries.length - log.settings.maxEntries.toNat
  { log with
    entries := entries.drop surplus
    recorded := log.recorded + 1
    dropped := log.dropped + surplus }

/-- Records events in order. -/
def recordAll (log : Log) (now : Millis) (events : List Event) : Log :=
  events.foldl (fun log e => log.record now e) log

/-! ## Queries -/

/-- The newest `n` entries, the oldest of them first. -/
def recent (log : Log) (n : Nat) : List Entry := log.entries.drop (log.entries.length - n)

def bySession (log : Log) (session : String) : List Entry :=
  log.entries.filter fun e => e.session == some session

def byEvent (log : Log) (event : String) : List Entry := log.entries.filter fun e => e.event == event

def atLeast (log : Log) (level : Level) : List Entry :=
  log.entries.filter fun e => level.rank ≤ e.level.rank

/-- Counts of a log. -/
structure Stats where
  retained : Nat
  info : Nat
  warning : Nat
  critical : Nat
  dropped : Nat
  recorded : Nat
  deriving DecidableEq, Repr

/-- How many entries of a level there are. -/
def count (log : Log) (level : Level) : Nat := log.entries.countP fun e => e.level == level

def stats (log : Log) : Stats :=
  { retained := log.entries.length
    info := log.count .info
    warning := log.count .warning
    critical := log.count .critical
    dropped := log.dropped
    recorded := log.recorded }

end Log

end SiteEdit.Audit
