import SiteEdit.Engine.Pipeline
/-!
# The engine

The engine joins the settings, the screen, the state that requests change, and the audit log.  It records what the
parts report, at the time at which it is called.
-/
namespace SiteEdit

open Audit (Audited)

namespace Engine

/-- What a sweep removed. -/
structure SweepSummary where
  sessionsExpired : Nat
  limits : Limit.Swept
  deriving DecidableEq, Repr

/-- The counts of all parts. -/
structure Stats where
  limits : Limit.Stats
  sessions : Session.Stats
  audit : Audit.Log.Stats
  deriving DecidableEq, Repr

/-- Why an engine cannot be started. -/
inductive StartError where
  | settings (fault : Settings.Fault)
  | tables (error : Policy.TablesError)
  deriving DecidableEq, Repr

/-- Drops what nobody asks for any more: sessions first, then bans and records. -/
def State.sweep (s : State) (now : Millis) : Audited State SweepSummary :=
  (s.onSessions fun m => m.sweep now).next fun sessions s =>
    (s.onLimiter fun l => l.sweep now).map fun limits => { sessionsExpired := sessions, limits := limits }

end Engine

/-- An engine. -/
structure Engine where
  settings : Settings
  screen : Policy.Screen
  state : Engine.State
  log : Audit.Log
  deriving DecidableEq, Repr

namespace Engine

/-- Starts an engine. -/
def start (s : Settings) : Except StartError Engine :=
  match s.fault? with
  | some fault => .error (.settings fault)
  | none =>
    match Policy.Screen.ofTables s.policy.tables with
    | .error e => .error (.tables e)
    | .ok screen => .ok { settings := s, screen := screen, state := .empty s, log := .empty s.audit }

/-- Carries out an operation and records its events. -/
def run {α : Type} (e : Engine) (now : Millis) (f : State → Audited State α) : Engine × α :=
  let a := f e.state
  ({ e with state := a.state, log := e.log.recordAll now a.events }, a.result)

/-- Carries out an operation of the sessions and records its events. -/
def runSessions {α : Type} (e : Engine) (now : Millis)
    (f : Session.Manager → Audited Session.Manager (Except Session.Error α)) : Engine × Except Refusal α :=
  let (e, result) := e.run now fun s => s.onSessions f
  (e, result.mapError .session)

/-! ## Requests -/

/-- Carries out a request. -/
def transform (e : Engine) (now : Millis) (fresh : FreshIds) (r : Request) : Engine × Except Refusal Accepted :=
  e.run now fun s => s.transform e.screen now fresh r

/-- Takes back the newest snapshots of a session. -/
def undo (e : Engine) (now : Millis) (id : String) (steps : Nat) : Engine × Except Refusal Session.UndoOutcome :=
  e.runSessions now fun m => m.undo now id steps

/-- Takes back all snapshots of a session. -/
def reset (e : Engine) (now : Millis) (id : String) : Engine × Except Refusal Session.UndoOutcome :=
  e.runSessions now fun m => m.reset now id

/-- The state of a session. -/
def sessionState (e : Engine) (now : Millis) (id : String) : Engine × Except Refusal Session.State :=
  e.runSessions now fun m => m.state now id

/-- The snapshots of a session, the oldest first. -/
def history (e : Engine) (now : Millis) (id : String) : Engine × Except Refusal (List Snapshot) :=
  e.runSessions now fun m => m.history now id

/-! ## Administration -/

/-- Bans a key for a number of seconds, or for good. -/
def ban (e : Engine) (now : Millis) (key : Limit.Key) (reason : String) (secs : Option UInt64) :
    Engine × Limit.Ban :=
  e.run now fun s => s.onLimiter fun l => l.ban now key reason (secs.map seconds)

/-- Lifts a ban; says whether there was one. -/
def unban (e : Engine) (now : Millis) (key : Limit.Key) : Engine × Bool :=
  e.run now fun s => s.onLimiter fun l => l.unban key

/-- The bans that hold, by key. -/
def bans (e : Engine) (now : Millis) : List (String × Limit.Ban) := e.state.limiter.activeBans now

/-- Drops what nobody asks for any more. -/
def sweep (e : Engine) (now : Millis) : Engine × SweepSummary := e.run now fun s => s.sweep now

/-- Sweeps a number of times. -/
def sweepTimes (e : Engine) (now : Millis) : Nat → Engine
  | 0 => e
  | n + 1 => ((e.sweep now).1).sweepTimes now n

/-- How often a sweeper sweeps that runs for `span`: at every whole multiple of its interval before the end. -/
def sweepCount (interval span : Nat) : Nat := (span - 1) / interval

/-- The counts of all parts. -/
def stats (e : Engine) (now : Millis) : Stats :=
  { limits := e.state.limiter.stats now, sessions := e.state.sessions.stats, audit := e.log.stats }

end Engine

end SiteEdit
