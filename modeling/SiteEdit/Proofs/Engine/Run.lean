import SiteEdit.Engine.Basic
import SiteEdit.Proofs.Limit.Run
import SiteEdit.Proofs.Session.Run
/-!
# Runs of the engine

A run is a sequence of operations, each at a time of its own.  The operations of the sessions and of the limiter can be
called directly too.  No id is brought twice.
-/
namespace SiteEdit.Engine

/-- What can be asked of the engine. -/
inductive Action where
  | transform (fresh : FreshIds) (request : Request)
  | undo (id : String) (steps : Nat)
  | reset (id : String)
  | state (id : String)
  | history (id : String)
  | ban (key : Limit.Key) (reason : String) (secs : Option UInt64)
  | unban (key : Limit.Key)
  | sweep
  | sessions (act : Session.Action)
  | limits (act : Limit.Action)
  deriving DecidableEq, Repr

namespace Action

/-- The id that an action brings for a session. -/
def sessionId? : Action → Option String
  | transform fresh _ => some fresh.session
  | sessions act => act.sessionId?
  | _ => none

/-- The id that an action brings for a snapshot. -/
def snapshotId? : Action → Option String
  | transform fresh _ => some fresh.snapshot
  | sessions act => act.snapshotId?
  | _ => none

end Action

/-- What the engine returns. -/
inductive Answer where
  | transformed (result : Except Refusal Accepted)
  | undone (result : Except Refusal Session.UndoOutcome)
  | state (result : Except Refusal Session.State)
  | history (result : Except Refusal (List Snapshot))
  | banned (ban : Limit.Ban)
  | lifted (yes : Bool)
  | swept (summary : SweepSummary)
  | sessions (answer : Session.Answer)
  | limits (answer : Limit.Answer)

/-- Actions, each with its time. -/
abbrev Actions := List (Millis × Action)

/-- The ids that actions bring for sessions. -/
def Actions.sessionIds (acts : Actions) : List String := acts.filterMap fun a => a.2.sessionId?

/-- The ids that actions bring for snapshots. -/
def Actions.snapshotIds (acts : Actions) : List String := acts.filterMap fun a => a.2.snapshotId?

theorem Actions.sessionIds_cons (now : Millis) (act : Action) (acts : Actions) :
    sessionIds ((now, act) :: acts) = act.sessionId?.toList ++ sessionIds acts :=
  Session.filterMap_cons_append _ _ acts

theorem Actions.snapshotIds_cons (now : Millis) (act : Action) (acts : Actions) :
    snapshotIds ((now, act) :: acts) = act.snapshotId?.toList ++ snapshotIds acts :=
  Session.filterMap_cons_append _ _ acts

/-- No id is brought twice. -/
structure Actions.Fresh (acts : Actions) : Prop where
  sessions : acts.sessionIds.Nodup
  snapshots : acts.snapshotIds.Nodup

theorem Actions.Fresh.left {acts acts' : Actions} (h : Fresh (acts ++ acts')) : acts.Fresh where
  sessions := h.sessions.sublist ((List.sublist_append_left acts acts').filterMap _)
  snapshots := h.snapshots.sublist ((List.sublist_append_left acts acts').filterMap _)

def perform (e : Engine) (now : Millis) : Action → Engine × Answer
  | .transform fresh request => (e.transform now fresh request).map id .transformed
  | .undo session steps => (e.undo now session steps).map id .undone
  | .reset session => (e.reset now session).map id .undone
  | .state session => (e.sessionState now session).map id .state
  | .history session => (e.history now session).map id .history
  | .ban key reason secs => (e.ban now key reason secs).map id .banned
  | .unban key => (e.unban now key).map id .lifted
  | .sweep => (e.sweep now).map id .swept
  | .sessions act => (e.run now fun s => s.onSessions fun m => m.perform now act).map id .sessions
  | .limits act => (e.run now fun s => s.onLimiter fun l => l.perform now act).map id .limits

/-- The engine after actions. -/
def after (e : Engine) : Actions → Engine
  | [] => e
  | (now, act) :: acts => (e.perform now act).1.after acts

theorem after_append : ∀ (acts acts' : Actions) (e : Engine), e.after (acts ++ acts') = (e.after acts).after acts'
  | [], _, _ => rfl
  | (now, act) :: acts, acts', e => after_append acts acts' (e.perform now act).1

end SiteEdit.Engine
