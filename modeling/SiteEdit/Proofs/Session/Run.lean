import SiteEdit.Session.Manager
/-!
# Runs of the manager

A run is a sequence of operations, each at a time of its own: nothing is said about the order of the times.  An
operation that may start a session or take a snapshot brings the id for it; no id is brought twice.
-/
namespace SiteEdit

open Audit (Audited)

/-- The snapshot of a document, as it is when it is taken. -/
def Snapshot.taken (now : Millis) (fresh id : String) (document : Document) (text : Option String) :
    Snapshot :=
  { id := fresh
    sessionId := id
    document := document
    metadata := { timestamp := now, note := text }
    createdAt := now }

namespace Session

/-- What can be asked of the manager. -/
inductive Action where
  | createOrGet (fresh : String) (presented : Option String) (ip userAgent : String)
  | renew (id : String)
  | createSnapshot (fresh id : String) (document : Document) (text : Option String)
  | undo (id : String) (steps : Nat)
  | reset (id : String)
  | session (id : String)
  | state (id : String)
  | history (id : String)
  | snapshot (id : String)
  | stats
  | destroy (id : String)
  | discardUnused (id : String)
  | sweep
  deriving DecidableEq, Repr

namespace Action

/-- The id that an action brings for a session. -/
def sessionId? : Action → Option String
  | createOrGet fresh _ _ _ => some fresh
  | _ => none

/-- The id that an action brings for a snapshot. -/
def snapshotId? : Action → Option String
  | createSnapshot fresh _ _ _ => some fresh
  | _ => none

end Action

/-- What the manager returns. -/
inductive Answer where
  | started (session : Session)
  | session (result : Except Error Session)
  | snapshot (result : Except Error Snapshot)
  | undone (result : Except Error UndoOutcome)
  | state (result : Except Error State)
  | history (result : Except Error (List Snapshot))
  | found (snapshot : Option Snapshot)
  | stats (stats : Stats)
  | done (yes : Bool)
  | swept (sessions : Nat)

/-- Actions, each with its time. -/
abbrev Actions := List (Millis × Action)

/-- The ids that actions bring for sessions. -/
def Actions.sessionIds (acts : Actions) : List String := acts.filterMap fun a => a.2.sessionId?

/-- The ids that actions bring for snapshots. -/
def Actions.snapshotIds (acts : Actions) : List String := acts.filterMap fun a => a.2.snapshotId?

theorem filterMap_cons_append {α β : Type} (f : α → Option β) (a : α) (l : List α) :
    (a :: l).filterMap f = (f a).toList ++ l.filterMap f := by
  cases h : f a with
  | none => exact List.filterMap_cons_none h
  | some b => exact List.filterMap_cons_some h

theorem Actions.sessionIds_cons (now : Millis) (act : Action) (acts : Actions) :
    sessionIds ((now, act) :: acts) = act.sessionId?.toList ++ sessionIds acts := filterMap_cons_append _ _ acts

theorem Actions.snapshotIds_cons (now : Millis) (act : Action) (acts : Actions) :
    snapshotIds ((now, act) :: acts) = act.snapshotId?.toList ++ snapshotIds acts := filterMap_cons_append _ _ acts

/-- No id is brought twice. -/
structure Actions.Fresh (acts : Actions) : Prop where
  sessions : acts.sessionIds.Nodup
  snapshots : acts.snapshotIds.Nodup

namespace Manager

def perform (m : Manager) (now : Millis) : Action → Audited Manager Answer
  | .createOrGet fresh presented ip userAgent => (m.createOrGet now fresh presented ip userAgent).map .started
  | .renew id => (m.renew now id).map .session
  | .createSnapshot fresh id document text => (m.createSnapshot now fresh id document text).map .snapshot
  | .undo id steps => (m.undo now id steps).map .undone
  | .reset id => (m.reset now id).map .undone
  | .session id => (m.session now id).map .session
  | .state id => (m.state now id).map .state
  | .history id => (m.history now id).map .history
  | .snapshot id => { result := .found (m.snapshot? id), state := m }
  | .stats => { result := .stats m.stats, state := m }
  | .destroy id => (m.destroy id).map .done
  | .discardUnused id => (m.discardUnused id).map .done
  | .sweep => (m.sweep now).map .swept

/-- The manager after actions. -/
def run (m : Manager) : Actions → Manager
  | [] => m
  | (now, act) :: acts => (m.perform now act).state.run acts

/-- What the manager returns for actions. -/
def answers (m : Manager) : Actions → List Answer
  | [] => []
  | (now, act) :: acts => (m.perform now act).result :: (m.perform now act).state.answers acts

theorem run_append (m : Manager) : ∀ acts acts' : Actions, m.run (acts ++ acts') = (m.run acts).run acts'
  | [], _ => rfl
  | (now, act) :: acts, acts' => run_append (m.perform now act).state acts acts'

end Manager

end Session

end SiteEdit
