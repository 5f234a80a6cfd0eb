import SiteEdit.Engine.Refusal
import SiteEdit.Session.Manager
import SiteEdit.Settings.Basic
/-!
# The way of a request

A request is counted for its address, given a session, counted for its session, screened, understood, checked as a
document and recorded.  A request that is refused on the way leaves no snapshot, and a session that was started for
it is dropped again.
-/
namespace SiteEdit

open Audit (Audited Event)

/-- A request and who sends it. -/
structure Request where
  text : String
  ip : String
  userAgent : String
  /-- The session that the client presents. -/
  session : Option String
  deriving DecidableEq, Repr

namespace Engine

/-- What requests change. -/
structure State where
  limiter : Limit.Limiter
  sessions : Session.Manager
  deriving DecidableEq, Repr

/-- Ids that have not been used yet. -/
structure FreshIds where
  session : String
  snapshot : String
  deriving DecidableEq, Repr

/-- A request that was carried out. -/
structure Accepted where
  /-- The session that has the snapshot, which may be another than the one presented. -/
  sessionId : String
  snapshot : Snapshot
  document : Document
  /-- How many more requests are allowed, for the address and for the session. -/
  remaining : Nat
  risk : Policy.Risk
  personal : List Policy.PersonalKind
  deriving DecidableEq, Repr

/-! ## Understanding -/

/-- Refuses a document that breaks the schema. -/
def checkSchema (d : Document) : Except Refusal Unit :=
  let report := Schema.validateDocument d
  if report.valid then .ok () else .error (.malformed report)

/-- Refuses a document that breaks the policy. -/
def checkPolicy (screen : Policy.Screen) (d : Document) : Except Refusal Unit :=
  let verdict := screen.checkDocument d
  if verdict.safe then .ok () else .error (.document verdict)

/-- Refuses a text that breaks the policy. -/
def checkText (screen : Policy.Screen) (text : String) : Except Refusal Unit :=
  let verdict := screen.checkText text
  if verdict.safe then .ok () else .error (.text verdict)

/-- The document that a text asks for. -/
def readText (text : String) : Except Refusal Document :=
  match Request.parse? text with
  | some d => .ok d
  | none => .error .unrecognized

/-- The document that a text asks for, if neither is refused. -/
def understand (screen : Policy.Screen) (text : String) : Except Refusal Document := do
  checkText screen text
  let d ← readText text
  checkSchema d
  checkPolicy screen d
  pure d

/-- The document that a value holds, if it breaks neither the schema nor the policy. -/
def validateDocument (screen : Policy.Screen) (j : Json) : Except Refusal Document :=
  match Schema.intoDocument j with
  | .error report => .error (.malformed report)
  | .ok d => (checkPolicy screen d).map fun () => d

namespace State

/-- The state before the first request. -/
def empty (s : Settings) : State := { limiter := .empty s.limits, sessions := .empty s.sessions }

/-- Carries out an operation of the limiter. -/
def onLimiter {α : Type} (s : State) (f : Limit.Limiter → Audited Limit.Limiter α) : Audited State α :=
  let a := f s.limiter
  { result := a.result, state := { s with limiter := a.state }, events := a.events }

/-- Carries out an operation of the sessions. -/
def onSessions {α : Type} (s : State) (f : Session.Manager → Audited Session.Manager α) : Audited State α :=
  let a := f s.sessions
  { result := a.result, state := { s with sessions := a.state }, events := a.events }

/-- Refuses a request of a session. -/
def refuse {α : Type} (s : State) (session text : String) (r : Refusal) : Audited State (Except Refusal α) :=
  { result := .error r, state := s, events := (r.event? session text).toList }

/-! ## The stages -/

/-- Records the document of a request in its session. -/
def record (s : State) (screen : Policy.Screen) (now : Millis) (fresh session text : String) (d : Document)
    (remaining : Nat) : Audited State (Except Refusal Accepted) :=
  let verdict := screen.checkText text
  let note := (screen.redactor.redact text).text
  (s.onSessions fun m => m.createSnapshot now fresh session d (some note)).next fun
    | .error e, s => { result := .error (.session e), state := s }
    | .ok snapshot, s =>
      { result := .ok
          { sessionId := session
            snapshot := snapshot
            document := d
            remaining := remaining
            risk := verdict.risk
            personal := verdict.personal }
        state := s
        events := [{
          level := .info
          name := "transform_accepted"
          session := some session
          data := Json.object [("snapshot_id", .str snapshot.id),
            ("ops", Json.ofList (fun c : Change => .str c.op.name) d.changes),
            ("pii", Json.ofList Policy.PersonalKind.toJson verdict.personal)] }] }

/-- Goes on with a request that has a session. -/
def proceed (s : State) (screen : Policy.Screen) (now : Millis) (fresh session text : String) (ipRemaining : Nat) :
    Audited State (Except Refusal Accepted) :=
  (s.onLimiter fun l => l.check now (.session session)).next fun
    | .deny denial, s => s.refuse session text (.quota denial)
    | .allow remaining, s =>
      match understand screen text with
      | .error r => s.refuse session text r
      | .ok d => s.record screen now fresh session text d (min ipRemaining remaining)

/-- Carries out a request. -/
def transform (s : State) (screen : Policy.Screen) (now : Millis) (fresh : FreshIds) (r : Request) :
    Audited State (Except Refusal Accepted) :=
  (s.onLimiter fun l => l.check now (.ip r.ip)).next fun
    | .deny denial, s => { result := .error (.quota denial), state := s }
    | .allow ipRemaining, s =>
      (s.onSessions fun m => m.createOrGet now fresh.session r.session r.ip r.userAgent).next fun session s =>
        (s.proceed screen now fresh.snapshot session.id r.text ipRemaining).next fun result s =>
          match result with
          | .ok accepted => { result := .ok accepted, state := s }
          | .error refusal =>
            if r.session = some session.id then { result := .error refusal, state := s }
            else (s.onSessions fun m => m.discardUnused session.id).map fun _ => .error refusal

end State

end Engine

end SiteEdit
