import SiteEdit.Console.Instruction
import SiteEdit.Engine.Codec
import SiteEdit.Json.Printer
/-!
# The dialogue

A dialogue keeps the session that the engine issued and presents it with every further request.
-/
namespace SiteEdit.Console

/-- The state of a dialogue. -/
structure Dialogue where
  engine : Engine
  ip : String
  userAgent : String
  session : Option String
  deriving DecidableEq, Repr

namespace Dialogue

/-- The line with which a dialogue starts. -/
def greeting : String := "Quill REPL. Type :help for commands."

def help : String :=
  "Type a request, or one of:\n"
    ++ "  :undo [n]           detach the last n snapshots (default 1)\n"
    ++ "  :reset              detach the whole history\n"
    ++ "  :state              show session state\n"
    ++ "  :history            list active snapshots\n"
    ++ "  :audit [n]          show the last n audit entries (default 10)\n"
    ++ "  :stats              engine counters\n"
    ++ "  :ban <key> [secs]   ban ip:<addr> or session:<id>; permanent without secs\n"
    ++ "  :unban <key>        lift a ban\n"
    ++ "  :bans               list active bans\n"
    ++ "  :quit               exit"

/-- The reason of the bans that are placed in a dialogue. -/
def banReason : String := "repl"

/-- A snapshot on one line. -/
def snapshotLine (s : Snapshot) : String :=
  s.id ++ "  " ++ toString s.document.changes.length ++ " change(s)  " ++ s.metadata.note.getD ""

/-- A recorded event on one line. -/
def entryLine (e : Audit.Entry) : String :=
  "#" ++ toString e.id ++ " " ++ e.level.name ++ " " ++ e.event ++ " " ++ e.session.getD "-" ++ " " ++ e.data.compact

/-- A ban on one line. -/
def banLine (b : String × Limit.Ban) : String :=
  let until_ := match b.2.expiresAt with
    | some t => toString t
    | none => "permanent"
  b.1 ++ "  " ++ b.2.reason ++ "  until " ++ until_

/-- Sends a request; returns the lines that answer it. -/
def request (d : Dialogue) (now : Millis) (fresh : Engine.FreshIds) (text : String) : Dialogue × List String :=
  let (engine, result) := d.engine.transform now fresh
    { text := text, ip := d.ip, userAgent := d.userAgent, session := d.session }
  match result with
  | .error refusal =>
    ({ d with engine := engine }, ["rejected [" ++ refusal.kind ++ "] " ++ refusal.message])
  | .ok accepted =>
    let issued := if d.session = some accepted.sessionId then [] else ["session " ++ accepted.sessionId]
    ({ d with engine := engine, session := some accepted.sessionId },
      issued ++ ["accepted " ++ accepted.snapshot.id, accepted.document.toJson.pretty])

/-- Carries out an operation on the session of the dialogue. -/
def onSession {α : Type} (d : Dialogue) (f : String → Engine × Except Engine.Refusal α) (lines : α → List String) :
    Dialogue × Except InstructionError (List String) :=
  match d.session with
  | none => (d, .error .noSession)
  | some id =>
    let (engine, result) := f id
    ({ d with engine := engine }, (result.mapError .refused).map lines)

/-- Carries out an instruction; returns the lines that answer it. -/
def carryOut (d : Dialogue) (now : Millis) : Instruction → Dialogue × Except InstructionError (List String)
  | .help => (d, .ok [help])
  | .undo steps => d.onSession (fun id => d.engine.undo now id steps) fun o => [o.toJson.pretty]
  | .reset => d.onSession (fun id => d.engine.reset now id) fun o => [o.toJson.pretty]
  | .state => d.onSession (fun id => d.engine.sessionState now id) fun s => [s.toJson.pretty]
  | .history => d.onSession (fun id => d.engine.history now id) fun ss => ss.map snapshotLine
  | .audit count => (d, .ok ((d.engine.log.recent count).map entryLine))
  | .stats => (d, .ok [(d.engine.stats now).toJson.pretty])
  | .ban key secs =>
    let (engine, ban) := d.engine.ban now key banReason secs
    ({ d with engine := engine }, .ok [ban.toJson.pretty])
  | .unban key =>
    let (engine, lifted) := d.engine.unban now key
    ({ d with engine := engine }, .ok [if lifted then "unbanned" else "not banned"])
  | .bans => (d, .ok ((d.engine.bans now).map banLine))
  | .unknown name => (d, .ok ["unknown command :" ++ name ++ " (try :help)"])

/-- Reads and carries out an instruction. -/
def instruct (d : Dialogue) (now : Millis) (name : String) (args : List String) : Dialogue × List String :=
  match Instruction.read name args with
  | .error e => (d, ["error: " ++ e.message])
  | .ok instruction =>
    match d.carryOut now instruction with
    | (d, .ok lines) => (d, lines)
    | (d, .error e) => (d, ["error: " ++ e.message])

/-- Answers a line; nothing after the line that ends the dialogue. -/
def answer (d : Dialogue) (now : Millis) (fresh : Engine.FreshIds) (line : String) :
    Option (Dialogue × List String) :=
  match Line.read line with
  | .empty => some (d, [])
  | .quit => none
  | .instruction name args => some (d.instruct now name args)
  | .request text => some (d.request now fresh text)

/-- Sweeps the engine of a dialogue. -/
def sweep (d : Dialogue) (now : Millis) : Dialogue := { d with engine := (d.engine.sweep now).1 }

/-- The lines that answer all lines, at one time. -/
def answerAll (d : Dialogue) (now : Millis) (fresh : Nat → Engine.FreshIds) : Nat → List String → List String
  | _, [] => []
  | i, line :: rest =>
    match d.answer now (fresh i) line with
    | none => []
    | some (d, lines) => lines ++ d.answerAll now fresh (i + 1) rest

end Dialogue

end SiteEdit.Console
