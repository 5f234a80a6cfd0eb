import SiteEdit.Console.Arguments
import SiteEdit.Console.Dialogue
import SiteEdit.Json.Reader
import SiteEdit.Settings.Text
/-!
# One run of the console

A run ends with a number: 0 if it did what it was asked to do, 1 if something could not be read, 2 if it was asked
in the wrong way or the request was refused.
-/
namespace SiteEdit.Console

/-- What a run ends with. -/
structure Reply where
  code : UInt32
  lines : List String
  deriving DecidableEq, Repr

namespace Reply

/-- The reply to what was done. -/
def done (lines : List String) : Reply := { code := 0, lines := lines }

/-- The reply where something cannot be read. -/
def unreadable : Reply := { code := 1, lines := [] }

/-- The reply to wrong arguments. -/
def misuse : Reply := { code := 2, lines := [] }

/-- The reply to a refused request. -/
def refused (r : Engine.Refusal) : Reply := { code := 2, lines := [r.toJson.pretty] }

/-- What is written on the standard output. -/
def output (r : Reply) : String := String.join (r.lines.map fun line => line ++ "\n")

end Reply

/-- The line that tells the version. -/
def versionLine : String := "quill 0.1.0"

/-- The line that tells the usage. -/
def usageLine : String :=
  "Usage: quill [OPTIONS] <" ++ String.intercalate "|" (Verb.all.map Verb.name) ++ ">"

/-- The reply to arguments that name no command to run. -/
def Stop.reply : Stop → Reply
  | .help => .done [usageLine]
  | .version => .done [versionLine]
  | .misuse => .misuse

/-- Does something with an engine. -/
def withEngine (s : Settings) (f : Engine → Reply) : Reply :=
  match Engine.start s with
  | .ok e => f e
  | .error _ => .unreadable

/-- Sends one request. -/
def transform (s : Settings) (now : Millis) (fresh : Engine.FreshIds) (text ip userAgent : String) : Reply :=
  withEngine s fun e =>
    match (e.transform now fresh { text := text, ip := ip, userAgent := userAgent, session := none }).2 with
    | .ok accepted => .done [accepted.toJson.pretty]
    | .error refusal => .refused refusal

/-- Screens a text. -/
def check (s : Settings) (text : String) : Reply :=
  withEngine s fun e => .done [(e.screen.checkText text).toJson.pretty]

/-- Validates a document. -/
def validate (s : Settings) (content : String) : Reply :=
  match Json.parse? content with
  | none => .unreadable
  | some j =>
    withEngine s fun e =>
      match Engine.validateDocument e.screen j with
      | .ok d => .done [d.toJson.pretty]
      | .error refusal => .refused refusal

/-- The lines of a text.  A line break at the end starts no further line. -/
def linesOf (text : String) : List String :=
  let lines := text.splitOn "\n"
  if lines.getLast? = some "" then lines.dropLast else lines

/-- Holds a dialogue. -/
def converse (s : Settings) (now : Millis) (fresh : Nat → Engine.FreshIds) (ip userAgent input : String) : Reply :=
  withEngine s fun e =>
    let dialogue : Dialogue := { engine := e, ip := ip, userAgent := userAgent, session := none }
    .done (Dialogue.greeting :: dialogue.answerAll now fresh 0 (linesOf input))

/-- What a run finds: the texts of files, the file with the settings if the arguments name none, the standard input,
the time, and ids for every line. -/
structure Surroundings where
  file : String → Option String
  settings : Option String
  input : String
  now : Millis
  fresh : Nat → Engine.FreshIds

/-- The settings in a file, or the standard ones. -/
def Surroundings.settingsAt (w : Surroundings) : Option String → Option Settings
  | none => some {}
  | some path =>
    match (w.file path).map Settings.ofText? with
    | some (.ok s) => some s
    | _ => none

/-- Carries out a command. -/
def carryOut (s : Settings) (w : Surroundings) : Command → Reply
  | .transform text ip userAgent => transform s w.now (w.fresh 0) text ip userAgent
  | .repl ip userAgent => converse s w.now w.fresh ip userAgent w.input
  | .check text => check s text
  | .validate none => validate s w.input
  | .validate (some path) =>
    match w.file path with
    | some content => validate s content
    | none => .unreadable
  | .config => { code := 0, lines := linesOf s.toText }

/-- Carries out what the arguments ask for. -/
def perform (i : Invocation) (w : Surroundings) : Reply :=
  match w.settingsAt (i.settings.or w.settings) with
  | some s => carryOut s w i.command
  | none => .unreadable

/-- One run. -/
def run (args : List String) (w : Surroundings) : Reply :=
  match readArguments args with
  | .ok i => perform i w
  | .error stop => stop.reply

end SiteEdit.Console
