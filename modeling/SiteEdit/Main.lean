import SiteEdit.Console.Run
import SiteEdit.Hash.Blake3
import Std.Time.DateTime.Timestamp
/-!
# The program

Reads files, the clock and random bytes, and writes what the console replies.
-/
namespace SiteEdit.Console

/-- The time. -/
def currentTime : IO Millis := do
  let t ← Std.Time.Timestamp.now
  pure t.toMillisecondsSinceUnixEpoch.val

/-- Sixteen random bytes as digits. -/
def randomDigits : IO String := do
  let bytes ← IO.getRandomBytes 16
  pure (Hash.hex bytes.toList)

/-- Ids that nothing has had before. -/
def randomIds : IO Engine.FreshIds := do
  let session ← randomDigits
  let snapshot ← randomDigits
  pure { session := "sess_" ++ session, snapshot := "snap_" ++ snapshot }

/-- The text of a file, if it can be read. -/
def textAt (path : String) : IO (Option String) := do
  try
    let text ← IO.FS.readFile path
    pure (some text)
  catch _ => pure none

/-- The texts of the files that a run needs. -/
def textsAt (paths : List String) : IO (List (String × String)) := do
  let texts ← paths.mapM fun path => do
    let text ← textAt path
    pure (text.map fun t => (path, t))
  pure (texts.filterMap id)

/-- Writes a reply. -/
def write (r : Reply) : IO UInt32 := do
  let out ← IO.getStdout
  out.putStr r.output
  out.flush
  pure r.code

/-- Answers the lines of the standard input until the dialogue ends; `due` is when the next sweep is due. -/
partial def talk (d : Dialogue) (interval : Millis) (due : Millis) : IO UInt32 := do
  let input ← IO.getStdin
  let line ← input.getLine
  if line.isEmpty then pure 0
  else
    let now ← currentTime
    let late := decide (0 < interval ∧ due ≤ now)
    let d := if late then d.sweep now else d
    let fresh ← randomIds
    match d.answer now fresh line with
    | none => pure 0
    | some (d, lines) =>
      let _ ← write (.done lines)
      talk d interval (if late then now + interval else due)

/-- Starts a dialogue. -/
def startTalking (s : Settings) (ip userAgent : String) : IO UInt32 := do
  match Engine.start s with
  | .error _ => write .unreadable
  | .ok e =>
    let _ ← write (.done [Dialogue.greeting])
    let now ← currentTime
    let interval := if s.sweeper.enabled then seconds s.sweeper.intervalSecs else 0
    talk { engine := e, ip := ip, userAgent := userAgent, session := none } interval (now + interval)

/-- The rest of the standard input, after the text before it. -/
partial def standardInput (before : String) : IO String := do
  let input ← IO.getStdin
  let line ← input.getLine
  if line.isEmpty then pure before else standardInput (before ++ line)

/-- What a run finds; the standard input is read only if it is needed. -/
def lookAround (i : Invocation) (settings : Option String) : IO Surroundings := do
  let document := match i.command with
    | .validate file => file
    | _ => none
  let texts ← textsAt ((i.settings.or settings).toList ++ document.toList)
  let input ← if i.command = .validate none then standardInput "" else pure ""
  let now ← currentTime
  let fresh ← randomIds
  pure
    { file := fun path => texts.lookup path
      settings := settings
      input := input
      now := now
      fresh := fun _ => fresh }

/-- One run. -/
def start (args : List String) : IO UInt32 := do
  match readArguments args with
  | .error stop => write stop.reply
  | .ok i =>
    let settings ← IO.getEnv "QUILL_CONFIG"
    let surroundings ← lookAround i settings
    match i.command, surroundings.settingsAt (i.settings.or settings) with
    | .repl ip userAgent, some s => startTalking s ip userAgent
    | _, _ => write (perform i surroundings)

end SiteEdit.Console

def main (args : List String) : IO UInt32 := SiteEdit.Console.start args
