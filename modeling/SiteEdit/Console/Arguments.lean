/-!
# Arguments of the console

A command may be preceded by the options that every command has, and is followed by those and its own.  An option
is given at most once on either side of the command.  After `--` nothing is an option any more.
-/
namespace SiteEdit.Console

/-- The options. -/
inductive Flag where
  | config
  | verbose
  | logJson
  | ip
  | userAgent
  | help
  | version
  deriving DecidableEq, Repr

namespace Flag

def long : Flag → String
  | .config => "config"
  | .verbose => "verbose"
  | .logJson => "log-json"
  | .ip => "ip"
  | .userAgent => "user-agent"
  | .help => "help"
  | .version => "version"

def short? : Flag → Option Char
  | .config => some 'c'
  | .verbose => some 'v'
  | .help => some 'h'
  | .version => some 'V'
  | _ => none

/-- Whether an option has a value. -/
def takesValue : Flag → Bool
  | .config | .ip | .userAgent => true
  | _ => false

/-- Whether an option can have a value: the path of a file is not empty. -/
def admits (f : Flag) (value : String) : Bool := f ≠ .config || value ≠ ""

/-- The options that every command has. -/
def shared : List Flag := [.config, .verbose, .logJson, .help]

end Flag

/-- The commands. -/
inductive Verb where
  | transform
  | repl
  | check
  | validate
  | config
  deriving DecidableEq, Repr

namespace Verb

def all : List Verb := [.transform, .repl, .check, .validate, .config]

def name : Verb → String
  | .transform => "transform"
  | .repl => "repl"
  | .check => "check"
  | .validate => "validate"
  | .config => "config"

def ofName? (s : String) : Option Verb := all.find? fun v => v.name == s

/-- The options of a command. -/
def flags : Verb → List Flag
  | .transform | .repl => .ip :: .userAgent :: Flag.shared
  | _ => Flag.shared

/-- How many words a command takes at most. -/
def capacity : Verb → Nat
  | .transform | .check | .validate => 1
  | .repl | .config => 0

end Verb

/-- What was found among arguments. -/
structure Found where
  options : List (Flag × String) := []
  words : List String := []
  deriving DecidableEq, Repr

namespace Found

/-- The value of an option. -/
def value? (f : Found) (flag : Flag) : Option String := f.options.lookup flag

end Found

/-- Why the arguments are not looked at any further. -/
inductive Stop where
  | help
  | version
  | misuse
  deriving DecidableEq, Repr

/-- Takes note of an option. -/
def Found.add (f : Found) (flag : Flag) (value : String) : Except Stop Found :=
  if flag = .help then .error .help
  else if flag = .version then .error .version
  else if (f.value? flag).isSome || !flag.admits value then .error .misuse
  else .ok { f with options := (flag, value) :: f.options }

/-- Whether an argument can only be an option. -/
def looksLikeOption (a : String) : Bool :=
  match a.toList with
  | '-' :: _ :: _ => true
  | _ => false

/-- Takes note of the short options in one argument.  The last of them may still need a value, which the next
argument gives. -/
def Found.addShort (flags : List Flag) : List Char → Found → Except Stop (Found × Option Flag)
  | [], f => .ok (f, none)
  | c :: cs, f =>
    match flags.find? fun flag => flag.short? = some c with
    | none => .error .misuse
    | some flag =>
      if flag.takesValue then
        match cs with
        | [] => .ok (f, some flag)
        | '=' :: value => (f.add flag (String.ofList value)).map (·, none)
        | value => (f.add flag (String.ofList value)).map (·, none)
      else (f.add flag "").bind fun f => f.addShort flags cs

/-- Takes note of a long option.  It may still need a value, which the next argument gives. -/
def Found.addLong (flags : List Flag) (text : List Char) (f : Found) : Except Stop (Found × Option Flag) :=
  let name := text.takeWhile (· ≠ '=')
  match flags.find? fun flag => flag.long.toList = name, text.dropWhile (· ≠ '=') with
  | none, _ => .error .misuse
  | some flag, [] => if flag.takesValue then .ok (f, some flag) else (f.add flag "").map (·, none)
  | some flag, _ :: value =>
    if flag.takesValue then (f.add flag (String.ofList value)).map (·, none) else .error .misuse

/-- Takes note of an option in an argument that looks like one. -/
def Found.addOption (flags : List Flag) (a : String) (f : Found) : Except Stop (Found × Option Flag) :=
  match a.toList with
  | '-' :: '-' :: text => f.addLong flags text
  | text => f.addShort flags (text.drop 1)

/-- Takes note of a word; `validate` takes the path of a file, which is not empty. -/
def Found.addWord (verb : Verb) (a : String) (f : Found) : Except Stop Found :=
  if f.words.length < verb.capacity ∧ ¬(verb = .validate ∧ a = "") then .ok { f with words := f.words ++ [a] }
  else .error .misuse

/-- Looks through the arguments of a command. -/
def scan (verb : Verb) (onlyWords : Bool) : List String → Found → Except Stop Found
  | [], f => .ok f
  | a :: rest, f =>
    if onlyWords then (f.addWord verb a).bind fun f => scan verb true rest f
    else if a = "--" then scan verb true rest f
    else if looksLikeOption a then
      match f.addOption verb.flags a, rest with
      | .error stop, _ => .error stop
      | .ok (f, none), rest => scan verb false rest f
      | .ok (_, some _), [] => .error .misuse
      | .ok (f, some flag), value :: rest =>
        if looksLikeOption value then .error .misuse
        else (f.add flag value).bind fun f => scan verb false rest f
    else (f.addWord verb a).bind fun f => scan verb false rest f

/-- What stops a call for help: it may name one command, or itself. -/
def helpStop : List String → Stop
  | [] => .help
  | [topic] => if topic = "help" ∨ (Verb.ofName? topic).isSome then .help else .misuse
  | _ => .misuse

/-- Looks through the arguments before the command; returns the command and what follows it. -/
def scanCommand : List String → Found → Except Stop (Found × Verb × List String)
  | [], _ => .error .misuse
  | a :: rest, f =>
    if a = "help" then .error (helpStop rest)
    else if a = "--" then .error .misuse
    else if looksLikeOption a then
      match f.addOption (.version :: Flag.shared) a, rest with
      | .error stop, _ => .error stop
      | .ok (f, none), rest => scanCommand rest f
      | .ok (_, some _), [] => .error .misuse
      | .ok (f, some flag), value :: rest =>
        if looksLikeOption value then .error .misuse
        else (f.add flag value).bind fun f => scanCommand rest f
    else
      match Verb.ofName? a with
      | some verb => .ok (f, verb, rest)
      | none => .error .misuse

/-- What the console is asked to do. -/
inductive Command where
  | transform (text ip userAgent : String)
  | repl (ip userAgent : String)
  | check (text : String)
  /-- Validates a document in a file, or on the standard input. -/
  | validate (file : Option String)
  | config
  deriving DecidableEq, Repr

/-- A command, and the file with the settings if there is one. -/
structure Invocation where
  settings : Option String
  command : Command
  deriving DecidableEq, Repr

/-- The address of requests if none is given. -/
def defaultIp : String := "127.0.0.1"

/-- The user agent of requests if none is given. -/
def defaultUserAgent : String := "quill-cli"

/-- The command with what was found after it. -/
def Verb.command (verb : Verb) (f : Found) : Except Stop Command :=
  let ip := (f.value? .ip).getD defaultIp
  let userAgent := (f.value? .userAgent).getD defaultUserAgent
  match verb, f.words with
  | .transform, [text] => .ok (.transform text ip userAgent)
  | .repl, [] => .ok (.repl ip userAgent)
  | .check, [text] => .ok (.check text)
  | .validate, words => .ok (.validate words.head?)
  | .config, [] => .ok .config
  | _, _ => .error .misuse

/-- Reads the arguments.  Of two files with settings the one after the command counts. -/
def readArguments (args : List String) : Except Stop Invocation := do
  let (before, verb, rest) ← scanCommand args {}
  let after ← scan verb false rest {}
  let command ← verb.command after
  pure { settings := (after.value? .config).or (before.value? .config), command := command }

end SiteEdit.Console
