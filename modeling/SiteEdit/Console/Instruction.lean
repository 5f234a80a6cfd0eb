import SiteEdit.Engine.Refusal
import SiteEdit.Limit.Key
import SiteEdit.Text.Blank
/-!
# Instructions

In a dialogue, a line that starts with a colon is an instruction, any other line a request.
-/
namespace SiteEdit.Console

/-! ## Numbers -/

/-- Why a word is no number. -/
inductive NumberError where
  | empty
  | invalidDigit
  | tooLarge
  deriving DecidableEq, Repr

def NumberError.message : NumberError → String
  | .empty => "cannot parse integer from empty string"
  | .invalidDigit => "invalid digit found in string"
  | .tooLarge => "number too large to fit in target type"

/-- Reads digits from left to right, after the number `n`. -/
def readDigits (n : Nat) : List Char → Except NumberError Nat
  | [] => .ok n
  | c :: cs =>
    if !c.isDigit then .error .invalidDigit
    else
      let m := n * 10 + (c.toNat - 48)
      if m < Nat.pow 2 64 then readDigits m cs else .error .tooLarge

/-- Reads a number of 64 bits, which may have a plus in front. -/
def readNumber : List Char → Except NumberError Nat
  | [] => .error .empty
  | ['+'] => .error .invalidDigit
  | '+' :: cs => readDigits 0 cs
  | cs => readDigits 0 cs

/-! ## Instructions -/

/-- What can be asked for in a dialogue besides requests. -/
inductive Instruction where
  | help
  | undo (steps : Nat)
  | reset
  | state
  | history
  | audit (count : Nat)
  | stats
  | ban (key : Limit.Key) (secs : Option UInt64)
  | unban (key : Limit.Key)
  | bans
  | unknown (name : String)
  deriving DecidableEq, Repr

/-- Why an instruction cannot be carried out. -/
inductive InstructionError where
  | notNumber (what : String) (cause : NumberError)
  | usage (text : String)
  | invalidKey (key : String)
  | noSession
  | refused (refusal : Engine.Refusal)
  deriving DecidableEq, Repr

def InstructionError.message : InstructionError → String
  | .notNumber what cause => what ++ " must be a number: " ++ cause.message
  | .usage text => "usage: " ++ text
  | .invalidKey key => Limit.Key.invalidMessage key
  | .noSession => "no session yet; send a request first"
  | .refused refusal => refusal.message

/-- Reads an optional number. -/
def optionalNumber (what : String) : Option String → Except InstructionError (Option Nat)
  | none => .ok none
  | some word => (readNumber word.toList).mapError (.notNumber what) |>.map some

/-- Reads a key. -/
def requiredKey (usage : String) : Option String → Except InstructionError Limit.Key
  | none => .error (.usage usage)
  | some word =>
    match Limit.Key.ofText? word with
    | some key => .ok key
    | none => .error (.invalidKey word)

/-- Reads an instruction from its name and arguments.  Arguments that are not needed are ignored. -/
def Instruction.read (name : String) (args : List String) : Except InstructionError Instruction :=
  match name with
  | "help" | "h" => .ok .help
  | "undo" => (optionalNumber "steps" args[0]?).map fun n => .undo (n.getD 1)
  | "reset" => .ok .reset
  | "state" => .ok .state
  | "history" => .ok .history
  | "audit" => (optionalNumber "count" args[0]?).map fun n => .audit (n.getD 10)
  | "stats" => .ok .stats
  | "ban" => do
    let key ← requiredKey ":ban <key> [secs]" args[0]?
    let secs ← optionalNumber "secs" args[1]?
    pure (.ban key (secs.map UInt64.ofNat))
  | "unban" => (requiredKey ":unban <key>" args[0]?).map .unban
  | "bans" => .ok .bans
  | _ => .ok (.unknown name)

/-- What a line says. -/
inductive Line where
  | empty
  | quit
  | instruction (name : String) (args : List String)
  | request (text : String)
  deriving DecidableEq, Repr

/-- Reads a line. -/
def Line.read (line : String) : Line :=
  match Text.trim line.toList with
  | [] => .empty
  | ':' :: rest =>
    let words := (Text.words rest).map String.ofList
    let name := words.headD ""
    if name = "quit" ∨ name = "q" then .quit else .instruction name words.tail
  | text => .request (String.ofList text)

end SiteEdit.Console
