import SiteEdit.Document.Basic
import SiteEdit.Pattern.Reader
import SiteEdit.Pattern.Search
import SiteEdit.Policy.Tables
import SiteEdit.Policy.Verdict
import SiteEdit.Text.Find
import SiteEdit.Text.Lowercase
/-!
# Screening of texts and documents

A screen is a set of tables put to use: keywords in lower case, patterns read.  A text is checked for its length, for
dangerous commands, for injected prompts, for prohibited content and for markup; a document for its selectors and
variables, and every free text of it again like a request.  The checks are independent of each other and change
nothing.
-/
namespace SiteEdit.Policy

/-- Why tables cannot be put to use. -/
inductive TablesError where
  | noLength
  /-- The pattern of the rule with this id is not well written. -/
  | badPattern (id : String)
  deriving DecidableEq, Repr

/-- The sentence for an error. -/
def TablesError.message : TablesError → String
  | .noLength => "Invalid policy tables: max_input_length must be greater than 0"
  | .badPattern id => "Pattern compilation error in rule " ++ id

/-- A pattern that was read, and its name. -/
structure NamedPattern where
  id : String
  pattern : Pattern
  deriving DecidableEq, Repr

/-- Adds what is not there yet. -/
def addNew {α : Type} [BEq α] (as : List α) (a : α) : List α := if as.contains a then as else as ++ [a]

theorem mem_foldl_addNew {α : Type} [BEq α] [LawfulBEq α] {x : α} :
    ∀ {xs acc : List α}, x ∈ xs.foldl addNew acc ↔ x ∈ acc ∨ x ∈ xs
  | [], acc => by simp
  | y :: xs, acc => by
    have hadd : x ∈ addNew acc y ↔ x ∈ acc ∨ x = y := by
      unfold addNew
      split
      · rename_i h
        have hy : y ∈ acc := List.contains_iff_mem.1 h
        exact ⟨.inl, fun h => h.elim id fun hx => hx ▸ hy⟩
      · rw [List.mem_append, List.mem_singleton]
    rw [List.foldl_cons, mem_foldl_addNew, hadd, List.mem_cons, or_assoc]

/-- The set of some names: each of them once. -/
def nameSet (names : List String) : List String := names.foldl addNew []

theorem mem_nameSet {names : List String} {name : String} : name ∈ nameSet names ↔ name ∈ names := by
  simp [nameSet, mem_foldl_addNew]

/-- Tables put to use. -/
structure Screen where
  tables : Tables
  /-- The set of the allowed selectors. -/
  selectors : List String
  /-- The set of the allowed style variables. -/
  styleVars : List String
  dangerous : List String
  prohibited : List String
  injection : List NamedPattern
  markup : List NamedPattern
  redactor : Redactor
  mem_selectors : ∀ name, name ∈ selectors ↔ name ∈ tables.allowedSelectors
  mem_styleVars : ∀ name, name ∈ styleVars ↔ name ∈ tables.allowedStyleVars
  deriving DecidableEq, Repr

/-- Reads the patterns of some rules. -/
def readPatterns (rules : List PatternRule) : Except TablesError (List NamedPattern) :=
  rules.mapM fun rule =>
    match Pattern.read? rule.pattern with
    | some p => .ok { id := rule.id, pattern := p }
    | none => .error (.badPattern rule.id)

/-- Reads the patterns of personal data. -/
def readPersonal (rules : List PersonalRule) : Except TablesError (List RedactionRule) :=
  rules.mapM fun rule =>
    match Pattern.read? rule.pattern with
    | some p => .ok { kind := rule.kind, pattern := p }
    | none => .error (.badPattern ("pii:" ++ rule.kind.label))

/-- The redaction by the built-in rules. -/
def Redactor.builtin : Redactor :=
  { rules := Tables.builtinPersonal.filterMap fun rule =>
      (Pattern.read? rule.pattern).map fun p => { kind := rule.kind, pattern := p } }

/-- The ids of the patterns that match in a text. -/
def matching (rules : List NamedPattern) (text : String) : List String :=
  (rules.filter fun rule => rule.pattern.occursIn text.toList).map NamedPattern.id

/-- A rejected name as it may be shown: at most 64 characters, the unusual ones as question marks. -/
def shownName (s : String) : String :=
  String.ofList ((s.toList.take 64).map fun c =>
    if c.isAlphanum || c == '#' || c == '.' || c == '-' || c == '_' then c else '?')

/-- The verdict on a text. -/
structure TextVerdict where
  safe : Bool
  risk : Risk
  /-- One for each failed check. -/
  reasons : List String
  failedChecks : List Check
  /-- The personal data in the text, which fails no check. -/
  personal : List PersonalKind
  deriving DecidableEq, Repr

/-- What is wrong with one change. -/
structure Violation where
  index : Nat
  op : Operation
  reasons : List String
  failedChecks : List Check
  deriving DecidableEq, Repr

/-- The verdict on a document. -/
structure DocumentVerdict where
  safe : Bool
  risk : Risk
  violations : List Violation
  deriving DecidableEq, Repr

/-- The reasons of a verdict, each with its change. -/
def DocumentVerdict.reasons (v : DocumentVerdict) : List String :=
  v.violations.flatMap fun w =>
    w.reasons.map fun r => "changes[" ++ toString w.index ++ "] (" ++ w.op.name ++ "): " ++ r

namespace Screen

/-- Puts tables to use. -/
def ofTables (t : Tables) : Except TablesError Screen :=
  if t.maxInputLength = 0 then .error .noLength
  else do
    let injection ← readPatterns t.injectionPatterns
    let markup ← readPatterns t.markupPatterns
    let personal ← readPersonal t.personalRules
    pure
      { tables := t
        selectors := nameSet t.allowedSelectors
        styleVars := nameSet t.allowedStyleVars
        dangerous := t.dangerousCommands.map Text.lowerString
        prohibited := t.prohibitedKeywords.map Text.lowerString
        injection := injection
        markup := markup
        redactor := { rules := personal }
        mem_selectors := fun _ => mem_nameSet
        mem_styleVars := fun _ => mem_nameSet }

/-! ## Names -/

def checkSelector (s : Screen) (selector : String) : Finding :=
  if s.selectors.contains selector then .pass
  else .fail [shownName selector] "selector is not in the allow-list"

def checkStyleVar (s : Screen) (var : String) : Finding :=
  if s.styleVars.contains var then .pass
  else .fail [shownName var] "CSS variable is not in the allow-list"

/-- The findings on the names in a change. -/
def nameFindings (s : Screen) (c : Change) : List (Check × Finding) :=
  (.selectorWhitelist, s.checkSelector c.selector)
    :: c.styleVar?.toList.map fun var => (.variableWhitelist, s.checkStyleVar var)

/-- The names in a change, as one finding. -/
def checkNames (s : Screen) (c : Change) : Finding :=
  let failed := (s.nameFindings c).filter fun f => !f.2.safe
  if failed.isEmpty then .pass
  else .fail (failed.flatMap fun f => f.2.detected)
    (String.intercalate "; " (failed.flatMap fun f => f.2.reason.toList))

/-! ## Texts -/

def checkLength (s : Screen) (text : String) : Finding :=
  if s.tables.maxInputLength < text.length then
    .fail ["length=" ++ toString text.length]
      ("input too long: " ++ toString text.length ++ " > " ++ toString s.tables.maxInputLength ++ " characters")
  else .pass

def checkCommands (s : Screen) (text : String) : Finding :=
  let lowered := Text.lowerString text
  .ofDetected ((s.dangerous.filter fun c => Text.contains lowered c).map
      fun c => String.ofList (Text.trim c.toList))
    "dangerous command pattern detected"

def checkInjection (s : Screen) (text : String) : Finding :=
  .ofDetected (matching s.injection text) "prompt injection phrasing detected"

def checkProhibited (s : Screen) (text : String) : Finding :=
  let lowered := Text.lowerString text
  .ofDetected (s.prohibited.filter fun k => Text.contains lowered k) "prohibited content detected"

def checkMarkup (s : Screen) (text : String) : Finding :=
  .ofDetected (matching s.markup text) "markup or script content detected"

/-- The findings on a text, in their order. -/
def textFindings (s : Screen) (text : String) : List (Check × Finding) :=
  [(.length, s.checkLength text), (.dangerousCommand, s.checkCommands text),
    (.promptInjection, s.checkInjection text), (.prohibitedContent, s.checkProhibited text),
    (.unsafeMarkup, s.checkMarkup text)]

/-- The failed checks of a text, with their reasons. -/
def textFailures (s : Screen) (text : String) : List (Check × String) :=
  (s.textFindings text).filterMap fun f => if f.2.safe then none else some (f.1, f.2.text)

/-- The verdict on a text. -/
def checkText (s : Screen) (text : String) : TextVerdict :=
  let failures := s.textFailures text
  { safe := failures.isEmpty
    risk := Risk.ofFailures failures.length
    reasons := failures.map Prod.snd
    failedChecks := failures.map Prod.fst
    personal := (s.redactor.redact text).detected }

/-! ## Documents -/

/-- The failed checks of a change, with their reasons: of its names first, then of its free texts. -/
def changeFailures (s : Screen) (c : Change) : List (Check × String) :=
  (s.nameFindings c).filterMap (fun f => if f.2.safe then none else some (f.1, f.2.text))
    ++ c.textFields.flatMap fun field =>
      let verdict := s.checkText field.2
      (verdict.failedChecks.zip verdict.reasons).map fun f => (f.1, field.1 ++ ": " ++ f.2)

/-- What is wrong with the change at an index. -/
def violation? (s : Screen) (index : Nat) (c : Change) : Option Violation :=
  let failures := s.changeFailures c
  if failures.isEmpty then none
  else some
    { index := index
      op := c.op
      reasons := failures.map Prod.snd
      failedChecks := (failures.map Prod.fst).foldl addNew [] }

/-- What is wrong with the changes, counted from `i`. -/
def violationsFrom (s : Screen) : Nat → List Change → List Violation
  | _, [] => []
  | i, c :: cs => (s.violation? i c).toList ++ violationsFrom s (i + 1) cs

/-- The verdict on a document.  A check that fails on several changes counts once for the risk. -/
def checkDocument (s : Screen) (d : Document) : DocumentVerdict :=
  let violations := s.violationsFrom 0 d.changes
  { safe := violations.isEmpty
    risk := Risk.ofFailures ((violations.flatMap Violation.failedChecks).foldl addNew []).length
    violations := violations }

end Screen

end SiteEdit.Policy
