import SiteEdit.Json.Basic
import SiteEdit.Pattern.Search
/-!
# Redaction of personal data

Each rule replaces what its pattern matches by the placeholder of a kind of personal data.  The rules are applied in
order, and again as long as one of them matches, at most four times: a placeholder can put a word edge where there
was none.
-/
namespace SiteEdit.Policy

/-- The kinds of personal data. -/
inductive PersonalKind where
  | email
  | phone
  | nationalId
  | creditCard
  | apiKey
  | token
  deriving DecidableEq, Repr

namespace PersonalKind

/-- All kinds, in their fixed order. -/
def all : List PersonalKind := [.email, .phone, .nationalId, .creditCard, .apiKey, .token]

def name : PersonalKind → String
  | .email => "email"
  | .phone => "phone"
  | .nationalId => "national_id"
  | .creditCard => "credit_card"
  | .apiKey => "api_key"
  | .token => "token"

/-- The word for the kind in the id of a rule. -/
def label : PersonalKind → String
  | .email => "Email"
  | .phone => "Phone"
  | .nationalId => "NationalId"
  | .creditCard => "CreditCard"
  | .apiKey => "ApiKey"
  | .token => "Token"

/-- What stands in the place of the data. -/
def placeholder : PersonalKind → String
  | .email => "[EMAIL]"
  | .phone => "[PHONE]"
  | .nationalId => "[NATIONAL_ID]"
  | .creditCard => "[CARD]"
  | .apiKey => "[API_KEY]"
  | .token => "[TOKEN]"

end PersonalKind

/-- A pattern and the kind of personal data that it matches. -/
structure RedactionRule where
  kind : PersonalKind
  pattern : Pattern
  deriving DecidableEq, Repr

/-- The rules of a redaction, in their order. -/
structure Redactor where
  rules : List RedactionRule
  deriving DecidableEq, Repr

/-- A redacted text and the kinds that were found, in their fixed order. -/
structure Redacted where
  text : String
  detected : List PersonalKind
  deriving DecidableEq, Repr

namespace Redactor

/-- One rule: the text and whether it changed. -/
def applyRule (rule : RedactionRule) (text : List Char) : List Char × List PersonalKind :=
  if rule.pattern.occursIn text then (rule.pattern.replaceAll rule.kind.placeholder.toList text, [rule.kind])
  else (text, [])

/-- All rules in order: the text and the kinds that were found. -/
def pass (rules : List RedactionRule) (text : List Char) : List Char × List PersonalKind :=
  rules.foldl (fun acc rule =>
    let step := applyRule rule acc.1
    (step.1, acc.2 ++ step.2)) (text, [])

/-- At most `n` passes, until one finds nothing. -/
def passes (rules : List RedactionRule) : Nat → List Char → List Char × List PersonalKind
  | 0, text => (text, [])
  | n + 1, text =>
    let first := pass rules text
    if first.2.isEmpty then first
    else
      let more := passes rules n first.1
      (more.1, first.2 ++ more.2)

/-- The most passes over a text. -/
def maxPasses : Nat := 4

/-- Redacts a text. -/
def redact (r : Redactor) (text : String) : Redacted :=
  let result := passes r.rules maxPasses text.toList
  { text := String.ofList result.1, detected := PersonalKind.all.filter result.2.contains }

/-- The redacted text alone. -/
def redactText (r : Redactor) (text : String) : String := (r.redact text).text

mutual

/-- Redacts every string in a value, the names of members too.  Of members whose names become the same, the last
stays. -/
def redactJson (r : Redactor) : Json → Json
  | .str s => .str (r.redactText s)
  | .arr items => .arr (r.redactItems items)
  | .obj members => Json.object (r.redactMembers members)
  | j => j
termination_by structural j => j

def redactItems (r : Redactor) : List Json → List Json
  | [] => []
  | j :: rest => r.redactJson j :: r.redactItems rest
termination_by structural l => l

def redactMembers (r : Redactor) : List (String × Json) → List (String × Json)
  | [] => []
  | m :: rest => r.redactMember m :: r.redactMembers rest
termination_by structural l => l

def redactMember (r : Redactor) : String × Json → String × Json
  | (k, j) => (r.redactText k, r.redactJson j)
termination_by structural m => m

end

end Redactor

end SiteEdit.Policy
