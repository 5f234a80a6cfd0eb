import SiteEdit.Document.Schema
import SiteEdit.Limit.Limiter
import SiteEdit.Policy.Codec
import SiteEdit.Request.Intent
import SiteEdit.Session.Basic
/-!
# Refusals

Why a request is refused.  A refusal for what a request says is reported as an event of its own; the limiter and the
sessions report theirs themselves.  There is no refusal for a document that cannot be written as a value: its parts are
texts, truth values and values, and to write these (`Document.toValue`) cannot fail.
-/
namespace SiteEdit.Engine

/-- What the policy was applied to. -/
inductive Stage where
  | text
  | document
  deriving DecidableEq, Repr

namespace Stage

def all : List Stage := [.text, .document]

def name : Stage → String
  | .text => "text"
  | .document => "dsl"

def toJson (s : Stage) : Json := .str s.name

def ofJson? : Json → Option Stage := Json.variant? name all

end Stage

/-- Why a request is refused. -/
inductive Refusal where
  /-- There were too many requests. -/
  | quota (denial : Limit.Denial)
  /-- The text breaks the policy. -/
  | text (verdict : Policy.TextVerdict)
  /-- The text asks for nothing that is known. -/
  | unrecognized
  /-- The document breaks the schema. -/
  | malformed (report : Schema.Report)
  /-- The document breaks the policy. -/
  | document (verdict : Policy.DocumentVerdict)
  /-- The session cannot be used. -/
  | session (error : Session.Error)
  deriving DecidableEq, Repr

namespace Refusal

/-- The word for the kind of a refusal. -/
def kind : Refusal → String
  | .quota _ => "quota"
  | .text _ | .document _ => "policy_violation"
  | .unrecognized => "unrecognized"
  | .malformed _ => "malformed"
  | .session (.notFound _) => "session_not_found"
  | .session (.expired _) => "session_expired"

/-- The sentence about a broken policy. -/
def policyMessage (risk : Policy.Risk) (reasons : List String) : String :=
  "Policy violation (" ++ risk.name ++ " risk): " ++ String.intercalate "; " reasons

/-- The sentence for a refusal. -/
def message : Refusal → String
  | .quota denial => "Quota exceeded: " ++ denial.reason
  | .text verdict => policyMessage verdict.risk verdict.reasons
  | .unrecognized => Request.guidance
  | .malformed report => "Malformed DSL: " ++ String.intercalate "; " report.messages
  | .document verdict => policyMessage verdict.risk verdict.reasons
  | .session e => e.message

/-- How risky the refused text or document is, if the policy refused it. -/
def risk? : Refusal → Option Policy.Risk
  | .text verdict => some verdict.risk
  | .document verdict => some verdict.risk
  | _ => none

/-- The event for a refusal, if nothing else reports it.  The text itself is not told. -/
def event? (session text : String) : Refusal → Option Audit.Event
  | .text verdict => some
    { level := .warning
      name := "text_rejected"
      session := some session
      data := Json.object [("risk", verdict.risk.toJson),
        ("failed_checks", Json.ofList Policy.Check.toJson verdict.failedChecks),
        ("reasons", Json.ofStrings verdict.reasons), ("input_chars", Json.ofNat text.length)] }
  | .unrecognized => some
    { level := .info
      name := "intent_unrecognized"
      session := some session
      data := Json.object [("input_chars", Json.ofNat text.length)] }
  | .malformed report => some
    { level := .warning
      name := "dsl_malformed"
      session := some session
      data := Json.object [("errors", Json.ofStrings report.messages)] }
  | .document verdict => some
    { level := .warning
      name := "dsl_rejected"
      session := some session
      data := Json.object [("risk", verdict.risk.toJson), ("reasons", Json.ofStrings verdict.reasons)] }
  | .quota _ | .session _ => none

end Refusal

end SiteEdit.Engine
