import SiteEdit.Json.Record
import SiteEdit.Policy.Screen
/-!
# Tables and verdicts as JSON

Every record is written with its members in the order in which they are shown, and read back from an object or a
list of its fields.
-/
namespace SiteEdit.Policy

open Json (fields? ofList ofStrings)

def Risk.toJson (r : Risk) : Json := .str r.name

def Risk.ofJson? : Json → Option Risk := Json.variant? Risk.name Risk.all

def Check.toJson (c : Check) : Json := .str c.name

def Check.ofJson? : Json → Option Check := Json.variant? Check.name Check.all

def PersonalKind.toJson (k : PersonalKind) : Json := .str k.name

def PersonalKind.ofJson? : Json → Option PersonalKind := Json.variant? PersonalKind.name PersonalKind.all

def operationToJson (op : Operation) : Json := .str op.name

def operationOfJson? : Json → Option Operation := Json.variant? Operation.name Operation.all

namespace Finding

def toJson (f : Finding) : Json :=
  .obj [("safe", .bool f.safe), ("detected", ofStrings f.detected), ("reason", Json.ofOption .str f.reason)]

def ofJson? (j : Json) : Option Finding := do
  let f ← fields? ["safe", "detected", "reason"] j
  pure
    { safe := ← f.get "safe" Json.bool?
      detected := ← f.get "detected" Json.strings?
      reason := ← f.getOption "reason" Json.asString? }

end Finding

namespace Redacted

def toJson (r : Redacted) : Json :=
  .obj [("text", .str r.text), ("detected", ofList PersonalKind.toJson r.detected)]

def ofJson? (j : Json) : Option Redacted := do
  let f ← fields? ["text", "detected"] j
  pure
    { text := ← f.get "text" Json.asString?
      detected := ← f.get "detected" (Json.list? PersonalKind.ofJson?) }

end Redacted

namespace PatternRule

def toJson (r : PatternRule) : Json :=
  .obj [("id", .str r.id), ("pattern", .str r.pattern), ("description", .str r.description)]

def ofJson? (j : Json) : Option PatternRule := do
  let f ← fields? ["id", "pattern", "description"] j
  pure
    { id := ← f.get "id" Json.asString?
      pattern := ← f.get "pattern" Json.asString?
      description := ← f.get "description" Json.asString? }

end PatternRule

namespace PersonalRule

def toJson (r : PersonalRule) : Json := .obj [("kind", r.kind.toJson), ("pattern", .str r.pattern)]

def ofJson? (j : Json) : Option PersonalRule := do
  let f ← fields? ["kind", "pattern"] j
  pure { kind := ← f.get "kind" PersonalKind.ofJson?, pattern := ← f.get "pattern" Json.asString? }

end PersonalRule

namespace Tables

def toJson (t : Tables) : Json :=
  .obj
    [("version", .str t.version), ("allowed_selectors", ofStrings t.allowedSelectors),
      ("allowed_css_vars", ofStrings t.allowedStyleVars), ("dangerous_commands", ofStrings t.dangerousCommands),
      ("injection_patterns", ofList PatternRule.toJson t.injectionPatterns),
      ("prohibited_keywords", ofStrings t.prohibitedKeywords),
      ("markup_patterns", ofList PatternRule.toJson t.markupPatterns),
      ("pii_rules", ofList PersonalRule.toJson t.personalRules),
      ("max_input_length", Json.ofNat t.maxInputLength)]

def ofJson? (j : Json) : Option Tables := do
  let f ← fields? ["version", "allowed_selectors", "allowed_css_vars", "dangerous_commands", "injection_patterns",
    "prohibited_keywords", "markup_patterns", "pii_rules", "max_input_length"] j
  pure
    { version := ← f.get "version" Json.asString?
      allowedSelectors := ← f.get "allowed_selectors" Json.strings?
      allowedStyleVars := ← f.get "allowed_css_vars" Json.strings?
      dangerousCommands := ← f.get "dangerous_commands" Json.strings?
      injectionPatterns := ← f.get "injection_patterns" (Json.list? PatternRule.ofJson?)
      prohibitedKeywords := ← f.get "prohibited_keywords" Json.strings?
      markupPatterns := ← f.get "markup_patterns" (Json.list? PatternRule.ofJson?)
      personalRules := ← f.get "pii_rules" (Json.list? PersonalRule.ofJson?)
      maxInputLength := ← f.get "max_input_length" Json.nat64? }

end Tables

namespace TextVerdict

def toJson (v : TextVerdict) : Json :=
  .obj
    [("safe", .bool v.safe), ("risk", v.risk.toJson), ("reasons", ofStrings v.reasons),
      ("failed_checks", ofList Check.toJson v.failedChecks), ("pii", ofList PersonalKind.toJson v.personal)]

def ofJson? (j : Json) : Option TextVerdict := do
  let f ← fields? ["safe", "risk", "reasons", "failed_checks", "pii"] j
  pure
    { safe := ← f.get "safe" Json.bool?
      risk := ← f.get "risk" Risk.ofJson?
      reasons := ← f.get "reasons" Json.strings?
      failedChecks := ← f.get "failed_checks" (Json.list? Check.ofJson?)
      personal := ← f.get "pii" (Json.list? PersonalKind.ofJson?) }

end TextVerdict

namespace Violation

def toJson (v : Violation) : Json :=
  .obj
    [("index", Json.ofNat v.index), ("op", operationToJson v.op), ("reasons", ofStrings v.reasons),
      ("failed_checks", ofList Check.toJson v.failedChecks)]

def ofJson? (j : Json) : Option Violation := do
  let f ← fields? ["index", "op", "reasons", "failed_checks"] j
  pure
    { index := ← f.get "index" Json.nat64?
      op := ← f.get "op" operationOfJson?
      reasons := ← f.get "reasons" Json.strings?
      failedChecks := ← f.get "failed_checks" (Json.list? Check.ofJson?) }

end Violation

namespace DocumentVerdict

def toJson (v : DocumentVerdict) : Json :=
  .obj [("safe", .bool v.safe), ("risk", v.risk.toJson), ("violations", ofList Violation.toJson v.violations)]

def ofJson? (j : Json) : Option DocumentVerdict := do
  let f ← fields? ["safe", "risk", "violations"] j
  pure
    { safe := ← f.get "safe" Json.bool?
      risk := ← f.get "risk" Risk.ofJson?
      violations := ← f.get "violations" (Json.list? Violation.ofJson?) }

end DocumentVerdict

end SiteEdit.Policy
