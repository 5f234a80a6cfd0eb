import SiteEdit.Policy.Redaction
/-!
# The tables of the policy

What may be changed, what must not be said and what is personal data, as one value of plain texts.  Patterns stand
in the tables in their written form and are read when the tables are put to use.
-/
namespace SiteEdit.Policy

/-- A pattern with a name. -/
structure PatternRule where
  id : String
  pattern : String
  description : String
  deriving DecidableEq, Repr

/-- A pattern of personal data. -/
structure PersonalRule where
  kind : PersonalKind
  pattern : String
  deriving DecidableEq, Repr

/-- The tables of the policy. -/
structure Tables where
  version : String
  /-- The selectors that changes may be about. -/
  allowedSelectors : List String
  /-- The style variables that may be set. -/
  allowedStyleVars : List String
  /-- Commands that must not occur, in any case. -/
  dangerousCommands : List String
  /-- Phrases that try to override instructions. -/
  injectionPatterns : List PatternRule
  /-- Words that must not occur, in any case. -/
  prohibitedKeywords : List String
  /-- Markup and scripts in free text. -/
  markupPatterns : List PatternRule
  /-- Personal data; earlier rules go first. -/
  personalRules : List PersonalRule
  /-- The most characters of a text. -/
  maxInputLength : Nat
  deriving DecidableEq, Repr

namespace Tables

/-- The version of the built-in tables. -/
def builtinVersion : String := "2025.1"

def builtinSelectors : List String :=
  ["#main-title", "#subtitle", "#banner", "#nav", "#footer", "body", ".hero", ".card-list", ".cta-button"]

def builtinStyleVars : List String :=
  ["--color-primary", "--color-secondary", "--color-background", "--color-text", "--font-size-base",
    "--spacing-unit", "--radius-base"]

/-- Commands of shells, scripts and databases, paths that climb, and ways to fetch. -/
def builtinCommands : List String := [
  -- shell
  "rm -rf", "sudo ", "chmod ", "chown ", "mkfs", "shutdown ", "powershell", "cmd.exe", "/bin/sh", "/bin/bash",
  "nc -e", "$(",
  -- script
  "<script", "</script", "javascript:", "vbscript:", "eval(", "exec(", "system(", "alert(", "document.cookie",
  "localstorage",
  -- sql
  "drop table", "delete from", "truncate table", "insert into", "union select", "' or '1'='1", "; --",
  -- traversal
  "../", "..\\", "/etc/passwd", "/etc/shadow",
  -- fetch
  "curl ", "wget ", "fetch(", "xmlhttprequest", "import("]

def builtinKeywords : List String :=
  ["赌博", "博彩", "色情", "毒品", "枪支", "恐怖袭击", "诈骗", "casino", "gambling", "porn", "cocaine", "heroin",
    "terrorist", "bomb making", "phishing"]

/-- Phrases that try to override instructions, in English and Chinese. -/
def builtinInjections : List PatternRule := [
  { id := "INJ-001",
    pattern := "(?i)\\b(ignore|disregard|skip)\\s+(all\\s+|any\\s+)?(the\\s+|your\\s+)?(previous|prior|above|earlier|preceding)\\s+(instructions?|prompts?|rules?|directions?)",
    description := "Instruction override" },
  { id := "INJ-002",
    pattern := "(?i)\\bforget\\s+(everything|all|your)\\b",
    description := "Context reset request" },
  { id := "INJ-003",
    pattern := "(?i)\\byou\\s+are\\s+now\\b",
    description := "Role reassignment" },
  { id := "INJ-004",
    pattern := "(?i)\\b(pretend\\s+(to\\s+be|you\\s+are)|act\\s+as\\s+(if|an?)\\b|roleplay\\s+as)",
    description := "Role assumption" },
  { id := "INJ-005",
    pattern := "(?i)(^|\\n)\\s*(system|assistant|developer)\\s*:|\\[(system|inst)\\]|<\\|?(system|im_start)\\|?>",
    description := "Injected conversation role marker" },
  { id := "INJ-006",
    pattern := "(?i)\\b(jailbreak|dan\\s+mode|developer\\s+mode|god\\s+mode)\\b",
    description := "Known jailbreak phrase" },
  { id := "INJ-007",
    pattern := "(?i)\\b(reveal|print|show)\\s+(me\\s+)?(your\\s+)?(system\\s+prompt|hidden\\s+instructions)",
    description := "Prompt exfiltration" },
  { id := "INJ-008",
    pattern := "(忽略|无视|忘记)(掉)?(之前|以上|上面|前面|所有|全部)(的)?(指令|指示|规则|提示|设定)",
    description := "Instruction override (zh)" },
  { id := "INJ-009",
    pattern := "(你现在是|假装你是|扮演(一个|一名)?)",
    description := "Role assumption (zh)" }]

/-- Tags, event handlers, script addresses and style expressions. -/
def builtinMarkup : List PatternRule := [
  { id := "MKP-001",
    pattern := "(?i)</?[a-z][a-z0-9-]*(\\s[^<>]*)?/?>",
    description := "HTML tag" },
  { id := "MKP-002",
    pattern := "(?i)\\bon[a-z]\x7b3,\x7d\\s*=",
    description := "Inline event handler" },
  { id := "MKP-003",
    pattern := "(?i)\\b(javascript|vbscript)\\s*:",
    description := "Script URL" },
  { id := "MKP-004",
    pattern := "(?i)data\\s*:\\s*text/html",
    description := "HTML data URL" },
  { id := "MKP-005",
    pattern := "(?i)\\b(expression|url)\\s*\\(",
    description := "CSS expression or external resource" }]

/-- Personal data, the more specific forms first. -/
def builtinPersonal : List PersonalRule := [
  ⟨.email, "[A-Za-z0-9._%+\\-]+@[A-Za-z0-9\\-]+(\\.[A-Za-z0-9\\-]+)*\\.[A-Za-z]\x7b2,\x7d"⟩,
  ⟨.token, "(?i)\\bbearer\\s+[A-Za-z0-9._~+/\\-]+=*"⟩,
  ⟨.token, "\\beyJ[A-Za-z0-9_\\-]+\\.[A-Za-z0-9_\\-]+\\.[A-Za-z0-9_\\-]+"⟩,
  ⟨.apiKey, "\\b(sk|pk|rk)[-_](live[-_]|test[-_]|proj[-_])?[A-Za-z0-9]\x7b16,\x7d"⟩,
  ⟨.apiKey, "\\bAKIA[0-9A-Z]\x7b16\x7d\\b"⟩,
  ⟨.token, "\\b(ghp|gho|ghs|glpat|xox[abpr])[-_][A-Za-z0-9_\\-]\x7b10,\x7d"⟩,
  ⟨.nationalId, "[1-9]\\d\x7b5\x7d(18|19|20)\\d\x7b2\x7d(0[1-9]|1[0-2])(0[1-9]|[12]\\d|3[01])\\d\x7b3\x7d[\\dXx]"⟩,
  ⟨.nationalId, "\\b\\d\x7b3\x7d-\\d\x7b2\x7d-\\d\x7b4\x7d\\b"⟩,
  ⟨.creditCard, "\\d\x7b4\x7d[ \\-]?\\d\x7b4\x7d[ \\-]?\\d\x7b4\x7d[ \\-]?\\d\x7b1,4\x7d"⟩,
  ⟨.phone, "(\\+?86[ \\-]?)?1[3-9]\\d\x7b9\x7d"⟩,
  ⟨.phone, "\\+\\d\x7b1,3\x7d([ \\-]?\\d\x7b2,4\x7d)\x7b2,4\x7d"⟩,
  ⟨.phone, "\\(\\d\x7b3\x7d\\)\\s?\\d\x7b3\x7d-\\d\x7b4\x7d"⟩,
  ⟨.token, "\\b[A-Fa-f0-9]\x7b40,\x7d\\b"⟩]

/-- The built-in tables. -/
def builtin : Tables :=
  { version := builtinVersion
    allowedSelectors := builtinSelectors
    allowedStyleVars := builtinStyleVars
    dangerousCommands := builtinCommands
    injectionPatterns := builtinInjections
    prohibitedKeywords := builtinKeywords
    markupPatterns := builtinMarkup
    personalRules := builtinPersonal
    maxInputLength := 500 }

/-- Whether changes may be about a selector. -/
def allowsSelector (t : Tables) (selector : String) : Bool := t.allowedSelectors.contains selector

/-- Whether a style variable may be set. -/
def allowsStyleVar (t : Tables) (var : String) : Bool := t.allowedStyleVars.contains var

end Tables

end SiteEdit.Policy
