import SiteEdit.Document.Basic
import SiteEdit.Request.Colour
import SiteEdit.Request.Normalized
/-!
# What a request asks for

Each rule looks for one kind of change.  The rules are independent of each other and tried in a fixed order, so one
request can ask for several changes.
-/
namespace SiteEdit.Request

/-- A rule that finds at most one change in a request. -/
inductive Rule where
  /-- Looks for a new text of an element; some words keep it from looking. -/
  | text (name : String) (triggers suppressedBy : List String) (selector : String)
  /-- Looks for a new primary colour. -/
  | themeColour
  /-- Looks for a wish to show or to hide the banner. -/
  | banner
  deriving DecidableEq, Repr

def titleTriggers : List String := ["主标题", "标题", "title", "heading"]

def subtitleTriggers : List String := ["副标题", "subtitle", "sub-title", "tagline"]

def themeColourTriggers : List String := ["主题色", "主色", "主题颜色", "theme color", "primary color"]

def bannerTriggers : List String := ["横幅", "公告栏", "banner"]

def hideWords : List String := ["隐藏", "关闭", "去掉", "hide", "remove"]

def showWords : List String := ["显示", "打开", "展示", "show", "display"]

namespace Rule

/-- The name of a rule. -/
def name : Rule → String
  | .text name .. => name
  | .themeColour => "theme_color"
  | .banner => "banner"

/-- Finds the main title. -/
def title : Rule := .text "title" titleTriggers subtitleTriggers "#main-title"

/-- Finds the subtitle. -/
def subtitle : Rule := .text "subtitle" subtitleTriggers [] "#subtitle"

/-- The rules that are used, in their order. -/
def builtin : List Rule := [title, subtitle, .themeColour, .banner]

/-- The change that a rule finds. -/
def change? (n : Normalized) : Rule → Option Change
  | .text _ triggers suppressedBy selector => do
    if n.containsAny suppressedBy then none
    else
      let (_, stop) ← n.findTrigger? triggers
      let value ← n.valueFrom? stop
      pure (.setText selector (String.ofList value))
  | .themeColour => do
    let (_, stop) ← n.findTrigger? themeColourTriggers
    let value ← n.valueFrom? stop
    let colour ← resolveColour? value
    pure (.setStyleVar "body" "--color-primary" colour)
  | .banner => do
    let _ ← n.findTrigger? bannerTriggers
    match n.containsAny hideWords, n.containsAny showWords with
    | true, false => pure (.toggle "#banner" false)
    | false, true => pure (.toggle "#banner" true)
    | _, _ => none

end Rule

/-- What to tell someone whose request was not understood. -/
def guidance : String :=
  "Sorry, that request was not understood. Supported requests: "
    ++ "change the main title (把主标题改成：欢迎 / change title to Welcome), "
    ++ "change the subtitle (把副标题改为：新品上市 / set subtitle to New arrivals), "
    ++ "change the theme color (把主题色改为绿色 / change theme color to blue), "
    ++ "show or hide the banner (隐藏横幅 / show the banner)."

/-- The sentence about a request that was not understood. -/
def unrecognizedMessage : String := "Unrecognized request: " ++ guidance

/-- The document that some rules find in a request; nothing if no rule finds a change. -/
def parseWith? (rules : List Rule) (text : String) : Option Document :=
  let n := normalize text.toList
  let changes := if n.lower.isEmpty then [] else rules.filterMap (Rule.change? n)
  if changes.isEmpty then none else some (Document.ofChanges changes)

/-- The document that a request asks for. -/
def parse? (text : String) : Option Document := parseWith? Rule.builtin text

end SiteEdit.Request
