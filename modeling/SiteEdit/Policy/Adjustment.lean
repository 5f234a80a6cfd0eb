import SiteEdit.Policy.Codec
/-!
# Adjustments of the tables

The settings can replace the length limit and add names and keywords to the built-in tables.  They take nothing
away.
-/
namespace SiteEdit.Policy

/-- What the settings change about the built-in tables. -/
structure Adjustment where
  maxInputLength : UInt64 := 500
  extraSelectors : List String := []
  extraStyleVars : List String := []
  extraKeywords : List String := []
  deriving DecidableEq, Repr

namespace Adjustment

/-- The built-in tables with the adjustments.  Keywords are added in lower case. -/
def tables (a : Adjustment) : Tables :=
  { Tables.builtin with
    maxInputLength := a.maxInputLength.toNat
    allowedSelectors := a.extraSelectors.foldl addNew Tables.builtinSelectors
    allowedStyleVars := a.extraStyleVars.foldl addNew Tables.builtinStyleVars
    prohibitedKeywords := (a.extraKeywords.map Text.lowerString).foldl addNew Tables.builtinKeywords }

def toJson (a : Adjustment) : Json :=
  .obj
    [("max_input_length", Json.ofNat a.maxInputLength.toNat), ("extra_selectors", Json.ofStrings a.extraSelectors),
      ("extra_css_vars", Json.ofStrings a.extraStyleVars),
      ("extra_prohibited_keywords", Json.ofStrings a.extraKeywords)]

def ofJson? (j : Json) : Option Adjustment := do
  let f ← Json.fields? ["max_input_length", "extra_selectors", "extra_css_vars", "extra_prohibited_keywords"] j
  pure
    { maxInputLength := ← f.getD "max_input_length" Json.word64? 500
      extraSelectors := ← f.getD "extra_selectors" Json.strings? []
      extraStyleVars := ← f.getD "extra_css_vars" Json.strings? []
      extraKeywords := ← f.getD "extra_prohibited_keywords" Json.strings? [] }

end Adjustment

end SiteEdit.Policy
