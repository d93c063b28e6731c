import AccessDecision.Pattern.Limit
import AccessDecision.Pattern.Parser
import AccessDecision.Pattern.Places
import AccessDecision.Pattern.Meaning

/-!
# Whole-text patterns

A pattern is compiled as the text between `^(?:` and `)$`, which makes a well-formed pattern match whole texts
only. The frame is put around it as text: what the pattern itself opens or closes takes part in the parse.
-/

namespace AccessDecision.Pattern

variable [PatternLimit]

/-- Compiles a pattern as it stands. It must be well formed and must not grow too large. -/
def compile? (pattern : List Char) : Option Regex := do
  let r ← (← parse? pattern).toRegex?
  if PatternLimit.fits r then return r else none

/-- The text that is compiled so that a pattern matches whole texts. -/
def anchor (pattern : String) : List Char :=
  ['^', '(', '?', ':'] ++ pattern.toList ++ [')', '$']

/-- Compiles a pattern so that it matches whole texts. -/
def compileAnchored? (pattern : String) : Option Regex := compile? (anchor pattern)

/-- Whether a compiled pattern matches a text. -/
def Regex.matchesText (r : Regex) (text : String) : Bool := r.isMatch Text.Property.word text.toList

end AccessDecision.Pattern

namespace AccessDecision

/-- Whether a resource is covered by a target pattern: they are equal, or the pattern matches the whole resource. A
pattern that does not compile covers only its own text. -/
def resourceMatches [PatternLimit] (resource pattern : String) : Bool :=
  resource == pattern || (Pattern.compileAnchored? pattern).any (·.matchesText resource)

end AccessDecision
