import AccessDecision.Pattern.Regex

/-!
# The limit on the size of a pattern

A pattern whose automata would take too much room does not compile.  How much room they take is a matter of the
engine that builds them, so the test is a parameter, `PatternLimit`: whatever is said of patterns, conditions and
policies holds for every such test.  Two facts come with it.

* What fits between the conditions for whole texts (`Regex.framed`) fits without them.
* A row of literals between these conditions takes a state for each of its bytes and six more.
-/

namespace AccessDecision

namespace Pattern

/-- The room that a state takes. -/
def stateSize : Nat := 32

/-- The most room that an automaton may take. -/
def sizeLimit : Nat := 10 * Nat.pow 2 20

/-- A regular expression between the conditions that make it match whole texts. -/
def Regex.framed (r : Regex) : Regex := .cat (.look .textStart) (.cat r (.look .textEnd))

/-- The regular expression of a row of characters that stand for themselves. -/
def Regex.literal : List Char → Regex
  | [] => .empty
  | [c] => .set (.single c)
  | c :: cs => .cat (.set (.single c)) (literal cs)

end Pattern

/-- The test that turns away patterns whose automata take too much room. -/
class PatternLimit where
  /-- Whether the automata of a regular expression stay within the limit. -/
  fits : Pattern.Regex → Bool
  fits_of_framed : ∀ r : Pattern.Regex, fits r.framed = true → fits r = true
  fits_literal_iff : ∀ text : String, fits (Pattern.Regex.literal text.toList).framed = true ↔
    Pattern.stateSize * (text.utf8ByteSize + 6) ≤ Pattern.sizeLimit

end AccessDecision
