import AccessDecision.Text.CharSet

/-!
# Regular expressions

A `Regex` is a pattern with its flags worked in: sets of characters, conditions on places, and the operations on
them. `Regex.Matches` says from which place to which place of a text it matches; places are counted in
characters.
-/

namespace AccessDecision.Pattern

open Text (CharSet)

/-- A condition on the two sides of a place, each of which belongs to a word or does not. -/
inductive WordLook where
  | boundary
  | noBoundary
  | start
  | stop
  | startHalf
  | stopHalf
  deriving DecidableEq, Repr

/-- Whether a place with these sides satisfies the condition. -/
def WordLook.holds (before after : Bool) : WordLook → Bool
  | boundary => before != after
  | noBoundary => before == after
  | start => !before && after
  | stop => before && !after
  | startHalf => !before
  | stopHalf => !after

/-- A condition on a place of a text. -/
inductive Look where
  | textStart
  | textEnd
  /-- The start of a line; lines end with a line feed. -/
  | lineStart
  | lineEnd
  /-- The start of a line; lines end with a line feed, a carriage return or both in this order. -/
  | crlfStart
  | crlfEnd
  /-- A condition on words, which are made of the characters of a set. -/
  | word (kind : WordLook) (unicode : Bool)
  deriving DecidableEq, Repr

/-- A regular expression. -/
inductive Regex where
  | empty
  | set (chars : CharSet)
  | look (condition : Look)
  | cat (first second : Regex)
  | alt (first second : Regex)
  /-- At least `min` times and at most `max` times, if there is a limit. -/
  | repeats (min : Nat) (max : Option Nat) (inner : Regex)
  | capture (inner : Regex)
  deriving Inhabited, Repr

/-- ASCII letters, digits and the underscore. -/
def asciiWord : CharSet :=
  CharSet.unionAll [CharSet.range 0x30 0x39, CharSet.range 0x41 0x5A, CharSet.single '_', CharSet.range 0x61 0x7A]

/-- Whether a place satisfies a condition, given the characters of Unicode words and the characters on both sides,
which are missing at the ends of the text. -/
def Look.holds (words : CharSet) (before after : Option Char) : Look → Bool
  | textStart => before.isNone
  | textEnd => after.isNone
  | lineStart => before.isNone || before == some '\n'
  | lineEnd => after.isNone || after == some '\n'
  | crlfStart => before.isNone || before == some '\n' || (before == some '\r' && after != some '\n')
  | crlfEnd => after.isNone || after == some '\r' || (after == some '\n' && before != some '\r')
  | word kind unicode =>
    let chars := if unicode then words else asciiWord
    kind.holds (before.any chars.contains) (after.any chars.contains)

/-- The character in front of a place. -/
def charBefore (text : List Char) : Nat → Option Char
  | 0 => none
  | i + 1 => text[i]?

/-- From which place of a text to which place a regular expression matches. -/
inductive Regex.Matches (words : CharSet) (text : List Char) : Regex → Nat → Nat → Prop where
  | empty {i : Nat} : i ≤ text.length → Matches words text .empty i i
  | set {chars : CharSet} {c : Char} {i : Nat} :
    text[i]? = some c → chars.contains c = true → Matches words text (.set chars) i (i + 1)
  | look {condition : Look} {i : Nat} :
    i ≤ text.length → condition.holds words (charBefore text i) text[i]? = true →
    Matches words text (.look condition) i i
  | cat {r s : Regex} {i j k : Nat} :
    Matches words text r i j → Matches words text s j k → Matches words text (.cat r s) i k
  | altLeft {r s : Regex} {i j : Nat} : Matches words text r i j → Matches words text (.alt r s) i j
  | altRight {r s : Regex} {i j : Nat} : Matches words text s i j → Matches words text (.alt r s) i j
  | repeatsDone {max : Option Nat} {r : Regex} {i : Nat} :
    i ≤ text.length → Matches words text (.repeats 0 max r) i i
  | repeatsMore {min : Nat} {max : Option Nat} {r : Regex} {i j k : Nat} :
    max ≠ some 0 → Matches words text r i j →
    Matches words text (.repeats (min - 1) (max.map (· - 1)) r) j k →
    Matches words text (.repeats min max r) i k
  | capture {r : Regex} {i j : Nat} : Matches words text r i j → Matches words text (.capture r) i j

/-- Whether a regular expression matches somewhere in a text. -/
def Regex.Finds (words : CharSet) (r : Regex) (text : List Char) : Prop :=
  ∃ i j, Regex.Matches words text r i j

end AccessDecision.Pattern
