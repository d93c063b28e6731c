import AccessDecision.Pattern.Regex

/-!
# Matching by sets of places

A set of places of a text is a number whose binary digits say which places belong to it.  `Regex.moves` prepares
a regular expression for a text: a set of characters becomes the places from which one step can be taken, a
condition the places where it holds.  `Moves.reach` then finds all places where a match that starts in a set of
places can end.
-/

namespace AccessDecision.Pattern

open Text (CharSet)

/-- A regular expression prepared for one text. -/
inductive Moves where
  | stay
  /-- One step forward from these places. -/
  | forward (places : Nat)
  /-- Only these places. -/
  | only (places : Nat)
  | seq (first second : Moves)
  | either (first second : Moves)
  | repeats (min : Nat) (max : Option Nat) (inner : Moves)

/-- The places of a text that satisfy a test on the characters before and after them; `before` is the character in
front of the first place. -/
def placesWhere (test : Option Char → Option Char → Bool) (before : Option Char) : List Char → Nat
  | [] => if test before none then 1 else 0
  | c :: cs => 2 * placesWhere test (some c) cs + (if test before (some c) then 1 else 0)

/-- Prepares a regular expression for a text. -/
def Regex.moves (words : CharSet) (text : List Char) : Regex → Moves
  | .empty => .stay
  | .set chars => .forward (placesWhere (fun _ after => after.any chars.contains) none text)
  | .look condition => .only (placesWhere (fun before after => condition.holds words before after) none text)
  | .cat r s => .seq (r.moves words text) (s.moves words text)
  | .alt r s => .either (r.moves words text) (s.moves words text)
  | .repeats min max r => .repeats min max (r.moves words text)
  | .capture r => r.moves words text

/-- Takes a step a number of times; a step that changes nothing is not repeated. -/
def iterate (step : Nat → Nat) : Nat → Nat → Nat
  | 0, places => places
  | n + 1, places =>
    let next := step places
    if next = places then places else iterate step n next

/-- Where a match that starts in a set of places can end, in a text with this many places. -/
def Moves.reach (size : Nat) : Moves → Nat → Nat
  | stay, places => places
  | forward from_, places => (places &&& from_) <<< 1
  | only at_, places => places &&& at_
  | seq first second, places => second.reach size (first.reach size places)
  | either first second, places => first.reach size places ||| second.reach size places
  | repeats min max inner, places =>
    let more := fun places => places ||| inner.reach size places
    iterate more ((max.map (· - min)).getD size) (iterate (inner.reach size) min places)

/-- Whether a regular expression matches somewhere in a text. -/
def Regex.isMatch (words : CharSet) (r : Regex) (text : List Char) : Bool :=
  let size := text.length + 1
  (r.moves words text).reach size (Nat.pow 2 size - 1) != 0

end AccessDecision.Pattern
