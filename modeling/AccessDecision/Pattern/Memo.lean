import AccessDecision.Pattern.Compile
import Std.Data.HashMap

/-!
# Remembering compiled patterns

A memo keeps what compiling a pattern gave, also when it gave nothing.  Before a pattern is added to a full memo
the memo is emptied, so it never holds more than `Memo.capacity` patterns.
-/

namespace AccessDecision.Pattern

/-- What compiling some patterns gave. -/
structure Memo where
  entries : Std.HashMap String (Option Regex)

namespace Memo

/-- The most patterns that a memo holds. -/
def capacity : Nat := 4096

/-- The memo that holds nothing. -/
def empty : Memo := ⟨∅⟩

/-- How many patterns are held. -/
def size (memo : Memo) : Nat := memo.entries.size

/-- Adds what a pattern gave. -/
def insert (memo : Memo) (pattern : String) (compiled : Option Regex) : Memo :=
  let entries := if capacity ≤ memo.size then ∅ else memo.entries
  ⟨entries.insert pattern compiled⟩

variable [PatternLimit]

/-- The anchored form of a pattern, which is compiled only if the memo does not hold it, and the memo after it. -/
def anchored (memo : Memo) (pattern : String) : Option Regex × Memo :=
  match memo.entries[pattern]? with
  | some compiled => (compiled, memo)
  | none =>
    let compiled := compileAnchored? pattern
    (compiled, memo.insert pattern compiled)

/-- Whether a resource is covered by a target pattern, and the memo after it. A pattern that equals the resource is
not looked up. -/
def resourceMatches (memo : Memo) (resource pattern : String) : Bool × Memo :=
  if resource == pattern then (true, memo)
  else
    let (compiled, memo) := memo.anchored pattern
    (compiled.any (·.matchesText resource), memo)

end Memo

end AccessDecision.Pattern
