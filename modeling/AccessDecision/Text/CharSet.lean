/-!
# Sets of characters

A set is the ascending list of the code points at which membership changes: code points before the first one are
outside, those from the first to before the second are inside, and so on.  All boolean operations are one merge
of two such lists (`CharSet.merge`).  Surrogates are no characters and belong to no set that the operations
build.
-/

namespace AccessDecision.Text

/-- A set of characters, by the code points at which membership changes. -/
structure CharSet where
  bounds : List Nat
  deriving DecidableEq, Inhabited, Repr

namespace CharSet

/-- Whether a number is inside, given whether the numbers before the first bound are. -/
def insideFrom (inside : Bool) (n : Nat) : List Nat → Bool
  | [] => inside
  | bound :: rest => if n < bound then inside else insideFrom (!inside) n rest

/-- Whether a code point is inside. -/
def containsNat (s : CharSet) (n : Nat) : Bool := insideFrom false n s.bounds

/-- Whether a character is inside. -/
def contains (s : CharSet) (c : Char) : Bool := s.containsNat c.toNat

/-- The set without members. -/
def empty : CharSet := ⟨[]⟩

/-- All characters. -/
def all : CharSet := ⟨[0, 0xD800, 0xE000, 0x110000]⟩

/-- Puts a bound in front where membership changes. -/
def bound (before after : Bool) (n : Nat) (rest : List Nat) : List Nat :=
  if before = after then rest else n :: rest

/-- The bounds of the numbers whose memberships in two sets are joined by `f`; `a` and `b` say whether the numbers
before the next bound belong to the two sets. -/
def merge (f : Bool → Bool → Bool) (a b : Bool) : List Nat → List Nat → List Nat
  | [], [] => []
  | m :: ms, [] => bound (f a b) (f (!a) b) m (merge f (!a) b ms [])
  | [], n :: ns => bound (f a b) (f a (!b)) n (merge f a (!b) [] ns)
  | m :: ms, n :: ns =>
    if m < n then bound (f a b) (f (!a) b) m (merge f (!a) b ms (n :: ns))
    else if n < m then bound (f a b) (f a (!b)) n (merge f a (!b) (m :: ms) ns)
    else bound (f a b) (f (!a) (!b)) m (merge f (!a) (!b) ms ns)
termination_by ms ns => ms.length + ns.length

/-- The members of either set. -/
def union (s t : CharSet) : CharSet := ⟨merge (· || ·) false false s.bounds t.bounds⟩

/-- The members of both sets. -/
def inter (s t : CharSet) : CharSet := ⟨merge (· && ·) false false s.bounds t.bounds⟩

/-- The members of the first set that are not in the second. -/
def diff (s t : CharSet) : CharSet := ⟨merge (fun a b => a && !b) false false s.bounds t.bounds⟩

/-- The members of exactly one of two sets. -/
def symmDiff (s t : CharSet) : CharSet := ⟨merge (fun a b => a != b) false false s.bounds t.bounds⟩

/-- The characters that are not in a set. -/
def compl (s : CharSet) : CharSet := all.diff s

/-- The characters from one code point to another. -/
def range (first last : Nat) : CharSet :=
  if first ≤ last then CharSet.inter ⟨[first, last + 1]⟩ all else empty

/-- The set of one character. -/
def single (c : Char) : CharSet := ⟨[c.toNat, c.toNat + 1]⟩

/-- The members of any set of a list. -/
def unionAll (sets : List CharSet) : CharSet := sets.foldr union empty

/-- The bounds of an ascending list of code points. -/
def boundsOf : List Nat → List Nat
  | [] => []
  | n :: rest =>
    match boundsOf rest with
    | m :: bounds => if m = n then m :: bounds else if m = n + 1 then n :: bounds else n :: (n + 1) :: m :: bounds
    | [] => [n, n + 1]

/-- The set of listed code points. -/
def ofList (points : List Nat) : CharSet :=
  ⟨boundsOf (points.mergeSort (fun m n => m ≤ n))⟩

/-- Pairs up bounds: the first and the last code point of each unbroken part. -/
def pairs : List Nat → List (Nat × Nat)
  | first :: next :: rest => (first, next - 1) :: pairs rest
  | _ => []

/-- The unbroken parts of a set, in ascending order. -/
def ranges (s : CharSet) : List (Nat × Nat) := pairs s.bounds

/-- Whether all members are ASCII characters. -/
def isAscii (s : CharSet) : Bool := s.ranges.all fun r => r.2 < 0x80

/-- The only member, if there is exactly one. -/
def single? (s : CharSet) : Option Char :=
  match s.bounds with
  | [first, next] => if next = first + 1 then some (Char.ofNat first) else none
  | _ => none

/-- The words of a text, which blanks and line ends separate. -/
def words (s : String) : List String :=
  ((s.splitOn "\n").flatMap fun line => line.splitOn " ").filter fun word => !word.isEmpty

/-- Reads the gaps between bounds, in base ten. -/
def ofGaps (gaps : String) : CharSet :=
  ⟨((words gaps).foldl (fun (last, bounds) gap =>
    let next := last + gap.toNat?.getD 0
    (next, next :: bounds)) (0, [])).2.reverse⟩

end CharSet

end AccessDecision.Text
