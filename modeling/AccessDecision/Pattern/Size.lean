import AccessDecision.Pattern.Limit
import Std.Data.HashMap

/-!
# An estimate of the size of a compiled pattern

The test that the program runs against the limit.  It estimates the size of the usual construction over UTF-8
bytes, once for reading a text forwards and once for reading it backwards, from the regular expression alone:
every state takes `stateSize` bytes, and a state with several edges takes room for these, too.

* A set of characters is read byte by byte.  Forwards, states that continue in the same way are shared
  (`forwardSize`); backwards, states that are reached in the same way are shared (`backwardSize`).
* A counted repetition takes as many copies as it counts.

What an engine saves or spends beyond this construction, as for the common beginnings of alternatives, is left
out.  No result depends on the estimate: it is one `PatternLimit` of many.
-/

namespace AccessDecision

namespace Pattern

open Text (CharSet)

/-- The room that a labelled edge takes. -/
def edgeSize : Nat := 8

/-- The room that an edge without a label takes. -/
def branchSize : Nat := 4

/-! ### Sets of characters as rows of bytes -/

/-- The first and the last value of one byte. -/
abbrev ByteRange := Nat × Nat

/-- The bytes of a code point in UTF-8. -/
def utf8Bytes (n : Nat) : List Nat :=
  if n < 0x80 then [n]
  else if n < 0x800 then [0xC0 + n / 0x40, 0x80 + n % 0x40]
  else if n < 0x10000 then [0xE0 + n / 0x1000, 0x80 + n / 0x40 % 0x40, 0x80 + n % 0x40]
  else [0xF0 + n / 0x40000, 0x80 + n / 0x1000 % 0x40, 0x80 + n / 0x40 % 0x40, 0x80 + n % 0x40]

/-- Where to cut the code points from `first` to `last`, so that each part is closer to a row of byte ranges: the
first code point of the second part. -/
def cut? (first last : Nat) : Option Nat :=
  let lengths := [0x80, 0x800, 0x10000]
  match lengths.find? (fun next => first < next && next ≤ last) with
  | some next => some next
  | none =>
    if last < 0x80 then none
    else [0x40, 0x1000, 0x40000].findSome? fun block =>
      if first / block = last / block then none
      else if first % block ≠ 0 then some ((first / block + 1) * block)
      else if last % block ≠ block - 1 then some (last / block * block)
      else none

/-- The rows of byte ranges that spell the code points from `first` to `last`, in order. -/
def byteRows : Nat → Nat → Nat → List (List ByteRange)
  | 0, _, _ => []
  | fuel + 1, first, last =>
    match cut? first last with
    | some next => byteRows fuel first (next - 1) ++ byteRows fuel next last
    | none => [(utf8Bytes first).zip (utf8Bytes last)]

/-- More cuts than any range of code points needs one inside the other. -/
def maxCuts : Nat := 32

/-- The rows of byte ranges that spell the characters of a set. -/
def byteRowsOf (s : CharSet) : List (List ByteRange) :=
  s.ranges.flatMap fun r => byteRows maxCuts r.1 r.2

/-- Gathers neighbouring rows with the same first byte range. -/
def gather : List (List ByteRange) → List (ByteRange × List (List ByteRange))
  | [] => []
  | [] :: rows => gather rows
  | (head :: tail) :: rows =>
    match gather rows with
    | (next, tails) :: groups =>
      if next = head then (head, tail :: tails) :: groups else (head, [tail]) :: (next, tails) :: groups
    | [] => [(head, [tail])]

/-- The states of a byte automaton: the edges of each with the number of the state. -/
abbrev States := Std.HashMap (List (ByteRange × Nat)) Nat

/-- The state that reads these rows, and the states with it and all that follow it. State zero reads nothing. -/
def shareRows : Nat → List (List ByteRange) → States → Nat × States
  | 0, _, states => (0, states)
  | fuel + 1, rows, states =>
    match gather rows with
    | [] => (0, states)
    | groups =>
      let (edges, states) := groups.foldl (fun (edges, states) (label, tails) =>
        let (target, states) := shareRows fuel tails states
        ((label, target) :: edges, states)) ([], states)
      match states.get? edges with
      | some state => (state, states)
      | none => (states.size + 1, states.insert edges (states.size + 1))

/-- The size of the automaton that reads one character of a set forwards. -/
def forwardSize (s : CharSet) : Nat :=
  let (_, states) := shareRows 5 (byteRowsOf s) ∅
  states.fold (fun size edges _ => size + stateSize + edgeSize * edges.length) stateSize

/-- How many different beginnings a list of rows has. -/
def beginnings : Nat → List (List ByteRange) → Nat
  | 0, _ => 0
  | fuel + 1, rows =>
    (gather rows).foldl (fun count (_, tails) => count + 1 + beginnings fuel tails) 0

/-- The size of the automaton that reads one character of a set backwards. -/
def backwardSize (s : CharSet) : Nat :=
  let rows := byteRowsOf s
  2 * stateSize + stateSize * beginnings 5 rows + branchSize * rows.length

/-- The size of the automaton that reads one character of a set. -/
def setSize (forward : Bool) (s : CharSet) : Nat :=
  match s.single? with
  | some c => stateSize * (utf8Bytes c.toNat).length
  | none =>
    if s.isAscii then 2 * stateSize + edgeSize * s.ranges.length
    else if forward then forwardSize s else backwardSize s

/-! ### Regular expressions -/

namespace Regex

/-- Whether only the empty text can match. -/
def onlyEmpty : Regex → Bool
  | empty | look _ => true
  | set _ => false
  | cat r s | alt r s => r.onlyEmpty && s.onlyEmpty
  | repeats _ max r => max == some 0 || r.onlyEmpty
  | capture r => r.onlyEmpty

/-- Whether the empty text can never match. -/
def neverEmpty : Regex → Bool
  | empty | look _ => false
  | set s => !s.bounds.isEmpty
  | cat r s => r.neverEmpty || s.neverEmpty
  | alt r s => r.neverEmpty && s.neverEmpty
  | repeats min _ r => 0 < min && r.neverEmpty
  | capture r => r.neverEmpty

/-- Whether nothing is left of it: it stands for the empty text and captures nothing. -/
def isVoid : Regex → Bool
  | empty => true
  | set _ | look _ | alt _ _ | capture _ => false
  | cat r s => r.isVoid && s.isVoid
  | repeats min max r => max == some 0 || (min == 1 && max == some 1 && r.isVoid)

/-- The set of all alternatives, if each of them is a set. -/
def asSet? : Regex → Option CharSet
  | set s => some s
  | alt r s => do return (← r.asSet?).union (← s.asSet?)
  | _ => none

/-- The bounds of a repetition that make a difference: repeating the empty text once is enough. -/
def usefulBounds (min : Nat) (max : Option Nat) (inner : Regex) : Nat × Option Nat :=
  if inner.onlyEmpty then (Nat.min min 1, some (match max with
    | some m => Nat.min m 1
    | none => 1))
  else (min, max)

/-- The size of a repetition of an automaton of this size. -/
def repeatSize (inner : Nat) (neverEmpty : Bool) : Nat → Option Nat → Nat
  | 0, none => if neverEmpty then inner + stateSize + 2 * branchSize else inner + 3 * stateSize + 4 * branchSize
  | min, none => min * inner + stateSize + 2 * branchSize
  | 0, some 0 => stateSize
  | 0, some 1 => inner + 2 * stateSize + 2 * branchSize
  | min, some max =>
    if min = max then min * inner
    else (if min = 0 then stateSize else min * inner) + stateSize
      + (max - min) * (inner + stateSize + 2 * branchSize)

/-- The size of the automaton of a regular expression. The alternatives to the right of an alternation share its
two extra states. -/
def size (forward : Bool) : Regex → Nat
  | empty | look _ => stateSize
  | set s => setSize forward s
  | cat r s =>
    if r.isVoid then s.size forward
    else if s.isVoid then r.size forward
    else r.size forward + s.size forward
  | alt r s =>
    match (alt r s).asSet? with
    | some chars => setSize forward chars
    | none =>
      let shared := match s, s.asSet? with
        | alt _ _, none => 0
        | _, _ => 2 * stateSize + branchSize
      r.size forward + branchSize + s.size forward + shared
  | repeats min max r =>
    if (repeats min max r).isVoid then stateSize
    else
      let (min, max) := usefulBounds min max r
      repeatSize (r.size forward) r.neverEmpty min max
  | capture r => if forward then r.size forward + 2 * stateSize else r.size forward

/-- Whether both automata of a regular expression stay within the limit, by the estimate. Around the expression
there are states for the start and for the match, and forwards for the whole text as a capture. -/
def fits (r : Regex) : Bool :=
  r.size true + 4 * stateSize ≤ sizeLimit && r.size false + 2 * stateSize ≤ sizeLimit

/-! ### The two facts about the limit -/

variable {r : Regex} {forward : Bool}

/-- What stands for the empty text and captures nothing takes the room of one state. -/
theorem size_of_isVoid (hvoid : r.isVoid = true) : r.size forward = stateSize := by
  induction r with
  | empty => rfl
  | set _ | look _ | capture _ _ | alt _ _ _ _ => cases hvoid
  | cat r s ihr ihs =>
    rw [isVoid, Bool.and_eq_true] at hvoid
    rw [size, if_pos hvoid.1]
    exact ihs hvoid.2
  | repeats min max r ih => rw [size, if_pos hvoid]

theorem size_framed (hvoid : r.isVoid = false) : r.framed.size forward = r.size forward + 2 * stateSize := by
  have hframed : r.framed.size forward = stateSize + (r.size forward + stateSize) := by
    simp [framed, size, isVoid, hvoid]
  rw [hframed]
  omega

/-- The conditions for whole texts take room of their own. -/
theorem fits_of_framed (h : r.framed.fits = true) : r.fits = true := by
  unfold fits at h ⊢
  cases hvoid : r.isVoid with
  | true =>
    rw [size_of_isVoid hvoid, size_of_isVoid hvoid]
    decide
  | false =>
    rw [size_framed hvoid, size_framed hvoid] at h
    simp only [Bool.and_eq_true, decide_eq_true_eq] at h ⊢
    omega

theorem length_utf8Bytes (c : Char) : (utf8Bytes c.toNat).length = c.utf8Size := by
  unfold utf8Bytes Char.utf8Size
  simp only [UInt32.le_iff_toNat_le, UInt32.toNat_ofNatLT, Char.toNat_val]
  repeat' split
  all_goals first | rfl | omega

theorem setSize_single (c : Char) : setSize forward (.single c) = stateSize * c.utf8Size := by
  have hsingle : (CharSet.single c).single? = some c := by
    show (if c.toNat + 1 = c.toNat + 1 then some (Char.ofNat c.toNat) else none) = some c
    rw [if_pos rfl, Char.ofNat_toNat]
  unfold setSize
  rw [hsingle, ← length_utf8Bytes]

theorem isVoid_literal_cons (c : Char) (cs : List Char) : (literal (c :: cs)).isVoid = false := by
  cases cs <;> rfl

theorem utf8ByteSize_ofList_cons (c : Char) (cs : List Char) :
    (String.ofList (c :: cs)).utf8ByteSize = c.utf8Size + (String.ofList cs).utf8ByteSize := by
  rw [String.ofList_cons, String.utf8ByteSize_append, String.utf8ByteSize_singleton]

theorem size_literal_cons (c : Char) (cs : List Char) :
    (literal (c :: cs)).size forward = stateSize * (String.ofList (c :: cs)).utf8ByteSize := by
  induction cs generalizing c with
  | nil =>
    rw [utf8ByteSize_ofList_cons]
    exact setSize_single c
  | cons d cs ih =>
    show (cat (.set (.single c)) (literal (d :: cs))).size forward = _
    rw [utf8ByteSize_ofList_cons, Nat.mul_add, ← ih d, ← @setSize_single forward c]
    simp [size, isVoid, isVoid_literal_cons]

theorem size_framed_literal (cs : List Char) :
    (literal cs).framed.size forward = stateSize * ((String.ofList cs).utf8ByteSize + 2) := by
  cases cs with
  | nil => rfl
  | cons c cs =>
    rw [size_framed (isVoid_literal_cons c cs), size_literal_cons, Nat.mul_add, Nat.mul_comm 2]

theorem fits_framed_literal (text : String) :
    (literal text.toList).framed.fits = true ↔ stateSize * (text.utf8ByteSize + 6) ≤ sizeLimit := by
  unfold fits
  rw [size_framed_literal, size_framed_literal, String.ofList_toList]
  simp only [Bool.and_eq_true, decide_eq_true_eq, Nat.mul_add]
  omega

end Regex

end Pattern

/-- The estimate as the test against the limit. -/
instance : PatternLimit where
  fits := Pattern.Regex.fits
  fits_of_framed _ := Pattern.Regex.fits_of_framed
  fits_literal_iff := Pattern.Regex.fits_framed_literal

end AccessDecision
