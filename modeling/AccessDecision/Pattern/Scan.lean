import AccessDecision.Text.Blank

/-!
# Scanning patterns

In a verbose pattern blank characters and comments may stand almost anywhere; a comment reaches from `#` to the
end of its line.  The functions here take parts off a pattern while they pass over what does not count.
-/

namespace AccessDecision.Pattern

open Text (isBlank)

/-- What follows the blank characters and comments at the start; `inComment` says whether a comment is open. -/
def skipVerbose (inComment : Bool) : List Char → List Char
  | [] => []
  | c :: cs =>
    if inComment then skipVerbose (c != '\n') cs
    else if isBlank c then skipVerbose false cs
    else if c = '#' then skipVerbose true cs
    else c :: cs

/-- What follows the characters that do not count. -/
def skip (verbose : Bool) (cs : List Char) : List Char :=
  if verbose then skipVerbose false cs else cs

/-- The longest row of characters with a property, without those that do not count, and what follows it. -/
def takeRun (verbose inComment : Bool) (p : Char → Bool) : List Char → List Char × List Char
  | [] => ([], [])
  | c :: cs =>
    if inComment then takeRun verbose (c != '\n') p cs
    else if verbose && isBlank c then takeRun verbose false p cs
    else if verbose && c == '#' then takeRun verbose true p cs
    else if p c then
      let (run, rest) := takeRun verbose false p cs
      (c :: run, rest)
    else ([], c :: cs)

/-- The character that comes after the first one as a range between brackets sees it. In a verbose pattern blank
characters are passed over, and the sign of a comment once. -/
def peekAfterDash (verbose : Bool) (cs : List Char) : Option Char :=
  if verbose then
    let rest := match cs.dropWhile isBlank with
      | '#' :: more => more.dropWhile isBlank
      | other => other
    (rest.head?).orElse fun _ => cs.head?
  else cs.head?

/-! ### Numbers -/

/-- Whether the character is a hexadecimal digit. -/
def isHexDigit (c : Char) : Bool :=
  c.isDigit || ('a' ≤ c && c ≤ 'f') || ('A' ≤ c && c ≤ 'F')

/-- The value of a digit in base sixteen or below. -/
def digitValue (c : Char) : Nat :=
  if c.isDigit then c.toNat - '0'.toNat
  else if 'a' ≤ c then c.toNat - 'a'.toNat + 10
  else c.toNat - 'A'.toNat + 10

/-- The value of a row of digits. -/
def digitsValue (base : Nat) (digits : List Char) : Nat :=
  digits.foldl (fun n c => base * n + digitValue c) 0

/-- The greatest number that a repetition may name. -/
def maxCount : Nat := Nat.pow 2 32 - 1

/-- A decimal number with blank characters around it. -/
def decimal? (verbose : Bool) (cs : List Char) : Option (Nat × List Char) :=
  let (digits, rest) := takeRun verbose false Char.isDigit (cs.dropWhile isBlank)
  if digits.isEmpty || maxCount < digitsValue 10 digits then none
  else some (digitsValue 10 digits, rest.dropWhile isBlank)

/-- A fixed number of hexadecimal digits. -/
def hexDigits? (verbose inComment : Bool) : Nat → List Char → Option (List Char × List Char)
  | 0, cs => some ([], cs)
  | _ + 1, [] => none
  | n + 1, c :: cs =>
    if inComment then hexDigits? verbose (c != '\n') (n + 1) cs
    else if verbose && isBlank c then hexDigits? verbose false (n + 1) cs
    else if verbose && c == '#' then hexDigits? verbose true (n + 1) cs
    else if isHexDigit c then
      (hexDigits? verbose false n cs).map fun (digits, rest) => (c :: digits, rest)
    else none

/-- The character with a code point. -/
def charOf? (n : Nat) : Option Char :=
  if n.isValidChar then some (Char.ofNat n) else none

end AccessDecision.Pattern
