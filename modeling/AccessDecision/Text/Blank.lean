/-!
# Blank characters

`isBlank` is the Unicode property White_Space, and `trim` strips blank characters from both ends of a text.
-/

namespace AccessDecision.Text

/-- Whether the character has the Unicode property White_Space. -/
def isBlank (c : Char) : Bool :=
  let n := c.toNat
  (0x9 ≤ n && n ≤ 0xD) || n == 0x20 || n == 0x85 || n == 0xA0 || n == 0x1680
    || (0x2000 ≤ n && n ≤ 0x200A) || n == 0x2028 || n == 0x2029 || n == 0x202F || n == 0x205F || n == 0x3000

/-- What is left of a row of characters without the blank ones at its ends. -/
def trimChars (cs : List Char) : List Char :=
  ((cs.dropWhile isBlank).reverse.dropWhile isBlank).reverse

/-- What is left of a text without the blank characters at its ends. -/
def trim (s : String) : String := String.ofList (trimChars s.toList)

/-- What stands before and after the first occurrence of a character, if it occurs. -/
def splitAt? (mark : Char) (s : String) : Option (String × String) :=
  match s.toList.span (· != mark) with
  | (_, []) => none
  | (before, _ :: after) => some (String.ofList before, String.ofList after)

/-- The text with its ASCII capitals in lower case. -/
def asciiLower (s : String) : String := s.map Char.toLower

end AccessDecision.Text
