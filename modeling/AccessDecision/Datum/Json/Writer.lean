import AccessDecision.Datum.Basic

/-!
# Writing JSON

A tree has two written forms: compact, without any white space, and pretty, with one member or item a line and two
blanks for each level.  Members are written in the order in which they stand.
-/

namespace AccessDecision.Datum.Json

/-- The digits of a natural, in base ten. -/
def naturalChars (n : Nat) : List Char := Nat.toDigits 10 n

/-- A hexadecimal digit, in lower case. -/
def hexDigit (n : Nat) : Char :=
  if n < 10 then Char.ofNat ('0'.toNat + n) else Char.ofNat ('a'.toNat + (n - 10))

/-- A character inside a text: quote, backslash and controls are escaped and nothing else is. -/
def escapeChar (c : Char) : List Char :=
  if c = '"' then ['\\', '"']
  else if c = '\\' then ['\\', '\\']
  else if c = '\x08' then ['\\', 'b']
  else if c = '\x0c' then ['\\', 'f']
  else if c = '\n' then ['\\', 'n']
  else if c = '\r' then ['\\', 'r']
  else if c = '\t' then ['\\', 't']
  else if c.toNat < 0x20 then ['\\', 'u', '0', '0', hexDigit (c.toNat / 16), hexDigit (c.toNat % 16)]
  else [c]

/-- A text between quotes. -/
def quoted (s : String) : List Char :=
  '"' :: (s.toList.flatMap escapeChar ++ ['"'])

/-- What separates the parts of a written tree: nothing in the compact form, line breaks in the pretty form. -/
structure Layout where
  /-- The break before an item or a closing bracket at this level. -/
  lineBreak : Nat → List Char
  /-- What follows the colon after a name. -/
  afterColon : List Char

/-- No white space at all. -/
def Layout.compact : Layout := ⟨fun _ => [], []⟩

/-- A line for each item, two blanks for each level and a blank after a colon. -/
def Layout.pretty : Layout := ⟨fun level => '\n' :: List.replicate (2 * level) ' ', [' ']⟩

mutual

/-- A tree whose inner items stand at the level after `level`. -/
def chars (layout : Layout) (level : Nat) : Datum → List Char
  | .null | .number | .unreadable => ['n', 'u', 'l', 'l']
  | .bool true => ['t', 'r', 'u', 'e']
  | .bool false => ['f', 'a', 'l', 's', 'e']
  | .natural n => naturalChars n
  | .text s => quoted s
  | .list [] => ['[', ']']
  | .list (item :: rest) =>
    '[' :: (layout.lineBreak (level + 1) ++ chars layout (level + 1) item
      ++ itemsChars layout (level + 1) rest ++ layout.lineBreak level ++ [']'])
  | .object [] => ['\x7b', '\x7d']
  | .object ((name, value) :: rest) =>
    '\x7b' :: (layout.lineBreak (level + 1) ++ quoted name ++ ':' :: layout.afterColon
      ++ chars layout (level + 1) value
      ++ membersChars layout (level + 1) rest ++ layout.lineBreak level ++ ['\x7d'])

/-- The items after the first one. -/
def itemsChars (layout : Layout) (level : Nat) : List Datum → List Char
  | [] => []
  | item :: rest => ',' :: (layout.lineBreak level ++ chars layout level item ++ itemsChars layout level rest)

/-- The members after the first one. -/
def membersChars (layout : Layout) (level : Nat) : List (String × Datum) → List Char
  | [] => []
  | (name, value) :: rest =>
    ',' :: (layout.lineBreak level ++ quoted name ++ ':' :: layout.afterColon
      ++ chars layout level value ++ membersChars layout level rest)

end

/-- The compact written form. -/
def compact (d : Datum) : String := String.ofList (chars .compact 0 d)

/-- The pretty written form. -/
def pretty (d : Datum) : String := String.ofList (chars .pretty 0 d)

end AccessDecision.Datum.Json
