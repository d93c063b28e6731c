import AccessDecision.Datum.Basic

/-!
# Tokens of a JSON text

The text is cut into tokens by an automaton that takes one character at a time (`Lexer.step`), so cutting a text
is a fold over its characters.

* Texts are decoded while they are cut.  A `\u` escape may name half of a surrogate pair; `Piece.join` puts the
  halves together and answers `none` where one of them is alone.
* A number keeps its value only if it is a natural of 64 bits.  One whose value exceeds the range of a double
  is `unreadable`.
-/

namespace AccessDecision.Datum.Json

/-- A token of a JSON text; a text token is `none` when it holds half a surrogate pair. -/
inductive Token where
  | listOpen
  | listClose
  | objectOpen
  | objectClose
  | comma
  | colon
  | text (value : Option String)
  | scalar (value : Datum)
  deriving Inhabited, Repr

/-! ### Numbers -/

/-- A number as it is written: its sign, the digits before the point, those after it, and its exponent. -/
structure Numeral where
  negative : Bool
  whole : List Char
  fraction : List Char
  exponent : Int
  isPlain : Bool

/-- The value of a row of decimal digits. -/
def digitsValue (digits : List Char) : Nat :=
  digits.foldl (fun n c => 10 * n + (c.toNat - '0'.toNat)) 0

/-- The largest natural of 64 bits. -/
def maxNatural : Nat := Nat.pow 2 64 - 1

/-- The nearest natural with at most 53 significant bits; a tie goes to the even one. -/
def roundToDouble (n : Nat) : Nat :=
  if n < Nat.pow 2 53 then n
  else
    let unit := Nat.pow 2 (n.log2 - 52)
    let low := n / unit
    let rest := n % unit
    let up := decide (unit < 2 * rest) || (2 * rest == unit && low % 2 == 1)
    (if up then low + 1 else low) * unit

/-- The least natural that rounds beyond every finite double. -/
def doubleOverflow : Nat := (Nat.pow 2 54 - 1) * Nat.pow 2 970

/-- The leading digits that stay within 64 bits, and how many were dropped after them. -/
def significand (digits : List Char) : Nat × Nat :=
  digits.foldl (fun (value, dropped) c =>
    let next := 10 * value + (c.toNat - '0'.toNat)
    if dropped = 0 ∧ next ≤ maxNatural then (next, 0) else (value, dropped + 1)) (0, 0)

/-- Whether the number lies outside the range of a double. The digits that fit into 64 bits are multiplied by a
power of ten, both rounded to a double. -/
def Numeral.overflows (n : Numeral) : Bool :=
  let (value, dropped) := significand (n.whole ++ n.fraction)
  let scale : Int := (dropped : Int) - n.fraction.length + n.exponent
  if value = 0 then false
  else if scale > 308 then true
  else if scale < 0 then false
  else doubleOverflow ≤ roundToDouble value * roundToDouble (Nat.pow 10 scale.toNat)

/-- Splits off the leading digits. -/
def spanDigits (cs : List Char) : List Char × List Char :=
  (cs.takeWhile Char.isDigit, cs.dropWhile Char.isDigit)

/-- Reads the part of a number from its exponent mark on; no mark is the exponent zero. -/
def exponent? : List Char → Option (Int × Bool)
  | [] => some (0, true)
  | mark :: rest =>
    if mark = 'e' ∨ mark = 'E' then
      let (negative, digits) := match rest with
        | '-' :: more => (true, more)
        | '+' :: more => (false, more)
        | more => (false, more)
      if digits.isEmpty || !digits.all Char.isDigit then none
      else some (if negative then -(digitsValue digits : Int) else digitsValue digits, false)
    else none

/-- Reads a number: an optional minus, digits without a leading zero, an optional fraction and an optional
exponent. -/
def numeral? (cs : List Char) : Option Numeral :=
  let (negative, unsigned) := match cs with
    | '-' :: rest => (true, rest)
    | rest => (false, rest)
  let (whole, rest) := spanDigits unsigned
  if whole.isEmpty || (1 < whole.length && whole.head? == some '0') then none
  else match rest with
    | '.' :: tail =>
      let (fraction, rest) := spanDigits tail
      if fraction.isEmpty then none
      else (exponent? rest).map fun (exponent, _) => ⟨negative, whole, fraction, exponent, false⟩
    | rest => (exponent? rest).map fun (exponent, plain) => ⟨negative, whole, [], exponent, plain && !negative⟩

/-- The value of a number. -/
def Numeral.value (n : Numeral) : Datum :=
  if n.isPlain && digitsValue n.whole ≤ maxNatural then .natural (digitsValue n.whole)
  else if n.overflows then .unreadable
  else .number

/-- The value of a bare word: a literal or a number. -/
def word? (cs : List Char) : Option Datum :=
  if cs = ['n', 'u', 'l', 'l'] then some .null
  else if cs = ['t', 'r', 'u', 'e'] then some (.bool true)
  else if cs = ['f', 'a', 'l', 's', 'e'] then some (.bool false)
  else (numeral? cs).map Numeral.value

/-! ### Texts -/

/-- A part of a text: a character, or half of a surrogate pair named by an escape. -/
inductive Piece where
  | char (c : Char)
  | half (unit : Nat)

/-- The piece that a `\u` escape with this code unit stands for. -/
def Piece.ofUnit (unit : Nat) : Piece :=
  if 0xD800 ≤ unit ∧ unit ≤ 0xDFFF then .half unit else .char (Char.ofNat unit)

/-- Puts the halves of surrogate pairs together; `none` if one of them is alone. -/
def Piece.join : List Piece → Option (List Char)
  | [] => some []
  | .char c :: rest => (join rest).map (c :: ·)
  | .half high :: .half low :: rest =>
    if high < 0xDC00 ∧ 0xDC00 ≤ low then
      (join rest).map (Char.ofNat (0x10000 + (high - 0xD800) * 0x400 + (low - 0xDC00)) :: ·)
    else none
  | .half _ :: _ => none

/-- The value of a hexadecimal digit of either case. -/
def hexValue? (c : Char) : Option Nat :=
  if '0' ≤ c ∧ c ≤ '9' then some (c.toNat - '0'.toNat)
  else if 'a' ≤ c ∧ c ≤ 'f' then some (c.toNat - 'a'.toNat + 10)
  else if 'A' ≤ c ∧ c ≤ 'F' then some (c.toNat - 'A'.toNat + 10)
  else none

/-- The character that a one-letter escape stands for. -/
def escaped? : Char → Option Char
  | '"' => some '"'
  | '\\' => some '\\'
  | '/' => some '/'
  | 'b' => some '\x08'
  | 'f' => some '\x0c'
  | 'n' => some '\n'
  | 'r' => some '\r'
  | 't' => some '\t'
  | _ => none

/-! ### The automaton -/

/-- What the lexer is in the middle of; characters and pieces are kept in reverse. -/
inductive Mode where
  | between
  | word (seen : List Char)
  | text (seen : List Piece)
  | escape (seen : List Piece)
  | hex (seen : List Piece) (unit : Nat) (left : Nat)

/-- The state of the lexer: its mode and the tokens cut so far, in reverse. -/
structure Lexer where
  mode : Mode
  tokens : List Token

/-- Whether the character is white space between tokens. -/
def isSpace (c : Char) : Bool := c == ' ' || c == '\t' || c == '\n' || c == '\r'

/-- Whether the character may stand in a literal or a number. -/
def isWordChar (c : Char) : Bool :=
  c.isAlphanum || c == '-' || c == '+' || c == '.'

/-- Takes a character that stands between tokens. -/
def Lexer.begin (tokens : List Token) (c : Char) : Option Lexer :=
  if isSpace c then some ⟨.between, tokens⟩
  else match c with
    | '[' => some ⟨.between, .listOpen :: tokens⟩
    | ']' => some ⟨.between, .listClose :: tokens⟩
    | '\x7b' => some ⟨.between, .objectOpen :: tokens⟩
    | '\x7d' => some ⟨.between, .objectClose :: tokens⟩
    | ',' => some ⟨.between, .comma :: tokens⟩
    | ':' => some ⟨.between, .colon :: tokens⟩
    | '"' => some ⟨.text [], tokens⟩
    | _ => if isWordChar c then some ⟨.word [c], tokens⟩ else none

/-- Ends the word that is being read. -/
def wordToken? (seen : List Char) : Option Token :=
  (word? seen.reverse).map .scalar

/-- Takes one character. -/
def Lexer.step (state : Lexer) (c : Char) : Option Lexer :=
  match state.mode with
  | .between => Lexer.begin state.tokens c
  | .word seen =>
    if isWordChar c then some ⟨.word (c :: seen), state.tokens⟩
    else (wordToken? seen).bind fun token => Lexer.begin (token :: state.tokens) c
  | .text seen =>
    if c = '"' then
      some ⟨.between, .text ((Piece.join seen.reverse).map String.ofList) :: state.tokens⟩
    else if c = '\\' then some ⟨.escape seen, state.tokens⟩
    else if c.toNat < 0x20 then none
    else some ⟨.text (.char c :: seen), state.tokens⟩
  | .escape seen =>
    if c = 'u' then some ⟨.hex seen 0 4, state.tokens⟩
    else (escaped? c).map fun e => ⟨.text (.char e :: seen), state.tokens⟩
  | .hex seen unit left =>
    (hexValue? c).map fun digit =>
      let unit := 16 * unit + digit
      if left ≤ 1 then ⟨.text (.ofUnit unit :: seen), state.tokens⟩
      else ⟨.hex seen unit (left - 1), state.tokens⟩

/-- Ends the text: no string may be open. -/
def Lexer.finish (state : Lexer) : Option (List Token) :=
  match state.mode with
  | .between => some state.tokens.reverse
  | .word seen => (wordToken? seen).map fun token => (token :: state.tokens).reverse
  | _ => none

/-- Cuts a text into tokens. -/
def tokens? (cs : List Char) : Option (List Token) :=
  (cs.foldlM Lexer.step ⟨.between, []⟩).bind Lexer.finish

end AccessDecision.Datum.Json
