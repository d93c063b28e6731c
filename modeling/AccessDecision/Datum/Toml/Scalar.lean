import AccessDecision.Datum.Json.Token

/-!
# Bare values of a TOML text

Booleans, numbers, dates and times are written without quotes.  Only whether they are well formed matters: every
number becomes `Datum.number`, and a date or a time becomes an object with one text, so that it is no text itself.
-/

namespace AccessDecision.Datum.Toml

/-! ### Numbers -/

/-- The digits of a row in which a single underscore may stand between two digits. -/
def digits? (isDigit : Char → Bool) : List Char → Option (List Char)
  | [] => none
  | [c] => if isDigit c then some [c] else none
  | c :: '_' :: rest => if isDigit c then (digits? isDigit rest).map (c :: ·) else none
  | c :: rest => if isDigit c then (digits? isDigit rest).map (c :: ·) else none

/-- The digits of a decimal integer without its sign; no zero may lead others. -/
def whole? (cs : List Char) : Option (List Char) :=
  (digits? Char.isDigit cs).filter fun digits => digits.length = 1 || digits.head? != some '0'

/-- Whether the row starts with a minus, and the row without its sign. -/
def splitSign : List Char → Bool × List Char
  | '-' :: rest => (true, rest)
  | '+' :: rest => (false, rest)
  | rest => (false, rest)

/-- Whether the character is a hexadecimal digit of either case. -/
def isHexDigit (c : Char) : Bool := (Json.hexValue? c).isSome

/-- The value of digits in some base. -/
def valueIn (base : Nat) (digits : List Char) : Nat :=
  digits.foldl (fun n c => base * n + (Json.hexValue? c).getD 0) 0

/-- The largest integer that can be written. -/
def maxInteger : Nat := Nat.pow 2 63 - 1

/-- Whether the row is an integer in a base that is named by its first two characters. -/
def isBasedInteger : List Char → Bool
  | '0' :: 'x' :: rest => (digits? isHexDigit rest).any (valueIn 16 · ≤ maxInteger)
  | '0' :: 'o' :: rest => (digits? (fun c => '0' ≤ c && c ≤ '7') rest).any (valueIn 8 · ≤ maxInteger)
  | '0' :: 'b' :: rest => (digits? (fun c => c == '0' || c == '1') rest).any (valueIn 2 · ≤ maxInteger)
  | _ => false

/-- Whether the row is a decimal integer of 64 bits with a sign. -/
def isDecimalInteger (cs : List Char) : Bool :=
  let (negative, unsigned) := splitSign cs
  (whole? unsigned).any fun digits => valueIn 10 digits ≤ maxInteger + (if negative then 1 else 0)

/-- Whether digits, of which the last `places` ones stand behind the point, times a power of ten reach the least
number that rounds beyond every finite double. -/
def overflowsDouble (digits : List Char) (places : Nat) (exponent : Int) : Bool :=
  let digits := digits.dropWhile (· == '0')
  let scale : Int := exponent - places
  let size : Int := digits.length + scale
  if digits.isEmpty || size < 309 then false
  else if size > 309 then true
  else Json.doubleOverflow * Nat.pow 10 (-scale).toNat ≤ valueIn 10 digits * Nat.pow 10 scale.toNat

/-- The exponent of a floating-point number, from its mark on; none is zero. -/
def exponent? : List Char → Option Int
  | [] => some 0
  | _ :: rest =>
    let (negative, unsigned) := splitSign rest
    (digits? Char.isDigit unsigned).map fun digits =>
      if negative then -(valueIn 10 digits : Int) else valueIn 10 digits

/-- Whether the character may stand before the mark of an exponent. -/
def notMark (c : Char) : Bool := c != 'e' && c != 'E'

/-- Whether the row is a floating-point number with a fraction, an exponent or both. One that is positive must not
round to infinity. -/
def isFloat (cs : List Char) : Bool :=
  let (negative, unsigned) := splitSign cs
  let (mantissa, mark) := unsigned.span notMark
  let (whole, point) := mantissa.span (· != '.')
  match whole? whole, point, exponent? mark with
  | some digits, [], some exponent => !mark.isEmpty && (negative || !overflowsDouble digits 0 exponent)
  | some digits, _ :: fraction, some exponent =>
    (digits? Char.isDigit fraction).any fun places =>
      negative || !overflowsDouble (digits ++ places) places.length exponent
  | _, _, _ => false

/-- Whether the row is one of the names of infinity and of no number, with or without a sign. -/
def isSpecialFloat (cs : List Char) : Bool :=
  let unsigned := (splitSign cs).2
  unsigned == ['i', 'n', 'f'] || unsigned == ['n', 'a', 'n']

/-! ### Dates and times -/

/-- The value of two digits. -/
def twoDigits? (tens ones : Char) : Option Nat :=
  if tens.isDigit && ones.isDigit then some (Json.digitsValue [tens, ones]) else none

/-- Whether two digits make a number within bounds. -/
def pairWithin (low high : Nat) (tens ones : Char) : Bool :=
  (twoDigits? tens ones).any fun n => low ≤ n && n ≤ high

/-- The number of days of a month. -/
def daysIn (year month : Nat) : Nat :=
  if month = 2 then (if year % 4 = 0 ∧ (year % 100 ≠ 0 ∨ year % 400 = 0) then 29 else 28)
  else if month = 4 ∨ month = 6 ∨ month = 9 ∨ month = 11 then 30
  else 31

/-- Whether the row is a date: a year of four digits, a month and a day of that month. -/
def isDate : List Char → Bool
  | [y₁, y₂, y₃, y₄, '-', m₁, m₂, '-', d₁, d₂] =>
    [y₁, y₂, y₃, y₄].all Char.isDigit && pairWithin 1 12 m₁ m₂
      && pairWithin 1 (daysIn (Json.digitsValue [y₁, y₂, y₃, y₄]) (Json.digitsValue [m₁, m₂])) d₁ d₂
  | _ => false

/-- What follows the time at the start of the row: hours, minutes, seconds and a fraction of a second. -/
def afterTime? : List Char → Option (List Char)
  | h₁ :: h₂ :: ':' :: m₁ :: m₂ :: ':' :: s₁ :: s₂ :: rest =>
    if pairWithin 0 23 h₁ h₂ && pairWithin 0 59 m₁ m₂ && pairWithin 0 60 s₁ s₂ then
      match rest with
      | '.' :: fraction =>
        if (fraction.takeWhile Char.isDigit).isEmpty then none else some (fraction.dropWhile Char.isDigit)
      | rest => some rest
    else none
  | _ => none

/-- Whether the row is the offset of a time zone. -/
def isOffset : List Char → Bool
  | ['Z'] | ['z'] => true
  | [sign, h₁, h₂, ':', m₁, m₂] => (sign == '+' || sign == '-') && pairWithin 0 23 h₁ h₂ && pairWithin 0 59 m₁ m₂
  | _ => false

/-- Whether the row is a date, a time, or a date with a time and perhaps an offset. -/
def isDateTime (cs : List Char) : Bool :=
  let (date, rest) := (cs.take 10, cs.drop 10)
  match rest with
  | [] => isDate date || afterTime? cs == some []
  | mark :: time =>
    if isDate date then
      (mark == 'T' || mark == 't' || mark == ' ')
        && (afterTime? time).any fun offset => offset.isEmpty || isOffset offset
    else afterTime? cs == some []

/-- The value of a bare word. -/
def scalar? (cs : List Char) : Option Datum :=
  if cs == ['t', 'r', 'u', 'e'] then some (.bool true)
  else if cs == ['f', 'a', 'l', 's', 'e'] then some (.bool false)
  else if isDecimalInteger cs || isBasedInteger cs || isFloat cs || isSpecialFloat cs then some .number
  else if isDateTime cs then some (.object [("date-time", .text (String.ofList cs))])
  else none

end AccessDecision.Datum.Toml
