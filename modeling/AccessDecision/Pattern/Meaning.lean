import AccessDecision.Pattern.Regex
import AccessDecision.Pattern.Syntax
import AccessDecision.Text.CaseFolding
import AccessDecision.Text.Property.Lookup

/-!
# The meaning of patterns

The flags that are in force decide what a part of a pattern means (`Node.regex?`).  A flag set inside a group
holds for the rest of the group, across its branches.

Without the Unicode flag classes hold ASCII characters only; a part that could match a piece of a character, such
as a negated class, has no meaning then.
-/

namespace AccessDecision.Pattern

open Text (CharSet)

/-- The flags that matter for the meaning of a pattern. -/
structure Flags where
  ignoreCase : Bool
  multiLine : Bool
  dotAll : Bool
  crlf : Bool
  unicode : Bool

/-- The flags at the start of a pattern. -/
def Flags.initial : Flags := ⟨false, false, false, false, true⟩

/-- The flags after a change. -/
def Flags.change (f : Flags) (change : FlagChange) : Flags where
  ignoreCase := (change.get? .ignoreCase).getD f.ignoreCase
  multiLine := (change.get? .multiLine).getD f.multiLine
  dotAll := (change.get? .dotAll).getD f.dotAll
  crlf := (change.get? .crlf).getD f.crlf
  unicode := (change.get? .unicode).getD f.unicode

/-! ### Sets -/

/-- A set with all characters that differ from one of its members only in case. -/
def foldCase (s : CharSet) : CharSet :=
  s.union (.ofList (Text.caseClasses.filter (·.any s.containsNat)).flatten)

/-- A set with all ASCII letters that differ from one of its members only in case. -/
def foldAscii (s : CharSet) : CharSet :=
  s.union (.ofList ((List.range 26).flatMap fun n =>
    if s.containsNat (0x41 + n) || s.containsNat (0x61 + n) then [0x41 + n, 0x61 + n] else []))

/-- A set without regard to case, if the flags say so. -/
def Flags.fold (f : Flags) (s : CharSet) : CharSet :=
  if f.ignoreCase then (if f.unicode then foldCase s else foldAscii s) else s

/-- The complement of a set, if it is negated. There are no negated sets of bytes. -/
def Flags.negate? (f : Flags) (negated : Bool) (s : CharSet) : Option CharSet :=
  if !negated then some s else if f.unicode then some s.compl else none

/-- The characters of a class between colons. -/
def NamedClass.chars : NamedClass → CharSet
  | alnum => .unionAll [.range 0x30 0x39, .range 0x41 0x5A, .range 0x61 0x7A]
  | alpha => .unionAll [.range 0x41 0x5A, .range 0x61 0x7A]
  | ascii => .range 0x00 0x7F
  | blank => .unionAll [.single '\t', .single ' ']
  | cntrl => .unionAll [.range 0x00 0x1F, .range 0x7F 0x7F]
  | digit => .range 0x30 0x39
  | graph => .range 0x21 0x7E
  | lower => .range 0x61 0x7A
  | print => .range 0x20 0x7E
  | punct => .unionAll [.range 0x21 0x2F, .range 0x3A 0x40, .range 0x5B 0x60, .range 0x7B 0x7E]
  | space => .unionAll [.range 0x09 0x0D, .single ' ']
  | upper => .range 0x41 0x5A
  | word => asciiWord
  | xdigit => .unionAll [.range 0x30 0x39, .range 0x41 0x46, .range 0x61 0x66]

/-- The characters of a class with a one-letter escape. -/
def LetterClass.chars (unicode : Bool) : LetterClass → CharSet
  | digit => if unicode then Text.Property.decimal else NamedClass.chars .digit
  | space => if unicode then Text.Property.space else NamedClass.chars .space
  | word => if unicode then Text.Property.word else asciiWord

/-- The characters that have a property. -/
def PropertyName.chars? : PropertyName → Option CharSet
  | named name => Text.Property.named? name
  | valued property value => Text.Property.valued? property value

/-- The characters of an escape for a property. -/
def Flags.property? (f : Flags) (negated : Bool) (name : PropertyName) : Option CharSet :=
  if f.unicode then name.chars?.bind fun s => f.negate? negated (f.fold s) else none

/-- A literal between brackets: without the Unicode flag it is an ASCII character. -/
def Flags.classLiteral? (f : Flags) (l : Literal) : Option Nat :=
  if f.unicode || l.char.toNat < 0x80 then some l.char.toNat else none

/-- The result of an operation on two sets. -/
def SetOp.apply (s t : CharSet) : SetOp → CharSet
  | inter => s.inter t
  | diff => s.diff t
  | symmDiff => s.symmDiff t

mutual

/-- The characters of a set between brackets. -/
def ClassSet.chars? (f : Flags) : ClassSet → Option CharSet
  | .empty => some .empty
  | .literal l => do
    let n ← f.classLiteral? l
    return .range n n
  | .range first last => do return .range (← f.classLiteral? first) (← f.classLiteral? last)
  | .namedClass negated cls => f.negate? negated (f.fold cls.chars)
  | .letterClass negated cls => f.negate? negated (cls.chars f.unicode)
  | .property negated name => f.property? negated name
  | .bracketed negated inner => do f.negate? negated (f.fold (← inner.chars? f))
  | .union items => ClassSet.charsOf? f items
  | .op kind left right => do return kind.apply (f.fold (← left.chars? f)) (f.fold (← right.chars? f))

/-- The characters of several sets together. -/
def ClassSet.charsOf? (f : Flags) : List ClassSet → Option CharSet
  | [] => some .empty
  | item :: rest => do return (← item.chars? f).union (← ClassSet.charsOf? f rest)

end

/-! ### Nodes -/

/-- A literal outside brackets. Without the Unicode flag a byte must be an ASCII character. -/
def Flags.literal? (f : Flags) (l : Literal) : Option Regex :=
  if !f.unicode && l.isByte && 0x80 ≤ l.char.toNat then none
  else some (.set (f.fold (.single l.char)))

/-- Any character, but the ends of lines only if the flags say so. -/
def Flags.dot? (f : Flags) : Option Regex :=
  if !f.unicode then none
  else if f.dotAll then some (.set .all)
  else if f.crlf then some (.set (CharSet.union (.single '\n') (.single '\r')).compl)
  else some (.set (CharSet.single '\n').compl)

/-- What an anchor means. -/
def Flags.look (f : Flags) : Anchor → Look
  | .lineStart => if f.multiLine then (if f.crlf then .crlfStart else .lineStart) else .textStart
  | .lineEnd => if f.multiLine then (if f.crlf then .crlfEnd else .lineEnd) else .textEnd
  | .textStart => .textStart
  | .textEnd => .textEnd
  | .wordBoundary => .word .boundary f.unicode
  | .notWordBoundary => .word .noBoundary f.unicode
  | .wordStart => .word .start f.unicode
  | .wordEnd => .word .stop f.unicode
  | .wordStartHalf => .word .startHalf f.unicode
  | .wordEndHalf => .word .stopHalf f.unicode

mutual

/-- What a pattern means under some flags, and the flags after it. -/
def Node.regex? (f : Flags) : Node → Option (Regex × Flags)
  | .empty => some (.empty, f)
  | .flags change => some (.empty, f.change change)
  | .literal l => (f.literal? l).map fun r => (r, f)
  | .dot => f.dot?.map fun r => (r, f)
  | .anchor kind => some (.look (f.look kind), f)
  | .letterClass negated cls => (f.negate? negated (cls.chars f.unicode)).map fun s => (.set s, f)
  | .property negated name => (f.property? negated name).map fun s => (.set s, f)
  | .bracketed negated inner => do
    let s ← f.negate? negated (f.fold (← inner.chars? f))
    return (.set s, f)
  | .repetition min max inner => do
    let (r, f) ← inner.regex? f
    return (.repeats min max r, f)
  | .capture inner => do return (.capture (← inner.regex? f).1, f)
  | .group change inner => do return ((← inner.regex? (f.change change)).1, f)
  | .concat parts => Node.concatRegex? f parts
  | .alternation branches => Node.alternationRegex? f branches

/-- What patterns mean that follow each other. -/
def Node.concatRegex? (f : Flags) : List Node → Option (Regex × Flags)
  | [] => some (.empty, f)
  | [part] => part.regex? f
  | part :: rest => do
    let (r, f) ← part.regex? f
    let (s, f) ← Node.concatRegex? f rest
    return (.cat r s, f)

/-- What patterns mean of which one is chosen. -/
def Node.alternationRegex? (f : Flags) : List Node → Option (Regex × Flags)
  | [] => some (.empty, f)
  | [branch] => branch.regex? f
  | branch :: rest => do
    let (r, f) ← branch.regex? f
    let (s, f) ← Node.alternationRegex? f rest
    return (.alt r s, f)

end

/-- The regular expression that a pattern stands for. -/
def Node.toRegex? (node : Node) : Option Regex := (node.regex? .initial).map (·.1)

end AccessDecision.Pattern
