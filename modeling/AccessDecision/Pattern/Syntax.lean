/-!
# Syntax trees of patterns

`Node` is a pattern as it is written.  Captures are kept, because they take room in a compiled pattern; whether a
repetition is greedy is not, because it never decides whether a text matches.
-/

namespace AccessDecision.Pattern

/-- A flag that can be set inside a pattern. -/
inductive Flag where
  | ignoreCase
  | multiLine
  | dotAll
  | swapGreed
  | unicode
  | crlf
  | verbose
  deriving DecidableEq, Repr

/-- The flags that a group or a directive turns on and off. -/
structure FlagChange where
  on : List Flag
  off : List Flag
  deriving Repr

/-- What a change does to one flag: nothing, or it gets a value. -/
def FlagChange.get? (change : FlagChange) (flag : Flag) : Option Bool :=
  if flag ∈ change.on then some true else if flag ∈ change.off then some false else none

/-- A condition on a place in the text, as it is written. -/
inductive Anchor where
  | lineStart
  | lineEnd
  | textStart
  | textEnd
  | wordBoundary
  | notWordBoundary
  | wordStart
  | wordEnd
  | wordStartHalf
  | wordEndHalf
  deriving DecidableEq, Repr

/-- A literal character. One that is written as two hexadecimal digits may stand for a byte. -/
structure Literal where
  char : Char
  isByte : Bool
  deriving DecidableEq, Repr

/-- The classes with a one-letter escape. -/
inductive LetterClass where
  | digit
  | space
  | word
  deriving DecidableEq, Repr

/-- The classes named between colons. -/
inductive NamedClass where
  | alnum | alpha | ascii | blank | cntrl | digit | graph | lower | print | punct | space | upper | word | xdigit
  deriving DecidableEq, Repr

/-- A Unicode property as it is written. -/
inductive PropertyName where
  | named (name : String)
  | valued (property value : String)
  deriving DecidableEq, Repr

/-- The operations on two sets between brackets. -/
inductive SetOp where
  | inter
  | diff
  | symmDiff
  deriving DecidableEq, Repr

/-- What stands between brackets. -/
inductive ClassSet where
  | empty
  | literal (l : Literal)
  | range (first last : Literal)
  | namedClass (negated : Bool) (cls : NamedClass)
  | letterClass (negated : Bool) (cls : LetterClass)
  | property (negated : Bool) (name : PropertyName)
  | bracketed (negated : Bool) (inner : ClassSet)
  /-- Two or more items next to each other. -/
  | union (items : List ClassSet)
  | op (kind : SetOp) (left right : ClassSet)
  deriving Inhabited, Repr

/-- A pattern as it is written. -/
inductive Node where
  | empty
  /-- Changes the flags for the rest of the group. -/
  | flags (change : FlagChange)
  | literal (l : Literal)
  | dot
  | anchor (kind : Anchor)
  | letterClass (negated : Bool) (cls : LetterClass)
  | property (negated : Bool) (name : PropertyName)
  | bracketed (negated : Bool) (inner : ClassSet)
  | repetition (min : Nat) (max : Option Nat) (inner : Node)
  | capture (inner : Node)
  /-- A group that captures nothing and may change the flags inside. -/
  | group (change : FlagChange) (inner : Node)
  | alternation (branches : List Node)
  | concat (parts : List Node)
  deriving Inhabited, Repr

/-- The set of items next to each other. -/
def ClassSet.ofItems : List ClassSet → ClassSet
  | [] => .empty
  | [item] => item
  | items => .union items

/-- Patterns one after the other. -/
def Node.ofParts : List Node → Node
  | [] => .empty
  | [part] => part
  | parts => .concat parts

/-- Patterns of which one is chosen. -/
def Node.ofBranches : List Node → Node
  | [branch] => branch
  | branches => .alternation branches

/-! ### Nesting -/

mutual

/-- How deep brackets, unions and operations are nested. -/
def ClassSet.depth : ClassSet → Nat
  | .bracketed _ inner => inner.depth + 1
  | .union items => ClassSet.depthOf items + 1
  | .op _ left right => max left.depth right.depth + 1
  | _ => 0

/-- The greatest depth among several sets. -/
def ClassSet.depthOf : List ClassSet → Nat
  | [] => 0
  | item :: rest => max item.depth (ClassSet.depthOf rest)

end

mutual

/-- How deep the parts of a pattern are nested; single characters, classes without brackets and anchors do not
count. -/
def Node.depth : Node → Nat
  | .bracketed _ inner => inner.depth + 1
  | .repetition _ _ inner | .capture inner | .group _ inner => inner.depth + 1
  | .alternation branches | .concat branches => Node.depthOf branches + 1
  | _ => 0

/-- The greatest depth among several patterns. -/
def Node.depthOf : List Node → Nat
  | [] => 0
  | node :: rest => max node.depth (Node.depthOf rest)

end

/-- The deepest nesting that a pattern may have. -/
def maxDepth : Nat := 250

end AccessDecision.Pattern
