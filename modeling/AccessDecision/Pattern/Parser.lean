import AccessDecision.Pattern.Scan
import AccessDecision.Pattern.Syntax
import AccessDecision.Text.Property.Lookup

/-!
# Parsing patterns

A pattern is read by a machine that keeps the groups that are still open on a stack (`State.step`).  Each step
takes at least one character, so the length of the pattern bounds the number of steps.

* Escapes (`escape?`) and classes between brackets (`bracketed?`) are read as a whole.
* A group is closed by the innermost parenthesis, whatever text the pattern was put into.
* A pattern that is nested too deeply is refused.
-/

namespace AccessDecision.Pattern

/-! ### Escapes -/

/-- What a single escape or character stands for. -/
inductive Primitive where
  | literal (l : Literal)
  | dot
  | anchor (kind : Anchor)
  | letterClass (negated : Bool) (cls : LetterClass)
  | property (negated : Bool) (name : PropertyName)

/-- The node of a primitive outside brackets. -/
def Primitive.toNode : Primitive → Node
  | literal l => .literal l
  | dot => .dot
  | anchor kind => .anchor kind
  | letterClass negated cls => .letterClass negated cls
  | property negated name => .property negated name

/-- The item of a primitive between brackets, where anchors have no meaning. -/
def Primitive.toItem? : Primitive → Option ClassSet
  | literal l => some (.literal l)
  | letterClass negated cls => some (.letterClass negated cls)
  | property negated name => some (.property negated name)
  | dot | anchor _ => none

/-- The character of a primitive at the end of a range. -/
def Primitive.toLiteral? : Primitive → Option Literal
  | literal l => some l
  | _ => none

/-- A character that stands for itself. -/
def Primitive.plain (c : Char) : Primitive := .literal ⟨c, false⟩

/-- Whether a backslash makes the character stand for itself: any ASCII character but letters, digits and angle
brackets. -/
def isEscapable (c : Char) : Bool :=
  c.toNat < 0x80 && !c.isAlphanum && c != '<' && c != '>'

/-- The hexadecimal escape whose short form has `count` digits, after its letter. -/
def hexEscape? (verbose : Bool) (count : Nat) (cs : List Char) : Option (Primitive × List Char) :=
  match skip verbose cs with
  | '\x7b' :: rest => do
    let (digits, rest) := takeRun verbose false isHexDigit rest
    match rest with
    | '\x7d' :: rest =>
      if digits.isEmpty then none
      else return (.plain (← charOf? (digitsValue 16 digits)), rest)
    | _ => none
  | rest => do
    let (digits, rest) ← hexDigits? verbose false count rest
    return (.literal ⟨← charOf? (digitsValue 16 digits), count == 2⟩, rest)

/-- Cuts a row of characters at the first occurrence of a mark. -/
def cutAt? (mark : List Char) : List Char → Option (List Char × List Char)
  | [] => none
  | c :: cs =>
    if mark.isPrefixOf (c :: cs) then some ([], (c :: cs).drop mark.length)
    else (cutAt? mark cs).map fun (before, after) => (c :: before, after)

/-- The property that stands between braces. A value that is set off by `!=` is read like any other: only the
letter of the escape turns a property around. -/
def propertyOf (name : List Char) : PropertyName :=
  match (cutAt? ['!', '='] name).orElse fun _ => (cutAt? [':'] name).orElse fun _ => cutAt? ['='] name with
  | some (property, value) => .valued (String.ofList property) (String.ofList value)
  | none => .named (String.ofList name)

/-- The Unicode property after its letter. -/
def propertyEscape? (verbose negated : Bool) (cs : List Char) : Option (Primitive × List Char) :=
  match skip verbose cs with
  | [] => none
  | '\x7b' :: rest =>
    let (name, rest) := takeRun verbose false (· != '\x7d') rest
    match rest with
    | [] => none
    | _ :: rest => some (.property negated (propertyOf name), rest)
  | c :: rest => if c = '\\' then none else some (.property negated (.named (String.singleton c)), rest)

/-- The anchors that are named between braces after the word boundary. -/
def wordAnchors : List (String × Anchor) :=
  [("start", .wordStart), ("end", .wordEnd), ("start-half", .wordStartHalf), ("end-half", .wordEndHalf)]

/-- The anchor of a word boundary, after its letter. A brace that no letter or hyphen follows starts a
repetition. -/
def wordBoundary? (verbose : Bool) (cs : List Char) : Option (Primitive × List Char) :=
  match cs with
  | '\x7b' :: rest =>
    match skip verbose rest with
    | [] => none
    | c :: more =>
      if c.isAlpha || c == '-' then
        let (name, rest) := takeRun verbose false (fun c => c.isAlpha || c == '-') (c :: more)
        match rest with
        | '\x7d' :: rest => (wordAnchors.lookup (String.ofList name)).map fun kind => (.anchor kind, rest)
        | _ => none
      else some (.anchor .wordBoundary, '\x7b' :: rest)
  | rest => some (.anchor .wordBoundary, rest)

/-- The escapes of a single letter or sign. -/
def simpleEscapes : List (Char × Primitive) :=
  [('d', .letterClass false .digit), ('D', .letterClass true .digit), ('s', .letterClass false .space),
    ('S', .letterClass true .space), ('w', .letterClass false .word), ('W', .letterClass true .word),
    ('a', .plain '\x07'), ('f', .plain '\x0c'), ('t', .plain '\t'), ('n', .plain '\n'), ('r', .plain '\r'),
    ('v', .plain '\x0b'), ('A', .anchor .textStart), ('z', .anchor .textEnd), ('B', .anchor .notWordBoundary),
    ('<', .anchor .wordStart), ('>', .anchor .wordEnd)]

/-- Reads an escape after its backslash. There are no back-references. -/
def escape? (verbose : Bool) : List Char → Option (Primitive × List Char)
  | [] => none
  | c :: rest =>
    if c = 'x' then hexEscape? verbose 2 rest
    else if c = 'u' then hexEscape? verbose 4 rest
    else if c = 'U' then hexEscape? verbose 8 rest
    else if c = 'p' then propertyEscape? verbose false rest
    else if c = 'P' then propertyEscape? verbose true rest
    else if c = 'b' then wordBoundary? verbose rest
    else if isEscapable c then some (.plain c, rest)
    else (simpleEscapes.lookup c).map fun primitive => (primitive, rest)

/-! ### Classes between brackets -/

/-- What is still open inside brackets. -/
inductive ClassFrame where
  /-- An opening bracket, with the items before it in reverse. -/
  | bracket (outer : List ClassSet) (negated : Bool)
  /-- An operation that waits for its second set. -/
  | op (kind : SetOp) (left : ClassSet)

/-- The names of the classes between colons. -/
def classNames : List (String × NamedClass) :=
  [("alnum", .alnum), ("alpha", .alpha), ("ascii", .ascii), ("blank", .blank), ("cntrl", .cntrl),
    ("digit", .digit), ("graph", .graph), ("lower", .lower), ("print", .print), ("punct", .punct),
    ("space", .space), ("upper", .upper), ("word", .word), ("xdigit", .xdigit)]

/-- Reads a class between colons after its opening bracket, if there is one. -/
def namedClass? (cs : List Char) : Option (ClassSet × List Char) :=
  match cs with
  | ':' :: rest =>
    let (negated, rest) := match rest with
      | '^' :: more => (true, more)
      | more => (false, more)
    match rest.span (· != ':') with
    | (name, ':' :: ']' :: after) =>
      (classNames.lookup (String.ofList name)).map fun cls => (.namedClass negated cls, after)
    | _ => none
  | _ => none

/-- The hyphens at the start of a class, which stand for themselves. -/
def leadingHyphens (verbose : Bool) (cs : List Char) : List ClassSet × List Char :=
  let (hyphens, rest) := takeRun verbose false (· == '-') cs
  (hyphens.map fun c => .literal ⟨c, false⟩, rest)

/-- Reads the start of a class after its opening bracket: whether it is negated, the items that can stand only
here in reverse, and what follows. -/
def openClass? (verbose : Bool) (cs : List Char) : Option (Bool × List ClassSet × List Char) :=
  let rest := skip verbose cs
  let (negated, rest) := match rest with
    | '^' :: more => (true, skip verbose more)
    | more => (false, more)
  if rest.isEmpty then none
  else
    let (hyphens, rest) := leadingHyphens verbose rest
    match rest with
    | [] => none
    | ']' :: more =>
      if hyphens.isEmpty then
        let more := skip verbose more
        if more.isEmpty then none else some (negated, [.literal ⟨']', false⟩], more)
      else some (negated, hyphens.reverse, ']' :: more)
    | more => some (negated, hyphens.reverse, more)

/-- Reads one character or escape between brackets. -/
def classPrimitive? (verbose : Bool) : List Char → Option (Primitive × List Char)
  | [] => none
  | '\\' :: rest => escape? verbose rest
  | c :: rest => some (.plain c, rest)

/-- Reads a character, an escape or a range between brackets. -/
def classItem? (verbose : Bool) (cs : List Char) : Option (ClassSet × List Char) := do
  let (first, rest) ← classPrimitive? verbose cs
  match skip verbose rest with
  | [] => none
  | '-' :: more =>
    let next := peekAfterDash verbose more
    if next = some ']' ∨ next = some '-' then return (← first.toItem?, '-' :: more)
    else
      let more := skip verbose more
      if more.isEmpty then none
      else
        let (last, rest) ← classPrimitive? verbose more
        let first ← first.toLiteral?
        let last ← last.toLiteral?
        if first.char ≤ last.char then return (.range first last, rest) else none
  | rest => return (← first.toItem?, rest)

/-- Ends the operation that waits for its second set, if there is one. -/
def closeOp (stack : List ClassFrame) (right : ClassSet) : ClassSet × List ClassFrame :=
  match stack with
  | .op kind left :: rest => (.op kind left right, rest)
  | _ => (right, stack)

/-- The operation that two equal signs stand for. -/
def setOp? : Char → Char → Option SetOp
  | '&', '&' => some .inter
  | '-', '-' => some .diff
  | '~', '~' => some .symmDiff
  | _, _ => none

/-- Reads what stands between brackets, given what is open and the items so far in reverse. -/
def classLoop? (verbose : Bool) : Nat → List ClassFrame → List ClassSet → List Char →
    Option (Node × List Char)
  | 0, _, _, _ => none
  | fuel + 1, stack, items, cs =>
    match skip verbose cs with
    | [] => none
    | '[' :: rest =>
      match namedClass? rest with
      | some (item, rest) => classLoop? verbose fuel stack (item :: items) rest
      | none => do
        let (negated, inner, rest) ← openClass? verbose rest
        classLoop? verbose fuel (.bracket items negated :: stack) inner rest
    | ']' :: rest =>
      match closeOp stack (.ofItems items.reverse) with
      | (set, .bracket outer negated :: stack) =>
        if stack.isEmpty then some (.bracketed negated set, rest)
        else classLoop? verbose fuel stack (.bracketed negated set :: outer) rest
      | _ => none
    | c :: d :: rest =>
      match setOp? c d with
      | some kind =>
        let (left, stack) := closeOp stack (.ofItems items.reverse)
        classLoop? verbose fuel (.op kind left :: stack) [] rest
      | none => do
        let (item, rest) ← classItem? verbose (c :: d :: rest)
        classLoop? verbose fuel stack (item :: items) rest
    | [_] => none

/-- Reads a class after its opening bracket. -/
def bracketed? (verbose : Bool) (cs : List Char) : Option (Node × List Char) := do
  let (negated, inner, rest) ← openClass? verbose cs
  classLoop? verbose (cs.length + 1) [.bracket [] negated] inner rest

/-! ### Groups -/

/-- The flag that a letter stands for. -/
def flagOf? : Char → Option Flag
  | 'i' => some .ignoreCase
  | 'm' => some .multiLine
  | 's' => some .dotAll
  | 'U' => some .swapGreed
  | 'u' => some .unicode
  | 'R' => some .crlf
  | 'x' => some .verbose
  | _ => none

/-- Reads flags up to a colon or a closing parenthesis; the answer says whether it was a colon. No flag may be
repeated, and a minus must have a flag after it. -/
def flags? (change : FlagChange) (negated pending : Bool) : List Char → Option (FlagChange × Bool × List Char)
  | [] => none
  | c :: rest =>
    if c = ':' ∨ c = ')' then
      if pending then none else some (change, c == ':', rest)
    else if c = '-' then
      if negated then none else flags? change true true rest
    else do
      let flag ← flagOf? c
      if flag ∈ change.on ∨ flag ∈ change.off then none
      else
        let change : FlagChange :=
          if negated then { change with off := flag :: change.off } else { change with on := flag :: change.on }
        flags? change negated false rest

/-- Whether the character may stand in the name of a group. -/
def isNameChar (first : Bool) (c : Char) : Bool :=
  if first then c == '_' || Text.Property.alphabetic.contains c
  else c == '_' || c == '.' || c == '[' || c == ']' || Text.Property.alphanumeric.contains c

/-- Reads the name of a group up to its closing angle bracket. -/
def groupName? (cs : List Char) : Option (String × List Char) :=
  match cs.span (· != '>') with
  | (c :: name, '>' :: rest) =>
    if isNameChar true c && name.all (isNameChar false) then some (String.ofList (c :: name), rest) else none
  | _ => none

/-- What a parenthesis opens. -/
inductive Opening where
  | capture
  | named (name : String)
  | group (change : FlagChange)
  /-- Flags for the rest of the group around them. -/
  | flags (change : FlagChange)

/-- Reads what follows an opening parenthesis. There is no looking around. -/
def opening? (verbose : Bool) (cs : List Char) : Option (Opening × List Char) :=
  match skip verbose cs with
  | '?' :: '=' :: _ | '?' :: '!' :: _ | '?' :: '<' :: '=' :: _ | '?' :: '<' :: '!' :: _ => none
  | '?' :: 'P' :: '<' :: rest | '?' :: '<' :: rest =>
    (groupName? rest).map fun (name, rest) => (.named name, rest)
  | '?' :: rest => do
    let (change, isGroup, rest) ← flags? ⟨[], []⟩ false false rest
    if isGroup then return (.group change, rest)
    else if change.on.isEmpty && change.off.isEmpty then none
    else return (.flags change, rest)
  | rest => some (.capture, rest)

/-! ### The machine -/

/-- The parts of the branch that is being read and the branches before it, in reverse. -/
structure Level where
  parts : List Node
  branches : List Node

/-- The level at the start of a group. -/
def Level.start : Level := ⟨[], []⟩

/-- Adds a part. -/
def Level.push (level : Level) (node : Node) : Level := { level with parts := node :: level.parts }

/-- The whole level as one pattern. -/
def Level.toNode (level : Level) : Node :=
  .ofBranches (.ofParts level.parts.reverse :: level.branches).reverse

/-- A group that is still open: the level around it, its flags, and whether the pattern around it is verbose. A
capture has no flags. -/
structure OpenGroup where
  outer : Level
  change : Option FlagChange
  verbose : Bool

/-- The state of the machine. -/
structure State where
  level : Level
  stack : List OpenGroup
  verbose : Bool
  names : List String

/-- The state before the first character. -/
def State.start : State := ⟨.start, [], false, []⟩

/-- Adds a part to the innermost level. -/
def State.push (s : State) (node : Node) : State := { s with level := s.level.push node }

/-- Opens a group. -/
def State.openGroup (s : State) (change : Option FlagChange) : State :=
  { s with
    level := .start
    stack := ⟨s.level, change, s.verbose⟩ :: s.stack
    verbose := (change.bind (·.get? .verbose)).getD s.verbose }

/-- Closes the innermost group. -/
def State.closeGroup? (s : State) : Option State :=
  match s.stack with
  | [] => none
  | group :: rest =>
    let inner := s.level.toNode
    let node := match group.change with
      | some change => .group change inner
      | none => .capture inner
    some { s with level := group.outer.push node, stack := rest, verbose := group.verbose }

/-- Starts a new branch. -/
def State.branch (s : State) : State :=
  { s with level := ⟨[], .ofParts s.level.parts.reverse :: s.level.branches⟩ }

/-- Repeats the part that was read last. -/
def State.repeat? (s : State) (min : Nat) (max : Option Nat) : Option State :=
  match s.level.parts with
  | [] | .flags _ :: _ => none
  | node :: rest => some { s with level := { s.level with parts := .repetition min max node :: rest } }

/-- Passes over the sign that makes a repetition lazy. -/
def dropLazy : List Char → List Char
  | '?' :: rest => rest
  | rest => rest

/-- Reads the bounds of a repetition after its opening brace. -/
def bounds? (verbose : Bool) (cs : List Char) : Option (Nat × Option Nat × List Char) := do
  let (min, rest) ← decimal? verbose (skip verbose cs)
  match rest with
  | '\x7d' :: rest => return (min, some min, rest)
  | ',' :: rest =>
    match skip verbose rest with
    | '\x7d' :: rest => return (min, none, rest)
    | rest =>
      let (max, rest) ← decimal? verbose rest
      match rest with
      | '\x7d' :: rest => if min ≤ max then return (min, some max, rest) else none
      | _ => none
  | _ => none

/-- Takes the next part of a pattern, which starts with `c`. -/
def State.step (s : State) (c : Char) (rest : List Char) : Option (State × List Char) :=
  if c = '(' then do
    let (opening, rest) ← opening? s.verbose rest
    match opening with
    | .capture => return (s.openGroup none, rest)
    | .named name =>
      if name ∈ s.names then none else return ({ s with names := name :: s.names }.openGroup none, rest)
    | .group change => return (s.openGroup (some change), rest)
    | .flags change =>
      return ({ s with verbose := (change.get? .verbose).getD s.verbose }.push (.flags change), rest)
  else if c = ')' then s.closeGroup?.map fun s => (s, rest)
  else if c = '|' then some (s.branch, rest)
  else if c = '[' then do
    let (node, rest) ← bracketed? s.verbose rest
    return (s.push node, rest)
  else if c = '?' then (s.repeat? 0 (some 1)).map fun s => (s, dropLazy rest)
  else if c = '*' then (s.repeat? 0 none).map fun s => (s, dropLazy rest)
  else if c = '+' then (s.repeat? 1 none).map fun s => (s, dropLazy rest)
  else if c = '\x7b' then do
    let (min, max, rest) ← bounds? s.verbose rest
    return (← s.repeat? min max, dropLazy (skip s.verbose rest))
  else if c = '\\' then do
    let (primitive, rest) ← escape? s.verbose rest
    return (s.push primitive.toNode, rest)
  else if c = '.' then some (s.push .dot, rest)
  else if c = '^' then some (s.push (.anchor .lineStart), rest)
  else if c = '$' then some (s.push (.anchor .lineEnd), rest)
  else some (s.push (.literal ⟨c, false⟩), rest)

/-- Takes all parts of a pattern. -/
def State.run : Nat → State → List Char → Option State
  | fuel, s, cs =>
    match skip s.verbose cs, fuel with
    | [], _ => some s
    | _ :: _, 0 => none
    | c :: rest, fuel + 1 => do
      let (s, rest) ← s.step c rest
      State.run fuel s rest

/-- Parses a pattern, however deep it is nested. -/
def parseTree? (cs : List Char) : Option Node := do
  let s ← State.run cs.length .start cs
  if s.stack.isEmpty then return s.level.toNode else none

/-- Parses a pattern. -/
def parse? (cs : List Char) : Option Node := do
  let node ← parseTree? cs
  if node.depth ≤ maxDepth then return node else none

end AccessDecision.Pattern
