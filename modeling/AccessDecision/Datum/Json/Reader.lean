import AccessDecision.Datum.Json.Token

/-!
# Reading JSON

Tokens are read by a machine with a stack of open lists and objects (`Machine.step`), so reading is a fold over
the tokens.  A list or object nested deeper than `maxDepth` becomes `unreadable`: it may be skipped, not read.
-/

namespace AccessDecision.Datum.Json

/-- The deepest level at which a list or an object can still be read. -/
def maxDepth : Nat := 127

/-- A list or an object that is still open, with what it holds so far in reverse.  An object remembers whether all
its names could be read. -/
inductive Frame where
  | list (items : List Datum)
  | object (members : List (String × Datum)) (namesReadable : Bool)
  | member (members : List (String × Datum)) (namesReadable : Bool) (name : String)

/-- What may come next. -/
inductive Expect where
  /-- A value. -/
  | value
  /-- A value, or the end of the list that was just opened. -/
  | firstItem
  /-- A name, or the end of the object that was just opened. -/
  | firstName
  /-- A name. -/
  | name
  /-- The colon after a name. -/
  | colon
  /-- A comma or the end of the innermost list or object. -/
  | separator
  deriving DecidableEq

/-- The state of the reader: what is open, innermost first, what may come next, and the value once it is whole. -/
structure Machine where
  stack : List Frame
  expect : Expect
  result : Option Datum

/-- The state before the first token. -/
def Machine.start : Machine := ⟨[], .value, none⟩

/-- Puts a whole value where one was expected. -/
def Machine.push (stack : List Frame) (value : Datum) : Option Machine :=
  match stack with
  | [] => some ⟨[], .separator, some value⟩
  | .list items :: rest => some ⟨.list (value :: items) :: rest, .separator, none⟩
  | .member members readable name :: rest =>
    some ⟨.object ((name, value) :: members) readable :: rest, .separator, none⟩
  | .object _ _ :: _ => none

/-- Closes the innermost list or object, which stands inside of these. -/
def Frame.close (frame : Frame) (outer : List Frame) : Datum :=
  if !(outer.drop (maxDepth - 1)).isEmpty then .unreadable
  else match frame with
    | .list items => .list items.reverse
    | .object members readable => if readable then .object members.reverse else .unreadable
    | .member _ _ _ => .unreadable

/-- Takes one token. -/
def Machine.step (m : Machine) (token : Token) : Option Machine :=
  match m.expect, token, m.stack with
  | .firstItem, .listClose, frame :: rest => Machine.push rest (frame.close rest)
  | .value, .scalar value, stack | .firstItem, .scalar value, stack => Machine.push stack value
  | .value, .text value, stack | .firstItem, .text value, stack =>
    Machine.push stack ((value.map Datum.text).getD .unreadable)
  | .value, .listOpen, stack | .firstItem, .listOpen, stack => some ⟨.list [] :: stack, .firstItem, none⟩
  | .value, .objectOpen, stack | .firstItem, .objectOpen, stack =>
    some ⟨.object [] true :: stack, .firstName, none⟩
  | .firstName, .objectClose, frame :: rest => Machine.push rest (frame.close rest)
  | .firstName, .text name, .object members readable :: rest
  | .name, .text name, .object members readable :: rest =>
    some ⟨.member members (readable && name.isSome) (name.getD "") :: rest, .colon, none⟩
  | .colon, .colon, stack => some ⟨stack, .value, none⟩
  | .separator, .comma, .list items :: rest => some ⟨.list items :: rest, .value, none⟩
  | .separator, .comma, .object members readable :: rest => some ⟨.object members readable :: rest, .name, none⟩
  | .separator, .listClose, .list items :: rest =>
    Machine.push rest ((Frame.list items).close rest)
  | .separator, .objectClose, .object members readable :: rest =>
    Machine.push rest ((Frame.object members readable).close rest)
  | _, _, _ => none

/-- The tree that a row of tokens spells. -/
def ofTokens? (tokens : List Token) : Option Datum :=
  (tokens.foldlM Machine.step Machine.start).bind Machine.result

/-- Reads a JSON text. -/
def read? (text : String) : Option Datum :=
  (tokens? text.toList).bind ofTokens?

end AccessDecision.Datum.Json
