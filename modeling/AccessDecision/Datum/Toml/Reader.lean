import AccessDecision.Datum.Toml.Table
import AccessDecision.Datum.Toml.Token

/-!
# Reading TOML

Tokens are read by a machine with a stack of open lists and tables (`Machine.step`), so reading is a fold over
the tokens.  Lists and tables between braces must not be nested as deep as `nestingLimit`, and a dotted key must
not have that many parts.
-/

namespace AccessDecision.Datum.Toml

/-- The least depth of nesting, and the least length of a dotted key, that is refused. -/
def nestingLimit : Nat := 80

/-! ### Keys -/

/-- A key: the path to a table, and a name in it. -/
structure Key where
  path : List String
  name : String
  deriving Repr

/-- A key that is being read: its parts in reverse, and whether another part is due. -/
structure KeyReader where
  parts : List String
  isDue : Bool
  deriving Repr

namespace KeyReader

/-- Before the first part. -/
def start : KeyReader := ⟨[], true⟩

/-- Takes a part. -/
def part (key : KeyReader) (name : String) : Option KeyReader :=
  if key.isDue then some ⟨name :: key.parts, false⟩ else none

/-- Takes a dot. -/
def dot (key : KeyReader) : Option KeyReader :=
  if key.isDue then none else some { key with isDue := true }

/-- Whether the character may stand in a part without quotes. -/
def isBare (c : Char) : Bool := c.isAlphanum || c == '_' || c == '-'

/-- Takes what stands between the dots of a word; at its ends there may be nothing. -/
def bare (key : KeyReader) (chars : List Char) : Option KeyReader :=
  if chars.isEmpty then some key
  else if chars.all isBare then key.part (String.ofList chars)
  else none

/-- Takes a word: parts with dots between them. -/
def word (key : KeyReader) (chars : List Char) : Option KeyReader :=
  match chars.splitOn '.' with
  | [] => some key
  | first :: rest => do
    rest.foldlM (fun key chars => do (← key.dot).bare chars) (← key.bare first)

/-- Takes a token that is a part of a key. -/
def token (key : KeyReader) : Token → Option KeyReader
  | .blank => some key
  | .word chars => key.word chars
  | .text value false => key.part value
  | _ => none

/-- The key that was read. -/
def finish (key : KeyReader) : Option Key :=
  if key.isDue || nestingLimit ≤ key.parts.length then none
  else match key.parts with
    | [] => none
    | name :: path => some ⟨path.reverse, name⟩

end KeyReader

/-! ### The machine -/

/-- What is still open. -/
inductive Frame where
  /-- A key that waits for its value. -/
  | member (key : Key)
  /-- A list with its items so far, in reverse. -/
  | list (items : List Datum)
  /-- A table between braces. -/
  | braces (members : Members)

/-- Whether the frame is a list or a table. -/
def Frame.isContainer : Frame → Bool
  | .member _ => false
  | _ => true

/-- What may come next. -/
inductive Expect where
  /-- A key, a header or nothing, on a line of the document. -/
  | line
  /-- The rest of a header behind its first bracket. -/
  | headerOpen
  /-- A header's key and its closing bracket. -/
  | header (isDouble : Bool) (key : KeyReader)
  /-- The second closing bracket of a header. -/
  | headerClose (key : Key)
  /-- The end of a line. -/
  | lineEnd
  /-- A key and an equals sign. -/
  | key (key : KeyReader)
  /-- A value on the same line. -/
  | value
  /-- An item or the end of a list. -/
  | item
  /-- A comma or the end of a list. -/
  | itemEnd
  /-- A key or the end of a table between braces. -/
  | firstMember
  /-- A key of a table between braces. -/
  | nextMember
  /-- A comma or the end of a table between braces. -/
  | memberEnd

/-- The state of the reader: the document so far, the path of the last header, what is open, innermost first, and
what may come next. -/
structure Machine where
  document : Members
  header : List String
  stack : List Frame
  expect : Expect

namespace Machine

/-- The state before the first token. -/
def start : Machine := ⟨[], [], [], .line⟩

/-- Puts a whole value where one was expected. -/
def push (m : Machine) (value : Datum) : List Frame → Option Machine
  | [.member key] => do
    let document ← m.document.modify (fun members => members.insert key.name value key.path) m.header
    return { m with document := document, stack := [], expect := .lineEnd }
  | .member key :: .braces members :: rest => do
    return { m with stack := .braces (← members.insert key.name value key.path) :: rest, expect := .memberEnd }
  | .list items :: rest => some { m with stack := .list (value :: items) :: rest, expect := .itemEnd }
  | _ => none

/-- Opens a list or a table between braces, unless it is nested too deep. -/
def opening (m : Machine) (frame : Frame) (expect : Expect) : Option Machine :=
  if (m.stack.countP Frame.isContainer) + 1 < nestingLimit then
    some { m with stack := frame :: m.stack, expect := expect }
  else none

/-- Takes the first token of a value. -/
def valueStep (m : Machine) : Token → Option Machine
  | .word chars => (scalar? chars).bind (m.push · m.stack)
  | .text value _ => m.push (.text value) m.stack
  | .listOpen => m.opening (.list []) .item
  | .tableOpen => m.opening (.braces []) .firstMember
  | _ => none

/-- Closes the innermost list or table. -/
def close (m : Machine) : Option Machine :=
  match m.stack with
  | .list items :: rest => m.push (.list items.reverse) rest
  | .braces members :: rest => m.push members.toDatum rest
  | _ => none

/-- Takes a token of a key, or the equals sign behind it. -/
def keyStep (m : Machine) (key : KeyReader) : Token → Option Machine
  | .equals => do return { m with stack := .member (← key.finish) :: m.stack, expect := .value }
  | token => do return { m with expect := .key (← key.token token) }

/-- Opens the table of a header. -/
def openTable (m : Machine) (key : Key) : Option Machine := do
  let document ← m.document.modify (Members.declare key.name) key.path
  return { m with document := document, header := key.path ++ [key.name], expect := .lineEnd }

/-- Opens the next of a row of tables. -/
def openNextTable (m : Machine) (key : Key) : Option Machine := do
  let document ← m.document.modify (Members.declareNext key.name) key.path
  return { m with document := document, header := key.path ++ [key.name], expect := .lineEnd }

/-- Takes one token. -/
def step (m : Machine) (token : Token) : Option Machine :=
  match m.expect, token with
  | .line, .blank | .line, .newline => some m
  | .line, .listOpen => some { m with expect := .headerOpen }
  | .line, token => m.keyStep .start token
  | .headerOpen, .listOpen => some { m with expect := .header true .start }
  | .headerOpen, token => do return { m with expect := .header false (← KeyReader.start.token token) }
  | .header false key, .listClose => key.finish.bind m.openTable
  | .header true key, .listClose => do return { m with expect := .headerClose (← key.finish) }
  | .header isDouble key, token => do return { m with expect := .header isDouble (← key.token token) }
  | .headerClose key, .listClose => m.openNextTable key
  | .headerClose _, _ => none
  | .lineEnd, .blank => some m
  | .lineEnd, .newline => some { m with expect := .line }
  | .lineEnd, _ => none
  | .key key, token => m.keyStep key token
  | .value, .blank => some m
  | .value, token => m.valueStep token
  | .item, .blank | .item, .newline | .itemEnd, .blank | .itemEnd, .newline => some m
  | .item, .listClose | .itemEnd, .listClose => m.close
  | .item, token => m.valueStep token
  | .itemEnd, .comma => some { m with expect := .item }
  | .itemEnd, _ => none
  | .firstMember, .blank | .nextMember, .blank | .memberEnd, .blank => some m
  | .firstMember, .tableClose | .memberEnd, .tableClose => m.close
  | .memberEnd, .comma => some { m with expect := .nextMember }
  | .memberEnd, _ => none
  | .firstMember, token | .nextMember, token => m.keyStep .start token

/-- The document, if it ends where a line may end. -/
def finish (m : Machine) : Option Datum :=
  match m.expect with
  | .line | .lineEnd => some m.document.toDatum
  | _ => none

end Machine

/-- The tree that a row of tokens spells. -/
def ofTokens? (tokens : List Token) : Option Datum :=
  (tokens.foldlM Machine.step Machine.start).bind Machine.finish

/-- The characters without the mark that may stand before a text. -/
def withoutMark : List Char → List Char
  | '\ufeff' :: rest => rest
  | cs => cs

/-- Reads a TOML text. -/
def read? (text : String) : Option Datum :=
  (tokens? (withoutMark text.toList)).bind ofTokens?

end AccessDecision.Datum.Toml
