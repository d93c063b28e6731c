import AccessDecision.Datum.Toml.Scalar

/-!
# Tokens of a TOML text

The text is cut into tokens by an automaton that takes one character at a time (`Lexer.step`), so cutting a text
is a fold over its characters.

* A line ends with a line feed, before which a carriage return may stand; `plainLines?` drops it and refuses every
  other carriage return.
* A word is whatever is written without quotes: a bare key, also a dotted one, or a bare value.
* Comments leave no token.  Blanks do, because the brackets of a header must touch.
-/

namespace AccessDecision.Datum.Toml

/-- A token of a TOML text. -/
inductive Token where
  | blank
  | newline
  | equals
  | comma
  | listOpen
  | listClose
  | tableOpen
  | tableClose
  | word (chars : List Char)
  /-- A text, and whether it is in the form that may run over several lines. -/
  | text (value : String) (multiline : Bool)
  deriving Inhabited, Repr

/-- The characters with a line feed alone at each end of a line; a carriage return anywhere else is refused. -/
def plainLines? : List Char → Option (List Char)
  | [] => some []
  | '\r' :: '\n' :: rest => (plainLines? rest).map ('\n' :: ·)
  | c :: rest => if c = '\r' then none else (plainLines? rest).map (c :: ·)

/-- Which marks a text stands between: the character, and whether there are three of them at each end. -/
structure Quoting where
  mark : Char
  multiline : Bool

/-- Where the lexer stands in a text. -/
inductive Phase where
  | plain
  /-- Behind the opening marks, where a line feed is dropped. -/
  | opened
  /-- Behind this many marks in a row, in a text that ends with three. -/
  | marks (count : Nat)
  /-- Behind a backslash. -/
  | escape
  /-- In the number of an escaped character. -/
  | hex (left value : Nat)
  /-- Behind a backslash and blanks, where only the end of the line may follow. -/
  | lineEscape
  /-- Behind an escaped end of a line, where all white space is dropped. -/
  | skipping

/-- What the lexer is in the middle of; characters are kept in reverse. -/
inductive Mode where
  | between
  | word (seen : List Char)
  /-- Behind a date and one space, where a time may follow. -/
  | date (seen : List Char)
  | comment
  /-- Behind one opening mark, or behind two. -/
  | opening (mark : Char) (second : Bool)
  | text (quoting : Quoting) (phase : Phase) (seen : List Char)

/-- The state of the lexer: its mode and the tokens cut so far, in reverse. -/
structure Lexer where
  mode : Mode
  tokens : List Token

/-- Whether the character is a blank. -/
def isBlank (c : Char) : Bool := c == ' ' || c == '\t'

/-- Whether the character may stand in a word. -/
def isWordChar (c : Char) : Bool :=
  c.isAlphanum || c == '_' || c == '-' || c == '+' || c == '.' || c == ':'

/-- Whether the character may stand in a comment, and as itself in a text. -/
def isPrintable (c : Char) : Bool := c == '\t' || (0x20 ≤ c.toNat && c.toNat != 0x7F)

/-- The character that a one-letter escape stands for. -/
def escaped? : Char → Option Char
  | 'b' => some '\x08'
  | 't' => some '\t'
  | 'n' => some '\n'
  | 'f' => some '\x0c'
  | 'r' => some '\r'
  | '"' => some '"'
  | '\\' => some '\\'
  | _ => none

/-- The character with a number, if there is one. -/
def charOf? (n : Nat) : Option Char := if n.isValidChar then some (Char.ofNat n) else none

namespace Lexer

/-- Takes a character that stands between tokens. -/
def begin (tokens : List Token) (c : Char) : Option Lexer :=
  match c with
  | ' ' | '\t' => some ⟨.between, .blank :: tokens⟩
  | '\n' => some ⟨.between, .newline :: tokens⟩
  | '=' => some ⟨.between, .equals :: tokens⟩
  | ',' => some ⟨.between, .comma :: tokens⟩
  | '[' => some ⟨.between, .listOpen :: tokens⟩
  | ']' => some ⟨.between, .listClose :: tokens⟩
  | '\x7b' => some ⟨.between, .tableOpen :: tokens⟩
  | '\x7d' => some ⟨.between, .tableClose :: tokens⟩
  | '#' => some ⟨.comment, tokens⟩
  | '"' | '\'' => some ⟨.opening c false, tokens⟩
  | _ => if isWordChar c then some ⟨.word [c], tokens⟩ else none

/-- The token of a text that has ended. -/
def textToken (quoting : Quoting) (seen : List Char) : Token :=
  .text (String.ofList seen.reverse) quoting.multiline

/-- Takes a character of a text that stands for itself, starts an escape or ends the text. -/
def textStep (tokens : List Token) (quoting : Quoting) (seen : List Char) (c : Char) : Option Lexer :=
  if c = quoting.mark then
    if quoting.multiline then some ⟨.text quoting (.marks 1) seen, tokens⟩
    else some ⟨.between, textToken quoting seen :: tokens⟩
  else if c = '\\' ∧ quoting.mark = '"' then some ⟨.text quoting .escape seen, tokens⟩
  else if isPrintable c || (c == '\n' && quoting.multiline) then
    some ⟨.text quoting .plain (c :: seen), tokens⟩
  else none

/-- Takes the character behind a backslash. -/
def escapeStep (tokens : List Token) (quoting : Quoting) (seen : List Char) (c : Char) : Option Lexer :=
  if c = 'u' then some ⟨.text quoting (.hex 4 0) seen, tokens⟩
  else if c = 'U' then some ⟨.text quoting (.hex 8 0) seen, tokens⟩
  else if quoting.multiline ∧ c = '\n' then some ⟨.text quoting .skipping seen, tokens⟩
  else if quoting.multiline ∧ isBlank c then some ⟨.text quoting .lineEscape seen, tokens⟩
  else (escaped? c).map fun e => ⟨.text quoting .plain (e :: seen), tokens⟩

/-- Takes a character of a text. -/
def phaseStep (tokens : List Token) (quoting : Quoting) (seen : List Char) (c : Char) :
    Phase → Option Lexer
  | .plain => textStep tokens quoting seen c
  | .opened =>
    if c = '\n' then some ⟨.text quoting .plain seen, tokens⟩ else textStep tokens quoting seen c
  | .marks count =>
    if c = quoting.mark then
      if count < 5 then some ⟨.text quoting (.marks (count + 1)) seen, tokens⟩ else none
    else if count < 3 then textStep tokens quoting (List.replicate count quoting.mark ++ seen) c
    else begin (textToken quoting (List.replicate (count - 3) quoting.mark ++ seen) :: tokens) c
  | .escape => escapeStep tokens quoting seen c
  | .hex left value => do
    let value := 16 * value + (← Json.hexValue? c)
    if left ≤ 1 then return ⟨.text quoting .plain ((← charOf? value) :: seen), tokens⟩
    else return ⟨.text quoting (.hex (left - 1) value) seen, tokens⟩
  | .lineEscape =>
    if c = '\n' then some ⟨.text quoting .skipping seen, tokens⟩
    else if isBlank c then some ⟨.text quoting .lineEscape seen, tokens⟩
    else none
  | .skipping =>
    if isBlank c || c == '\n' then some ⟨.text quoting .skipping seen, tokens⟩
    else textStep tokens quoting seen c

/-- Takes one character. -/
def step (state : Lexer) (c : Char) : Option Lexer :=
  match state.mode with
  | .between => begin state.tokens c
  | .word seen =>
    if isWordChar c then some ⟨.word (c :: seen), state.tokens⟩
    else if c = ' ' ∧ isDate seen.reverse then some ⟨.date seen, state.tokens⟩
    else begin (.word seen.reverse :: state.tokens) c
  | .date seen =>
    if c.isDigit then some ⟨.word (c :: ' ' :: seen), state.tokens⟩
    else begin (.blank :: .word seen.reverse :: state.tokens) c
  | .comment =>
    if c = '\n' then some ⟨.between, .newline :: state.tokens⟩
    else if isPrintable c then some state
    else none
  | .opening mark false =>
    if c = mark then some ⟨.opening mark true, state.tokens⟩
    else textStep state.tokens ⟨mark, false⟩ [] c
  | .opening mark true =>
    if c = mark then some ⟨.text ⟨mark, true⟩ .opened [], state.tokens⟩
    else begin (.text "" false :: state.tokens) c
  | .text quoting phase seen => phaseStep state.tokens quoting seen c phase

/-- Ends the text: no quoted text may be open. -/
def finish (state : Lexer) : Option (List Token) :=
  match state.mode with
  | .between | .comment => some state.tokens.reverse
  | .word seen | .date seen => some (.word seen.reverse :: state.tokens).reverse
  | .opening _ true => some (.text "" false :: state.tokens).reverse
  | .text quoting (.marks count) seen =>
    if count < 3 then none
    else some (textToken quoting (List.replicate (count - 3) quoting.mark ++ seen) :: state.tokens).reverse
  | _ => none

end Lexer

/-- Cuts a text into tokens. -/
def tokens? (cs : List Char) : Option (List Token) := do
  ((← plainLines? cs).foldlM Lexer.step ⟨.between, []⟩).bind Lexer.finish

end AccessDecision.Datum.Toml
