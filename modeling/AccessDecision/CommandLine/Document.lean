import AccessDecision.Datum.Json.Reader
import AccessDecision.Datum.Toml.Reader
import AccessDecision.Form.Policy
import AccessDecision.Settings.Load

/-!
# Policy documents in files

A file whose name has the extension `toml`, in any case of its letters, holds TOML; any other file holds JSON.
-/

namespace AccessDecision

/-- The two ways to write a document. -/
inductive DocumentFormat where
  | json
  | toml
  deriving DecidableEq, Repr

/-- The name of a format. -/
def DocumentFormat.name : DocumentFormat → String
  | json => "JSON"
  | toml => "TOML"

/-- Reads a document tree. -/
def DocumentFormat.read? : DocumentFormat → String → Option Datum
  | json, text => Datum.Json.read? text
  | toml, text => Datum.Toml.read? text

/-- What the format accepts in records. -/
def DocumentFormat.dialect : DocumentFormat → Dialect
  | json => .json
  | toml => .toml

/-- Reads a policy document. -/
def PolicyDocument.read? (format : DocumentFormat) (text : String) : Option PolicyDocument :=
  (format.read? text).bind (PolicyDocument.ofDatum? format.dialect)

/-- What stands behind the last slash of a path. -/
def fileName (path : String) : List Char :=
  (path.toList.reverse.takeWhile (· != '/')).reverse

/-- What stands behind the last dot of a file name. A dot at its start does not begin an extension. -/
def extension? (name : List Char) : Option (List Char) :=
  match name.reverse.span (· != '.') with
  | (_, []) | (_, [_]) => none
  | (reversed, _ :: _ :: _) => some reversed.reverse

/-- The format of the file at a path. -/
def DocumentFormat.ofPath (path : String) : DocumentFormat :=
  if (extension? (fileName path)).any (fun ext => ext.map Char.toLower == ['t', 'o', 'm', 'l']) then toml
  else json

/-- Why a file yields no policy document. -/
inductive DocumentError where
  | unreadable (path : String)
  | malformed (format : DocumentFormat) (path : String)
  deriving DecidableEq, Repr

/-- The error in words. What the file system or the parser says is the cause of it and stands apart; it is left
out. -/
def DocumentError.message : DocumentError → String
  | unreadable path => s!"failed to read policy document {path}"
  | malformed format path => s!"failed to parse {format.name} policy document {path}"

/-- The policy document of the file at a path. -/
def PolicyDocument.load (path : String) (entry : FileEntry) : Except DocumentError PolicyDocument :=
  match entry.text? with
  | none => .error (.unreadable path)
  | some text =>
    let format := DocumentFormat.ofPath path
    match PolicyDocument.read? format text with
    | some document => .ok document
    | none => .error (.malformed format path)

end AccessDecision
