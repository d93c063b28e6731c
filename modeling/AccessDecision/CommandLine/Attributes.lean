import AccessDecision.Principal
import AccessDecision.Text.Blank

/-!
# Attributes on the command line

An attribute is given as `NAME=VALUE`.  The name is trimmed and must not be blank; the value is everything behind
the first equals sign.  Repeating a name adds a value to its attribute.
-/

namespace AccessDecision

/-- Why a text is no attribute. -/
inductive AttributeError where
  | noEqualsSign (text : String)
  | blankName (text : String)
  deriving DecidableEq, Repr

/-- The error in words. -/
def AttributeError.message : AttributeError → String
  | noEqualsSign text => s!"invalid attribute '{text}', expected NAME=VALUE"
  | blankName text => s!"invalid attribute '{text}', name is empty"

/-- The name and the value of an attribute. -/
def assignment (text : String) : Except AttributeError (String × String) :=
  match Text.splitAt? '=' text with
  | none => .error (.noEqualsSign text)
  | some (name, value) =>
    let name := Text.trim name
    if name.isEmpty then .error (.blankName text) else .ok (name, value)

/-- A principal with further attributes. -/
def SessionPrincipal.assign (principal : SessionPrincipal) (text : String) :
    Except AttributeError SessionPrincipal := do
  let (name, value) ← assignment text
  return principal.addValues name [value]

/-- The principal of a subject with the attributes given on the command line. -/
def SessionPrincipal.ofAssignments (subject : String) (texts : List String) :
    Except AttributeError SessionPrincipal :=
  texts.foldlM SessionPrincipal.assign (.new subject ("cli-" ++ subject))

end AccessDecision
