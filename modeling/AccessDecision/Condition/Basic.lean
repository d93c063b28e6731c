/-!
# Conditions

A rule's condition is a tree of functions over the attributes of a principal.  Policy documents name functions by
id; `Condition.ofFunction` maps an id to the kind of node it stands for.  An id that is not known gives an
`unrecognized` node, which has no value: a connective that comes to it ends there and is false, a comparison that
has it as an argument is malformed, and so is a condition that is nothing else.  Whether this keeps the condition
from becoming true depends on what stands around it: a negation turns the false connective into a true one.

`Condition.Form` is the shape in which a document writes a condition: any function applied to any arguments.
-/

namespace AccessDecision

/-- A boolean connective over child functions. -/
inductive Connective where
  | and
  | or
  /-- True when no argument is true, so with several arguments it is their joint denial. -/
  | not
  deriving DecidableEq, Repr

/-- The function id of a connective. -/
def Connective.id : Connective → String
  | and => "and"
  | or => "or"
  | not => "not"

/-- A test of attribute values against the values that a condition lists. -/
inductive Comparison where
  /-- The value equals a listed one. -/
  | equal
  /-- The whole value matches a listed regular expression. -/
  | regex
  deriving DecidableEq, Repr

/-- The function id of a comparison. -/
def Comparison.id : Comparison → String
  | equal => "string-equal"
  | regex => "string-regex-match"

/-- A change made to attribute values before they are compared. -/
inductive Normalizer where
  | lowercase
  /-- Blank characters are stripped at both ends, and only there. -/
  | trimEdges
  deriving DecidableEq, Repr

/-- The function id of a normalizer. -/
def Normalizer.id : Normalizer → String
  | lowercase => "string-normalize-to-lower-case"
  | trimEdges => "string-normalize-space"

/-- A node of a rule's condition. -/
inductive Condition where
  | combine (op : Connective) (args : List Condition)
  | compare (test : Comparison) (args : List Condition)
  /-- It has a meaning only as an argument of a comparison. -/
  | normalizer (change : Normalizer)
  | designator (attributeId : String)
  | literal (values : List String)
  | unrecognized (function : String)
  deriving Inhabited, Repr

namespace Condition

/-- The second function id of a regular expression test, accepted in documents and never written. -/
def regexAlias : String := "string-regex"

/-- The node that a function id stands for. Normalizers and unknown functions take no arguments: theirs are
dropped. -/
def ofFunction (function : String) (args : List Condition) : Condition :=
  if function = Connective.and.id then combine .and args
  else if function = Connective.or.id then combine .or args
  else if function = Connective.not.id then combine .not args
  else if function = Comparison.equal.id then compare .equal args
  else if function = Comparison.regex.id ∨ function = regexAlias then compare .regex args
  else if function = Normalizer.lowercase.id then normalizer .lowercase
  else if function = Normalizer.trimEdges.id then normalizer .trimEdges
  else unrecognized function

/-- The function id of a node, if it is a function. -/
def functionId? : Condition → Option String
  | combine op _ => some op.id
  | compare test _ => some test.id
  | normalizer change => some change.id
  | unrecognized function => some function
  | designator _ | literal _ => none

/-- A short description of a node, as error messages give it. It never shows listed values. -/
def describe : Condition → String
  | combine op _ => s!"function '{op.id}'"
  | compare test _ => s!"function '{test.id}'"
  | normalizer change => s!"normalizer '{change.id}'"
  | designator attributeId => s!"attribute designator '{attributeId}'"
  | literal _ => "attribute value"
  | unrecognized function => s!"unrecognized function '{function}'"

mutual

/-- The ids of all unknown functions in a condition, from left to right. -/
def unrecognizedIds : Condition → List String
  | combine _ args | compare _ args => unrecognizedIdsOf args
  | unrecognized function => [function]
  | normalizer _ | designator _ | literal _ => []

/-- The ids of all unknown functions in a row of conditions. -/
def unrecognizedIdsOf : List Condition → List String
  | [] => []
  | arg :: rest => unrecognizedIds arg ++ unrecognizedIdsOf rest

end

/-- A condition as a document writes it. -/
inductive Form where
  | apply (function : String) (args : List Form)
  | designator (attributeId : String)
  | value (values : List String)
  deriving Inhabited, Repr

mutual

/-- The condition that a written form stands for. -/
def ofForm : Form → Condition
  | .apply function args => ofFunction function (ofForms args)
  | .designator attributeId => .designator attributeId
  | .value values => .literal values

/-- The conditions that written forms stand for. -/
def ofForms : List Form → List Condition
  | [] => []
  | arg :: rest => ofForm arg :: ofForms rest

end

mutual

/-- The written form of a condition. -/
def toForm : Condition → Form
  | combine op args => .apply op.id (toForms args)
  | compare test args => .apply test.id (toForms args)
  | normalizer change => .apply change.id []
  | unrecognized function => .apply function []
  | designator attributeId => .designator attributeId
  | literal values => .value values

/-- The written forms of a row of conditions. -/
def toForms : List Condition → List Form
  | [] => []
  | arg :: rest => toForm arg :: toForms rest

end

end Condition

end AccessDecision
