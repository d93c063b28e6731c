import AccessDecision.Condition.Basic
import AccessDecision.Form.Basic

/-!
# The written form of conditions

A condition is a tagged record: `type` is `apply`, `designator` or `value`, and the other fields depend on it.  The
arguments of a function may be left out, and are left out in writing when there are none.

Reading goes through the tree once (`form?`).  Before an object is known to be an application its members are
already read as lists of arguments, which keeps the recursion on the tree.
-/

namespace AccessDecision.Condition

/-- A part of a written condition: the tree itself, and the arguments that it spells as a list. -/
structure Part where
  datum : Datum
  args : Option (List Form)

/-- The kinds of written conditions. -/
inductive Kind where
  | apply
  | designator
  | value

/-- The tags of the kinds, in the order of their numbers. -/
def kinds : List (String × Kind) := [("apply", .apply), ("designator", .designator), ("value", .value)]

/-- The written condition of a kind, from its record without the tag. -/
def Form.ofShape (kind : Kind) (shape : Shape Part) : Option Form :=
  match kind with
  | .apply => do
    let [function, args] ← shape.slots .tagged ["function", "args"] | none
    return .apply (← function.required (·.datum.text?)) (← args.orElse Part.args [])
  | .designator => do
    let [attributeId] ← shape.slots .tagged ["attribute_id"] | none
    return .designator (← attributeId.required (·.datum.text?))
  | .value => do
    let [values] ← shape.slots .tagged ["values"] | none
    return .value (← values.required (texts? ·.datum))

/-- The written condition that a record spells. -/
def Form.ofTagged (dialect : Dialect) (shape : Shape Part) : Option Form := do
  let (tag, rest) ← shape.untag "type"
  Form.ofShape (← tag? dialect kinds tag.datum) rest

mutual

/-- Reads a written condition whose parts can all be read. -/
def form? (dialect : Dialect) : Datum → Option Form
  | .object members => Form.ofTagged dialect (.named (memberParts members))
  | .list items => Form.ofTagged dialect (.listed (itemParts items))
  | _ => none

/-- Reads a list of arguments. -/
def args? : Datum → Option (List Form)
  | .list items => forms? items
  | _ => none

/-- Reads each of several arguments. -/
def forms? : List Datum → Option (List Form)
  | [] => some []
  | item :: rest => do return (← form? .tagged item) :: (← forms? rest)

/-- The parts of an object. -/
def memberParts : List (String × Datum) → List (String × Part)
  | [] => []
  | (name, value) :: rest => (name, ⟨value, args? value⟩) :: memberParts rest

/-- The parts of a list. -/
def itemParts : List Datum → List Part
  | [] => []
  | item :: rest => ⟨item, args? item⟩ :: itemParts rest

end

/-- Reads a condition. -/
def ofDatum? (dialect : Dialect) (d : Datum) : Option Condition :=
  if d.isReadable then (form? dialect d).map ofForm else none

mutual

/-- Writes a form. -/
def formDatum : Form → Datum
  | .apply function [] => .object [("type", .text "apply"), ("function", .text function)]
  | .apply function (arg :: rest) =>
    .object [("type", .text "apply"), ("function", .text function),
      ("args", .list (formDatum arg :: formData rest))]
  | .designator attributeId => .object [("type", .text "designator"), ("attribute_id", .text attributeId)]
  | .value values => .object [("type", .text "value"), ("values", textsDatum values)]

/-- Writes each of several forms. -/
def formData : List Form → List Datum
  | [] => []
  | arg :: rest => formDatum arg :: formData rest

end

/-- Writes a condition. -/
def toDatum (c : Condition) : Datum := formDatum (toForm c)

end AccessDecision.Condition
