import AccessDecision.Text.CharSet
import AccessDecision.Text.Property.Age
import AccessDecision.Text.Property.Binary
import AccessDecision.Text.Property.Category
import AccessDecision.Text.Property.Script
import AccessDecision.Text.Property.ScriptExtension
import AccessDecision.Text.Property.Segmentation

/-!
# Looking up Unicode properties

`named?` finds the characters that a single name stands for, which is tried as a binary property, a general
category and a script in this order.  `valued?` finds the characters for which a property has a value. The tables
are those of Unicode 17.0, as are the case mappings and foldings.

Names are compared loosely: without regard to case, blanks, hyphens and underscores, and a leading `is` does not
count.
-/

namespace AccessDecision.Text.Property

/-- What remains of a character in a name that is compared loosely. -/
def looseChar? (c : Char) : Option Char :=
  if c == ' ' || c == '_' || c == '-' || 0x80 ≤ c.toNat then none else some c.toLower

/-- A name in the form in which names are compared. A lone `c` after `is` is not the category of that name. -/
def loose (name : String) : String :=
  match name.toList with
  | i :: s :: rest =>
    if i.toLower = 'i' ∧ s.toLower = 's' then
      let kept := rest.filterMap looseChar?
      if kept = ['c'] then "isc" else String.ofList kept
    else String.ofList ((i :: s :: rest).filterMap looseChar?)
  | short => String.ofList (short.filterMap looseChar?)

/-- The characters listed under a name that is in loose form. -/
def find? (table : List (List String × String)) (name : String) : Option CharSet :=
  (table.find? (·.1.contains name)).map fun entry => CharSet.ofGaps entry.2

/-- The characters of a general category, or of a group of them. -/
def category? (name : String) : Option CharSet :=
  if name = "any" then some CharSet.all
  else if name = "ascii" then some (CharSet.range 0 0x7F)
  else if name = "assigned" then (find? categories "cn").map CharSet.compl
  else match categoryGroups.find? (·.1.contains name) with
    | some (_, members) => some (CharSet.unionAll (members.filterMap (find? categories)))
    | none => find? categories name

/-- The characters of a script. -/
def script? (name : String) : Option CharSet := find? scripts name

/-- The characters of a script and those that are used with it. -/
def scriptExtension? (name : String) : Option CharSet :=
  (find? scriptExtensions name).orElse fun _ => script? name

/-- The characters that were assigned in a version or before it. -/
def age? (name : String) : Option CharSet :=
  if ages.any (·.1.contains name) then
    let older := ages.takeWhile (!·.1.contains name)
    let this := ages.filter (·.1.contains name)
    some (CharSet.unionAll ((older ++ this).map fun entry => CharSet.ofGaps entry.2))
  else none

/-- The characters that a single name stands for. Three short names are those of general categories although they
also abbreviate other properties, which have no set of characters. -/
def named? (name : String) : Option CharSet :=
  let name := loose name
  (find? binaryProperties name).orElse fun _ =>
    (category? name).orElse fun _ => script? name

/-- The characters for which a property has a value. -/
def valued? (property value : String) : Option CharSet :=
  let property := loose property
  let value := loose value
  if property = "gc" ∨ property = "generalcategory" then category? value
  else if property = "sc" ∨ property = "script" then script? value
  else if property = "scx" ∨ property = "scriptextensions" then scriptExtension? value
  else if property = "age" then age? value
  else if property = "gcb" ∨ property = "graphemeclusterbreak" then find? graphemeBreaks value
  else if property = "wb" ∨ property = "wordbreak" then find? wordBreaks value
  else if property = "sb" ∨ property = "sentencebreak" then find? sentenceBreaks value
  else none

/-- Decimal digits. -/
def decimal : CharSet := (category? "nd").getD CharSet.empty

/-- White space. -/
def space : CharSet := (find? binaryProperties "whitespace").getD CharSet.empty

/-- Letters and what counts as one. -/
def alphabetic : CharSet := (find? binaryProperties "alphabetic").getD CharSet.empty

/-- Characters of words: letters, marks, decimal digits, connecting punctuation and joiners. -/
def word : CharSet :=
  CharSet.unionAll ([some alphabetic, category? "m", some decimal, category? "pc",
    find? binaryProperties "joincontrol"].filterMap id)

/-- Letters and numbers of any kind. -/
def alphanumeric : CharSet := CharSet.union alphabetic ((category? "n").getD CharSet.empty)

end AccessDecision.Text.Property
