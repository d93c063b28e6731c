/-!
# Datum — the tree a document text is read into

JSON and TOML texts are both read into a `Datum`, and records are read from there.

* Members of an object keep their order and their repetitions: whoever reads a record refuses a repeated field,
  whoever reads a map keeps the last one.
* Numbers matter only as naturals, so any other number is `number`, without its value.
* `unreadable` stands for a part that obeys the grammar but cannot be read as a value, such as a text with half a
  surrogate pair.  It does no harm in a field that is skipped and is refused wherever it is read.
-/

namespace AccessDecision

/-- A document tree. -/
inductive Datum where
  | null
  | bool (value : Bool)
  | natural (value : Nat)
  | number
  | text (value : String)
  | list (items : List Datum)
  | object (members : List (String × Datum))
  | unreadable
  deriving Inhabited, Repr

namespace Datum

/-- The items of a list. -/
def items? : Datum → Option (List Datum)
  | list items => some items
  | _ => none

/-- The members of an object. -/
def members? : Datum → Option (List (String × Datum))
  | object members => some members
  | _ => none

/-- The characters of a text. -/
def text? : Datum → Option String
  | text value => some value
  | _ => none

mutual

/-- Whether every part of the tree can be read. -/
def isReadable : Datum → Bool
  | unreadable => false
  | list items => itemsReadable items
  | object members => membersReadable members
  | _ => true

/-- Whether every item of a list can be read. -/
def itemsReadable : List Datum → Bool
  | [] => true
  | item :: rest => isReadable item && itemsReadable rest

/-- Whether every member of an object can be read. -/
def membersReadable : List (String × Datum) → Bool
  | [] => true
  | (_, value) :: rest => isReadable value && membersReadable rest

end

/-- The values listed under a name, in order. -/
def valuesOf (name : String) (members : List (String × Datum)) : List Datum :=
  (members.filter (·.1 == name)).map (·.2)

/-- The members with repeated names reduced to the last one, which stands where the first one stood. -/
def keepLast (members : List (String × Datum)) : List (String × Datum) :=
  members.foldl (fun kept (name, value) =>
    if kept.any (·.1 == name) then
      kept.map fun entry => if entry.1 == name then (name, value) else entry
    else kept ++ [(name, value)]) []

mutual

/-- The tree in which no object repeats a name: the last member of a name wins, at every depth. -/
def withoutRepeats : Datum → Datum
  | list items => list (itemsWithoutRepeats items)
  | object members => object (keepLast (membersWithoutRepeats members))
  | other => other

/-- The items of a list, each without repeats. -/
def itemsWithoutRepeats : List Datum → List Datum
  | [] => []
  | item :: rest => withoutRepeats item :: itemsWithoutRepeats rest

/-- The members of an object, each value without repeats. -/
def membersWithoutRepeats : List (String × Datum) → List (String × Datum)
  | [] => []
  | (name, value) :: rest => (name, withoutRepeats value) :: membersWithoutRepeats rest

end

end Datum

end AccessDecision
