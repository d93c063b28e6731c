import AccessDecision.Datum.Basic

/-!
# Reading records

A record is written as an object of named fields or as a list of its fields in order.  `Shape.slots` finds what
stands for each field, and the functions on `Slot` say what a field accepts.

What differs between document formats is kept in one value, a `Dialect`.  Inside tagged objects every format reads
alike (`Dialect.tagged`).
-/

namespace AccessDecision

/-- What a document format accepts beyond the common rules. -/
structure Dialect where
  /-- Whether this may follow the name of an effect, or of another bare word, that is written as an object of one
  member. -/
  isUnit : Datum → Bool
  /-- Whether a list may hold more items than the record has fields. -/
  allowsExtraItems : Bool
  /-- Whether a tag may be given by its number. -/
  allowsNumberedTags : Bool

/-- Whether the tree is an object or a list without anything in it. -/
def Datum.isEmpty : Datum → Bool
  | .object members => members.isEmpty
  | .list items => items.isEmpty
  | _ => false

/-- JSON texts. -/
def Dialect.json : Dialect where
  isUnit
    | .null => true
    | _ => false
  allowsExtraItems := false
  allowsNumberedTags := false

/-- TOML texts. -/
def Dialect.toml : Dialect where
  isUnit := Datum.isEmpty
  allowsExtraItems := true
  allowsNumberedTags := false

/-- The inside of a tagged object, in every format. -/
def Dialect.tagged : Dialect where
  isUnit
    | .null => true
    | .object members => members.isEmpty
    | _ => false
  allowsExtraItems := false
  allowsNumberedTags := true

/-! ### Fields -/

/-- The two ways to write a record. -/
inductive Shape (α : Type) where
  | named (members : List (String × α))
  | listed (items : List α)

/-- The record that a tree spells, if it can be one. -/
def Datum.shape? : Datum → Option (Shape Datum)
  | .object members => some (.named members)
  | .list items => some (.listed items)
  | _ => none

/-- What stands for a field of a record. -/
inductive Slot (α : Type) where
  | given (value : α)
  /-- No member has the field's name. -/
  | unnamed
  /-- The list ends before the field. -/
  | unlisted

/-- The items of a list that stand for these fields, in order. -/
def listedSlots {α β : Type} : List β → List α → List (Slot α)
  | [], _ => []
  | _ :: fields, [] => .unlisted :: listedSlots fields []
  | _ :: fields, item :: items => .given item :: listedSlots fields items

/-- What stands for a field among members; a repeated field is refused. -/
def namedSlot? {α : Type} (members : List (String × α)) (field : String) : Option (Slot α) :=
  match members.filter (·.1 == field) with
  | [] => some .unnamed
  | [(_, value)] => some (.given value)
  | _ => none

/-- What stands for each of the fields of a record. -/
def Shape.slots {α : Type} (dialect : Dialect) (fields : List String) : Shape α → Option (List (Slot α))
  | .named members => fields.mapM (namedSlot? members)
  | .listed items =>
    if items.length ≤ fields.length || dialect.allowsExtraItems then some (listedSlots fields items) else none

/-- What stands for each of the fields of a record that a tree spells. -/
def Datum.slots (dialect : Dialect) (fields : List String) (d : Datum) : Option (List (Slot Datum)) :=
  d.shape?.bind (Shape.slots dialect fields)

namespace Slot

variable {α β : Type}

/-- A field that must be given. -/
def required (read : α → Option β) : Slot α → Option β
  | given value => read value
  | _ => none

/-- A field with a default. -/
def orElse (read : α → Option β) (default : β) : Slot α → Option β
  | given value => read value
  | _ => some default

end Slot

/-- Reads `null` as nothing. -/
def nullable {β : Type} (read : Datum → Option β) : Datum → Option (Option β)
  | .null => some none
  | d => (read d).map some

/-- A field that may be missing from an object, but not from a list. -/
def Slot.optional {β : Type} (read : Datum → Option β) : Slot Datum → Option (Option β)
  | .given value => nullable read value
  | .unnamed => some none
  | .unlisted => none

/-! ### Values -/

/-- Reads a list whose items are all read alike. -/
def listOf {β : Type} (read : Datum → Option β) (d : Datum) : Option (List β) :=
  d.items?.bind (List.mapM read)

/-- Reads a list of texts. -/
def texts? (d : Datum) : Option (List String) := listOf Datum.text? d

/-- Writes a list of texts. -/
def textsDatum (xs : List String) : Datum := .list (xs.map .text)

/-- Reads one of several words: a text, or an object with the word as its only name. -/
def word? {β : Type} (dialect : Dialect) (words : List (String × β)) : Datum → Option β
  | .text s => words.lookup s
  | .object [(s, body)] => if dialect.isUnit body then words.lookup s else none
  | _ => none

/-! ### Tags -/

/-- Finds the alternative that a tag names. -/
def tag? {β : Type} (dialect : Dialect) (alternatives : List (String × β)) : Datum → Option β
  | .text s => alternatives.lookup s
  | .natural n => if dialect.allowsNumberedTags then (alternatives[n]?).map (·.2) else none
  | _ => none

/-- Splits a tagged record into its tag and the rest of it: the tag is the member of that name, or the first item
of a list. -/
def Shape.untag {α : Type} (field : String) : Shape α → Option (α × Shape α)
  | .named members =>
    match members.filter (·.1 == field) with
    | [(_, tag)] => some (tag, .named (members.filter (·.1 != field)))
    | _ => none
  | .listed (tag :: rest) => some (tag, .listed rest)
  | .listed [] => none

end AccessDecision
