import AccessDecision.Datum.Basic

/-!
# Tables under construction

A TOML document is a table of tables, which headers, dotted keys and braces build up bit by bit.  What may still be
added to a table depends on how it came to be, its `Origin`.

* A header declares its table, once.  It may declare a table that other headers only implied.
* A dotted key adds to tables that dotted keys have made.  On its way to the last of them it may pass through an
  implied one.
* A value is complete; so is a table between braces.
-/

namespace AccessDecision.Datum.Toml

/-- How a table came to be. -/
inductive Origin where
  /-- A header names it. -/
  | declared
  /-- It stands on the way to a table that a header names. -/
  | implied
  /-- A dotted key names it. -/
  | dotted
  deriving DecidableEq, Repr

/-- What stands under a name of a table. -/
inductive Node where
  | value (value : Datum)
  | table (origin : Origin) (members : List (String × Node))
  /-- A row of tables that headers with double brackets declare; the last one is still open. -/
  | tables (earlier : List (List (String × Node))) (last : List (String × Node))
  deriving Inhabited, Repr

/-- The names and nodes of a table, in the order in which they were added. -/
abbrev Members := List (String × Node)

namespace Members

/-- Puts a node under a name, in place of the one that is there. -/
def put (members : Members) (name : String) (node : Node) : Members :=
  if members.any (·.1 == name) then
    members.map fun entry => if entry.1 == name then (name, node) else entry
  else members ++ [(name, node)]

/-- Puts a value under a name inside the table that a dotted path leads to. -/
def insert (members : Members) (name : String) (value : Datum) : List String → Option Members
  | [] => if members.any (·.1 == name) then none else some (members.put name (.value value))
  | step :: path =>
    match members.lookup step with
    | none => do
      return members.put step (.table .dotted (← insert [] name value path))
    | some (.table origin inner) =>
      if origin = .declared ∨ (path = [] ∧ origin ≠ .dotted) then none
      else do return members.put step (.table origin (← insert inner name value path))
    | some (.tables earlier last) =>
      if path = [] then none
      else do return members.put step (.tables earlier (← insert last name value path))
    | some (.value _) => none

/-- Changes the table that the path of a header leads to. In a row of tables the path goes through the last one. -/
def modify (change : Members → Option Members) (members : Members) : List String → Option Members
  | [] => change members
  | step :: path =>
    match members.lookup step with
    | none => do return members.put step (.table .implied (← modify change [] path))
    | some (.table origin inner) => do return members.put step (.table origin (← modify change inner path))
    | some (.tables earlier last) => do return members.put step (.tables earlier (← modify change last path))
    | some (.value _) => none

/-- Declares the table of a name. -/
def declare (name : String) (members : Members) : Option Members :=
  match members.lookup name with
  | none => some (members.put name (.table .declared []))
  | some (.table .implied inner) => some (members.put name (.table .declared inner))
  | some _ => none

/-- Adds a table to the row of tables of a name. -/
def declareNext (name : String) (members : Members) : Option Members :=
  match members.lookup name with
  | none => some (members.put name (.tables [] []))
  | some (.tables earlier last) => some (members.put name (.tables (earlier ++ [last]) []))
  | some _ => none

end Members

mutual

/-- The tree of a node. -/
def Node.toDatum : Node → Datum
  | .value value => value
  | .table _ members => .object (membersData members)
  | .tables earlier last => .list (tablesData earlier ++ [.object (membersData last)])

/-- The trees of the members of a table. -/
def membersData : List (String × Node) → List (String × Datum)
  | [] => []
  | (name, node) :: rest => (name, node.toDatum) :: membersData rest

/-- The trees of a row of tables. -/
def tablesData : List (List (String × Node)) → List Datum
  | [] => []
  | members :: rest => .object (membersData members) :: tablesData rest

end

/-- The tree of a table. -/
def Members.toDatum (members : Members) : Datum := .object (membersData members)

end AccessDecision.Datum.Toml
