import AccessDecision.Datum.Basic

/-!
# Plain trees and their nesting

Whatever is written for others to read is a plain tree, made of texts, lists and objects (`Datum.isPlain`).  How
deep its lists and objects are nested (`Datum.depth`) decides whether a JSON text of it can be read.
-/

namespace AccessDecision.Datum

mutual

/-- Whether the tree is made of texts, lists and objects. -/
def isPlain : Datum → Bool
  | text _ => true
  | list items => itemsPlain items
  | object members => membersPlain members
  | _ => false

/-- Whether every item of a list is plain. -/
def itemsPlain : List Datum → Bool
  | [] => true
  | item :: rest => isPlain item && itemsPlain rest

/-- Whether every member of an object is plain. -/
def membersPlain : List (String × Datum) → Bool
  | [] => true
  | (_, value) :: rest => isPlain value && membersPlain rest

end

mutual

/-- How deep lists and objects are nested. -/
def depth : Datum → Nat
  | list items => itemsDepth items + 1
  | object members => membersDepth members + 1
  | _ => 0

/-- The greatest depth of an item. -/
def itemsDepth : List Datum → Nat
  | [] => 0
  | item :: rest => max (depth item) (itemsDepth rest)

/-- The greatest depth of a member. -/
def membersDepth : List (String × Datum) → Nat
  | [] => 0
  | (_, value) :: rest => max (depth value) (membersDepth rest)

end

variable {items : List Datum} {members : List (String × Datum)} {n : Nat}

@[simp] theorem isPlain_text (s : String) : (text s).isPlain = true := rfl

@[simp] theorem depth_text (s : String) : (text s).depth = 0 := rfl

theorem isPlain_list : (list items).isPlain = true ↔ ∀ item ∈ items, item.isPlain = true := by
  show itemsPlain items = true ↔ _
  induction items with
  | nil => simp [itemsPlain]
  | cons item rest ih => simp [itemsPlain, ih]

theorem isPlain_object : (object members).isPlain = true ↔ ∀ member ∈ members, member.2.isPlain = true := by
  show membersPlain members = true ↔ _
  induction members with
  | nil => simp [membersPlain]
  | cons member rest ih => simp [membersPlain, ih]

theorem itemsDepth_le : itemsDepth items ≤ n ↔ ∀ item ∈ items, item.depth ≤ n := by
  induction items with
  | nil => simp [itemsDepth]
  | cons item rest ih => rw [itemsDepth, Nat.max_le, ih, List.forall_mem_cons]

theorem membersDepth_le : membersDepth members ≤ n ↔ ∀ member ∈ members, member.2.depth ≤ n := by
  induction members with
  | nil => simp [membersDepth]
  | cons member rest ih => rw [membersDepth, Nat.max_le, ih, List.forall_mem_cons]

theorem depth_list_le : (list items).depth ≤ n + 1 ↔ ∀ item ∈ items, item.depth ≤ n := by
  show itemsDepth items + 1 ≤ n + 1 ↔ _
  rw [Nat.add_le_add_iff_right, itemsDepth_le]

theorem depth_object_le : (object members).depth ≤ n + 1 ↔ ∀ member ∈ members, member.2.depth ≤ n := by
  show membersDepth members + 1 ≤ n + 1 ↔ _
  rw [Nat.add_le_add_iff_right, membersDepth_le]

theorem depth_lt_of_mem_list {item : Datum} (h : item ∈ items) : item.depth < (list items).depth :=
  Nat.lt_succ_of_le (itemsDepth_le.mp (Nat.le_refl _) item h)

theorem depth_lt_of_mem_object {name : String} {value : Datum} (h : (name, value) ∈ members) :
    value.depth < (object members).depth :=
  Nat.lt_succ_of_le (membersDepth_le.mp (Nat.le_refl _) (name, value) h)

mutual

/-- A plain tree can be read. -/
theorem isReadable_of_isPlain (d : Datum) (h : d.isPlain = true) : d.isReadable = true := by
  match d with
  | text _ => rfl
  | list items => exact itemsReadable_of_itemsPlain items h
  | object members => exact membersReadable_of_membersPlain members h
  | null | bool _ | natural _ | number | unreadable => cases h

theorem itemsReadable_of_itemsPlain (items : List Datum) (h : itemsPlain items = true) :
    itemsReadable items = true := by
  match items with
  | [] => rfl
  | item :: rest =>
    rw [itemsPlain, Bool.and_eq_true] at h
    rw [itemsReadable, isReadable_of_isPlain item h.1, itemsReadable_of_itemsPlain rest h.2]
    rfl

theorem membersReadable_of_membersPlain (members : List (String × Datum)) (h : membersPlain members = true) :
    membersReadable members = true := by
  match members with
  | [] => rfl
  | (name, value) :: rest =>
    rw [membersPlain, Bool.and_eq_true] at h
    rw [membersReadable, isReadable_of_isPlain value h.1, membersReadable_of_membersPlain rest h.2]
    rfl

end

end AccessDecision.Datum
