import AccessDecision.Form.Basic
import Mathlib.Data.List.Nodup

/-!
# What a record says

A record says something under a field in the member of that name, or in the item that stands in its place
(`Shape.Says`).  Reading a record finds just that (`says_iff_of_slots`), and a tag that is taken off the front
leaves what is said under the other fields (`says_iff_of_untag`).
-/

namespace AccessDecision

variable {α β : Type} {dialect : Dialect} {fields : List String} {field : String} {v : α} {i : Nat}

/-! ## Definitions -/

/-- A record with these fields says something under one of them: in a member of that name, or in the item in its
place. -/
def Shape.Says (fields : List String) (field : String) (v : α) : Shape α → Prop
  | .named members => (field, v) ∈ members
  | .listed items => ∃ i : Nat, fields[i]? = some field ∧ items[i]? = some v

/-- The record that a tree spells says something under a field. -/
def Datum.Says (d : Datum) (fields : List String) (field : String) (value : Datum) : Prop :=
  ∃ shape, d.shape? = some shape ∧ shape.Says fields field value

/-- The record in which each value is replaced by another one. -/
def Shape.map (f : α → β) : Shape α → Shape β
  | .named members => .named (members.map fun (name, value) => (name, f value))
  | .listed items => .listed (items.map f)

/-! ## Rows that are read item by item -/

section Rows

variable {read : α → Option β} {xs : List α} {ys : List β}

theorem length_of_mapM (h : xs.mapM read = some ys) : ys.length = xs.length := by
  induction xs generalizing ys with
  | nil =>
    cases h
    rfl
  | cons first rest ih =>
    rw [List.mapM_cons] at h
    obtain ⟨y, -, h⟩ := Option.bind_eq_some_iff.mp h
    obtain ⟨ys', hys', h⟩ := Option.bind_eq_some_iff.mp h
    obtain rfl := Option.some.inj h
    rw [List.length_cons, List.length_cons, ih hys']

theorem getElem?_of_mapM (h : xs.mapM read = some ys) {x : α} (hx : xs[i]? = some x) :
    ∃ y, ys[i]? = some y ∧ read x = some y := by
  induction xs generalizing ys i with
  | nil => cases hx
  | cons first rest ih =>
    rw [List.mapM_cons] at h
    obtain ⟨y, hy, h⟩ := Option.bind_eq_some_iff.mp h
    obtain ⟨ys', hys', h⟩ := Option.bind_eq_some_iff.mp h
    obtain rfl := Option.some.inj h
    cases i with
    | zero =>
      obtain rfl := Option.some.inj hx
      exact ⟨y, rfl, hy⟩
    | succ i =>
      obtain ⟨z, hz, hread⟩ := ih hys' hx
      exact ⟨z, hz, hread⟩

/-- What holds of some item of a row can be seen before the row is read. -/
theorem exists_mem_iff_of_mapM (h : xs.mapM read = some ys) {P : β → Prop} {Q : α → Prop}
    (hiff : ∀ x y, read x = some y → (P y ↔ Q x)) : (∃ y ∈ ys, P y) ↔ ∃ x ∈ xs, Q x := by
  induction xs generalizing ys with
  | nil =>
    cases h
    simp
  | cons first rest ih =>
    rw [List.mapM_cons] at h
    obtain ⟨y, hy, h⟩ := Option.bind_eq_some_iff.mp h
    obtain ⟨ys', hys', h⟩ := Option.bind_eq_some_iff.mp h
    obtain rfl := Option.some.inj h
    rw [List.exists_mem_cons_iff, List.exists_mem_cons_iff, hiff first y hy, ih hys']

end Rows

/-! ## What stands for a field -/

theorem Shape.says_map {f : α → β} {shape : Shape α} {w : β} :
    (shape.map f).Says fields field w ↔ ∃ v, shape.Says fields field v ∧ f v = w := by
  cases shape with
  | named members => simp [Shape.map, Shape.Says]
  | listed items =>
    simp only [Shape.map, Shape.Says, List.getElem?_map, Option.map_eq_some_iff]
    constructor
    · rintro ⟨i, hi, v, hv, rfl⟩
      exact ⟨v, ⟨i, hi, hv⟩, rfl⟩
    · rintro ⟨v, ⟨i, hi, hv⟩, rfl⟩
      exact ⟨i, hi, v, hv, rfl⟩

theorem mem_iff_of_namedSlot? {members : List (String × α)} {slot : Slot α}
    (h : namedSlot? members field = some slot) :
    (field, v) ∈ members ↔ slot = .given v := by
  have hmem : (field, v) ∈ members ↔ (field, v) ∈ members.filter (·.1 == field) := by simp
  rw [hmem]
  unfold namedSlot? at h
  split at h
  · rename_i hfilter
    cases h
    simp [hfilter]
  · rename_i name value hfilter
    have hname : name = field := by
      have hfound := List.of_mem_filter
        (hfilter ▸ List.mem_cons_self : (name, value) ∈ members.filter (·.1 == field))
      exact beq_iff_eq.mp hfound
    cases h
    simp [hfilter, hname, eq_comm]
  · cases h

theorem getElem?_listedSlots {items : List α} (h : fields[i]? = some field) :
    (listedSlots fields items)[i]? = some (.given v) ↔ items[i]? = some v := by
  induction fields generalizing items i with
  | nil => cases h
  | cons first fields ih =>
    cases items with
    | nil =>
      cases i with
      | zero => simp [listedSlots]
      | succ i =>
        have hrest : (listedSlots fields ([] : List α))[i]? = some (.given v) ↔ ([] : List α)[i]? = some v := ih h
        simpa [listedSlots] using hrest
    | cons item items =>
      cases i with
      | zero => simp [listedSlots]
      | succ i => simpa [listedSlots] using ih h

/-- **What stands for a field is what the record says under it.** -/
theorem Shape.says_iff_of_slots {shape : Shape α} {slots : List (Slot α)} {slot : Slot α} (hnodup : fields.Nodup)
    (h : shape.slots dialect fields = some slots) (hi : fields[i]? = some field) (hslot : slots[i]? = some slot) :
    shape.Says fields field v ↔ slot = .given v := by
  cases shape with
  | named members =>
    obtain ⟨slot', hslot', hread⟩ := getElem?_of_mapM h hi
    obtain rfl := Option.some.inj (hslot.symm.trans hslot')
    exact mem_iff_of_namedSlot? hread
  | listed items =>
    simp only [Shape.slots] at h
    split_ifs at h
    obtain rfl := Option.some.inj h
    rw [← Option.some_inj, ← hslot, getElem?_listedSlots hi]
    constructor
    · rintro ⟨j, hj, hv⟩
      have hlt : j < fields.length := (List.getElem?_eq_some_iff.mp hj).1
      obtain rfl := (List.getElem?_inj hlt hnodup).mp (hj.trans hi.symm)
      exact hv
    · exact fun hv => ⟨i, hi, hv⟩

theorem Datum.says_iff_of_slots {d value : Datum} {slots : List (Slot Datum)} {slot : Slot Datum}
    (hnodup : fields.Nodup) (h : d.slots dialect fields = some slots) (hi : fields[i]? = some field)
    (hslot : slots[i]? = some slot) : d.Says fields field value ↔ slot = .given value := by
  obtain ⟨shape, hshape, h⟩ := Option.bind_eq_some_iff.mp h
  rw [← Shape.says_iff_of_slots hnodup h hi hslot]
  constructor
  · rintro ⟨shape', hshape', hunder⟩
    obtain rfl := Option.some.inj (hshape.symm.trans hshape')
    exact hunder
  · exact fun hunder => ⟨shape, hshape, hunder⟩

theorem Datum.not_says_null {value : Datum} : ¬ Datum.null.Says fields field value := fun ⟨_, h, _⟩ => nomatch h

/-! ## Tags -/

section Tags

variable {tagField : String} {shape rest : Shape α} {tag : α}

/-- The tag is what a record says under the field of the tag. -/
theorem Shape.says_tag_iff (h : shape.untag tagField = some (tag, rest)) (hfresh : tagField ∉ fields) :
    shape.Says (tagField :: fields) tagField v ↔ v = tag := by
  cases shape with
  | named members =>
    simp only [Shape.untag] at h
    split at h
    · rename_i name value hfilter
      obtain ⟨rfl, -⟩ := Prod.mk.inj (Option.some.inj h)
      have hslot : namedSlot? members tagField = some (.given value) := by rw [namedSlot?, hfilter]
      rw [Shape.Says, mem_iff_of_namedSlot? hslot, Slot.given.injEq, eq_comm]
    · cases h
  | listed items =>
    cases items with
    | nil => cases h
    | cons item items =>
      obtain ⟨rfl, -⟩ := Prod.mk.inj (Option.some.inj h)
      constructor
      · rintro ⟨i, hi, hv⟩
        cases i with
        | zero => exact (Option.some.inj hv).symm
        | succ i =>
          have hi : fields[i]? = some tagField := hi
          exact absurd (List.mem_of_getElem? hi) hfresh
      · rintro rfl
        exact ⟨0, rfl, rfl⟩

/-- What is said under the other fields is said by the rest of the record. -/
theorem Shape.says_iff_of_untag (h : shape.untag tagField = some (tag, rest)) (hne : field ≠ tagField) :
    shape.Says (tagField :: fields) field v ↔ rest.Says fields field v := by
  cases shape with
  | named members =>
    simp only [Shape.untag] at h
    split at h
    · obtain ⟨-, rfl⟩ := Prod.mk.inj (Option.some.inj h)
      simp [Shape.Says, hne]
    · cases h
  | listed items =>
    cases items with
    | nil => cases h
    | cons item items =>
      obtain ⟨-, rfl⟩ := Prod.mk.inj (Option.some.inj h)
      constructor
      · rintro ⟨i, hi, hv⟩
        cases i with
        | zero => exact absurd (Option.some.inj hi).symm hne
        | succ i => exact ⟨i, hi, hv⟩
      · rintro ⟨i, hi, hv⟩
        exact ⟨i + 1, hi, hv⟩

end Tags

end AccessDecision
