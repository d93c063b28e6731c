import AccessDecision.Form.Policy
import AccessDecision.Proofs.Datum.Plain
import Mathlib.Data.List.Nodup

/-!
# Records survive rewriting

A value that was read from a tree is written as a plain tree, no deeper than the tree it was read from but for a
fixed bound, from which the same value is read again (`Survives`).  A value need not have been read first where
any value of its type is written as a plain tree of a fixed depth and read again (`RoundTrips`).  Lists keep both
properties.

A record is written with some of its fields left out (`Datum.record`), and each of its fields is read back apart
from the others (`slots_record`).  So whether a record survives is a question about its fields one by one
(`FieldSurvives`): a field that must be given, one that is left out when there is nothing to write, or one with a
default that is always written.
-/

namespace AccessDecision

variable {α β : Type} {bound : Nat} {dialect : Dialect} {d : Datum}

/-! ## Rows -/

theorem mapM_map_eq_some {f : β → Option α} {g : α → β} {xs : List α} (h : ∀ x ∈ xs, f (g x) = some x) :
    (xs.map g).mapM f = some xs := by
  induction xs with
  | nil => rfl
  | cons x xs ih =>
    rw [List.map_cons, List.mapM_cons, h x List.mem_cons_self, ih fun y hy => h y (List.mem_cons_of_mem _ hy)]
    rfl

theorem exists_of_mem_mapM {f : α → Option β} {xs : List α} {ys : List β} (h : xs.mapM f = some ys) :
    ∀ y ∈ ys, ∃ x ∈ xs, f x = some y := by
  induction xs generalizing ys with
  | nil =>
    cases h
    exact fun y hy => absurd hy List.not_mem_nil
  | cons x xs ih =>
    rw [List.mapM_cons] at h
    obtain ⟨first, hfirst, h⟩ := Option.bind_eq_some_iff.mp h
    obtain ⟨rest, hrest, h⟩ := Option.bind_eq_some_iff.mp h
    obtain rfl := Option.some.inj h
    refine List.forall_mem_cons.mpr ⟨⟨x, List.mem_cons_self, hfirst⟩, fun y hy => ?_⟩
    obtain ⟨x', hx', hy⟩ := ih hrest y hy
    exact ⟨x', List.mem_cons_of_mem _ hx', hy⟩

/-! ## Values -/

/-- Whatever is read can be written and read again. -/
structure Survives (bound : Nat) (read : Datum → Option α) (write : α → Datum) : Prop where
  plain : ∀ d v, read d = some v → (write v).isPlain = true
  depth : ∀ d v, read d = some v → (write v).depth ≤ max bound d.depth
  reread : ∀ d v, read d = some v → read (write v) = some v

/-- Whatever is written is read again. -/
structure RoundTrips (bound : Nat) (read : Datum → Option α) (write : α → Datum) : Prop where
  plain : ∀ v, (write v).isPlain = true
  depth : ∀ v, (write v).depth ≤ bound
  reread : ∀ v, read (write v) = some v

theorem RoundTrips.survives {read : Datum → Option α} {write : α → Datum} (h : RoundTrips bound read write) :
    Survives bound read write where
  plain _ v _ := h.plain v
  depth _ v _ := Nat.le_trans (h.depth v) (Nat.le_max_left _ _)
  reread _ v _ := h.reread v

theorem RoundTrips.text : RoundTrips 0 Datum.text? Datum.text where
  plain _ := rfl
  depth _ := Nat.le_refl 0
  reread _ := rfl

theorem RoundTrips.list {read : Datum → Option α} {write : α → Datum} (h : RoundTrips bound read write) :
    RoundTrips (bound + 1) (listOf read) fun xs => .list (xs.map write) where
  plain _ := Datum.isPlain_list.mpr (List.forall_mem_map.mpr fun x _ => h.plain x)
  depth _ := Datum.depth_list_le.mpr (List.forall_mem_map.mpr fun x _ => h.depth x)
  reread _ := mapM_map_eq_some fun x _ => h.reread x

theorem RoundTrips.texts : RoundTrips 1 texts? textsDatum := RoundTrips.text.list

theorem Survives.text : Survives 0 Datum.text? Datum.text := RoundTrips.text.survives

/-- A list survives if its items do. -/
theorem Survives.list {read : Datum → Option α} {write : α → Datum} (h : Survives bound read write) :
    Survives (bound + 1) (listOf read) fun xs => .list (xs.map write) := by
  have hitems : ∀ d xs, listOf read d = some xs → ∀ x ∈ xs, ∃ item, item.depth < d.depth ∧ read item = some x := by
    intro d xs hread x hx
    obtain ⟨items, hitems, hread⟩ := Option.bind_eq_some_iff.mp hread
    cases d with
    | list items' =>
      obtain rfl := Option.some.inj hitems
      obtain ⟨item, hitem, hread⟩ := exists_of_mem_mapM hread x hx
      exact ⟨item, Datum.depth_lt_of_mem_list hitem, hread⟩
    | _ => cases hitems
  refine ⟨fun d xs hread => ?_, fun d xs hread => ?_, fun d xs hread => ?_⟩
  · rw [Datum.isPlain_list, List.forall_mem_map]
    intro x hx
    obtain ⟨item, -, hx⟩ := hitems d xs hread x hx
    exact h.plain item x hx
  · have hlist : 1 ≤ d.depth := by
      cases d with
      | list items => exact Nat.succ_pos _
      | _ => cases hread
    have hroom : max (bound + 1) d.depth = max bound (d.depth - 1) + 1 := by omega
    rw [hroom, Datum.depth_list_le, List.forall_mem_map]
    intro x hx
    obtain ⟨item, hlt, hx⟩ := hitems d xs hread x hx
    have hle := h.depth item x hx
    omega
  · refine mapM_map_eq_some fun x hx => ?_
    obtain ⟨item, -, hx⟩ := hitems d xs hread x hx
    exact h.reread item x hx

theorem Survives.texts : Survives 1 texts? textsDatum := RoundTrips.texts.survives

/-! ## Slots -/

/-- The slot of a field that is written, or left out. -/
def Slot.ofWritten : Option Datum → Slot Datum
  | some d => .given d
  | none => .unnamed

/-- The depth of what stands for a field. -/
def Slot.depth : Slot Datum → Nat
  | .given d => d.depth
  | .unnamed | .unlisted => 0

/-- All that a record holds. -/
def Shape.values : Shape α → List α
  | .named members => members.map (·.2)
  | .listed items => items

theorem mem_of_listedSlots {fields : List String} {items : List α} {v : α}
    (h : Slot.given v ∈ listedSlots fields items) : v ∈ items := by
  induction fields generalizing items with
  | nil => cases h
  | cons field fields ih =>
    cases items with
    | nil =>
      rcases List.mem_cons.mp h with h | h
      · cases h
      · exact ih h
    | cons item items =>
      rcases List.mem_cons.mp h with h | h
      · cases h
        exact List.mem_cons_self
      · exact List.mem_cons_of_mem _ (ih h)

/-- What stands for a field is part of the record. -/
theorem Shape.mem_values_of_slots {shape : Shape α} {fields : List String} {slots : List (Slot α)} {v : α}
    (h : shape.slots dialect fields = some slots) (hv : Slot.given v ∈ slots) : v ∈ shape.values := by
  cases shape with
  | named members =>
    obtain ⟨field, -, hfield⟩ := exists_of_mem_mapM h _ hv
    unfold namedSlot? at hfield
    split at hfield
    · cases hfield
    · rename_i name value hfilter
      cases hfield
      exact List.mem_map_of_mem (List.mem_of_mem_filter (hfilter ▸ List.mem_cons_self))
    · cases hfield
  | listed items =>
    simp only [Shape.slots] at h
    split_ifs at h
    obtain rfl := Option.some.inj h
    exact mem_of_listedSlots hv

theorem Shape.mem_values_of_untag {shape rest : Shape α} {field : String} {tag v : α}
    (h : shape.untag field = some (tag, rest)) (hv : v ∈ rest.values) : v ∈ shape.values := by
  unfold Shape.untag at h
  split at h
  · split at h
    · cases h
      obtain ⟨member, hmember, rfl⟩ := List.mem_map.mp hv
      exact List.mem_map_of_mem (List.mem_of_mem_filter hmember)
    · cases h
  · cases h
    exact List.mem_cons_of_mem _ hv
  · cases h

theorem depth_lt_of_mem_values {shape : Shape Datum} {value : Datum} (h : d.shape? = some shape)
    (hvalue : value ∈ shape.values) : value.depth < d.depth := by
  cases d with
  | object members =>
    obtain rfl := Option.some.inj h
    obtain ⟨member, hmember, rfl⟩ := List.mem_map.mp hvalue
    exact Datum.depth_lt_of_mem_object hmember
  | list items =>
    obtain rfl := Option.some.inj h
    exact Datum.depth_lt_of_mem_list hvalue
  | _ => cases h

theorem depth_pos_of_slots {fields : List String} {slots : List (Slot Datum)}
    (h : d.slots dialect fields = some slots) :
    0 < d.depth := by
  cases d with
  | list _ | object _ => exact Nat.succ_pos _
  | _ => cases h

/-- What stands for a field of a record is not as deep as the record. -/
theorem depth_lt_of_mem_slots {fields : List String} {slots : List (Slot Datum)} {slot : Slot Datum}
    (h : d.slots dialect fields = some slots) (hslot : slot ∈ slots) : slot.depth < d.depth := by
  cases slot with
  | given value =>
    obtain ⟨shape, hshape, h⟩ := Option.bind_eq_some_iff.mp h
    exact depth_lt_of_mem_values hshape (Shape.mem_values_of_slots h hslot)
  | unnamed | unlisted => exact depth_pos_of_slots h

/-! ## Written records -/

/-- The record with these fields, of which some are left out. -/
def Datum.record (entries : List (String × Option Datum)) : Datum :=
  .object (entries.flatMap fun entry => member? entry.1 entry.2)

theorem filter_member? (name field : String) (value : Option Datum) :
    (member? name value).filter (·.1 == field) = if name = field then member? name value else [] := by
  cases value with
  | none => split_ifs <;> rfl
  | some d =>
    show List.filter _ [(name, d)] = if name = field then [(name, d)] else []
    split_ifs with h <;> simp [h]

theorem filter_record_eq_nil {entries : List (String × Option Datum)} {field : String}
    (h : field ∉ entries.map (·.1)) :
    (entries.flatMap fun entry => member? entry.1 entry.2).filter (·.1 == field) = [] := by
  induction entries with
  | nil => rfl
  | cons entry entries ih =>
    rw [List.map_cons, List.mem_cons, not_or] at h
    rw [List.flatMap_cons, List.filter_append, filter_member?, if_neg (Ne.symm h.1), ih h.2]
    rfl

theorem filter_record {entries : List (String × Option Datum)} {field : String} {value : Option Datum}
    (hnodup : (entries.map (·.1)).Nodup) (h : (field, value) ∈ entries) :
    (entries.flatMap fun entry => member? entry.1 entry.2).filter (·.1 == field) = member? field value := by
  induction entries with
  | nil => cases h
  | cons entry entries ih =>
    rw [List.map_cons, List.nodup_cons] at hnodup
    rw [List.flatMap_cons, List.filter_append, filter_member?]
    rcases List.mem_cons.mp h with rfl | h
    · rw [if_pos rfl, filter_record_eq_nil hnodup.1, List.append_nil]
    · have hne : entry.1 ≠ field := fun heq => hnodup.1 (heq ▸ List.mem_map_of_mem h)
      rw [if_neg hne, List.nil_append, ih hnodup.2 h]

/-- **Each field of a written record is found again.** -/
theorem slots_record {entries : List (String × Option Datum)} (hnodup : (entries.map (·.1)).Nodup) :
    (Datum.record entries).slots dialect (entries.map (·.1)) =
      some (entries.map fun entry => Slot.ofWritten entry.2) := by
  have hslot : ∀ entry ∈ entries, namedSlot? (entries.flatMap fun entry => member? entry.1 entry.2) entry.1 =
      some (Slot.ofWritten entry.2) := by
    rintro ⟨field, value⟩ hentry
    unfold namedSlot?
    rw [filter_record hnodup hentry]
    cases value <;> rfl
  show List.mapM _ (entries.map (·.1)) = _
  generalize (entries.flatMap fun entry => member? entry.1 entry.2) = members at hslot ⊢
  clear hnodup
  induction entries with
  | nil => rfl
  | cons entry entries ih =>
    rw [List.map_cons, List.mapM_cons, hslot entry List.mem_cons_self,
      ih fun e he => hslot e (List.mem_cons_of_mem _ he)]
    rfl

theorem isPlain_record {entries : List (String × Option Datum)}
    (h : ∀ entry ∈ entries, ∀ d ∈ entry.2, d.isPlain = true) : (Datum.record entries).isPlain = true := by
  unfold Datum.record
  rw [Datum.isPlain_object]
  intro member hmember
  obtain ⟨⟨field, value⟩, hentry, hmember⟩ := List.mem_flatMap.mp hmember
  obtain ⟨d, hd, rfl⟩ := Option.map_eq_some_iff.mp (Option.mem_toList.mp hmember)
  exact h (field, value) hentry d hd

theorem depth_record_le {entries : List (String × Option Datum)} {n : Nat}
    (h : ∀ entry ∈ entries, ∀ d ∈ entry.2, d.depth ≤ n) : (Datum.record entries).depth ≤ n + 1 := by
  unfold Datum.record
  rw [Datum.depth_object_le]
  intro member hmember
  obtain ⟨⟨field, value⟩, hentry, hmember⟩ := List.mem_flatMap.mp hmember
  obtain ⟨d, hd, rfl⟩ := Option.map_eq_some_iff.mp (Option.mem_toList.mp hmember)
  exact h (field, value) hentry d hd

/-! ## Records with all fields -/

/-- Each member of a written object is found again. -/
theorem slots_object {members : List (String × Datum)} (hnodup : (members.map (·.1)).Nodup) :
    (Datum.object members).slots dialect (members.map (·.1)) =
      some (members.map fun member => Slot.given member.2) := by
  have hslots := @slots_record dialect (members.map fun member => (member.1, some member.2))
    (by rwa [List.map_map])
  have hrecord : Datum.record (members.map fun member => (member.1, some member.2)) = .object members := by
    simp [Datum.record, member?, List.flatMap_map]
  rw [hrecord, List.map_map, List.map_map] at hslots
  exact hslots

/-- A record of which every field is always written is read again if it is read again from what stands for the
fields. -/
theorem RoundTrips.record {fields : List String} {read : List (Slot Datum) → Option α}
    {members : α → List (String × Datum)} (hnodup : fields.Nodup) (hfields : ∀ v, (members v).map (·.1) = fields)
    (hmembers : ∀ v, ∀ member ∈ members v, member.2.isPlain = true ∧ member.2.depth ≤ bound)
    (hread : ∀ v, read ((members v).map fun member => .given member.2) = some v) :
    RoundTrips (bound + 1) (fun d => (d.slots dialect fields).bind read) fun v => .object (members v) where
  plain v := Datum.isPlain_object.mpr fun member hmember => (hmembers v member hmember).1
  depth v := Datum.depth_object_le.mpr fun member hmember => (hmembers v member hmember).2
  reread v := by
    have hslots := @slots_object dialect (members v) (by rwa [hfields v])
    rw [hfields v] at hslots
    rw [hslots, Option.bind_some, hread v]

/-! ## Fields -/

/-- Whatever is read from what stands for a field can be written, or left out, and read again. -/
structure FieldSurvives (bound : Nat) (read : Slot Datum → Option α) (write : α → Option Datum) : Prop where
  plain : ∀ slot v, read slot = some v → ∀ d ∈ write v, d.isPlain = true
  depth : ∀ slot v, read slot = some v → ∀ d ∈ write v, d.depth ≤ max bound slot.depth
  reread : ∀ slot v, read slot = some v → read (Slot.ofWritten (write v)) = some v

section Fields

variable {read : Datum → Option α} {write : α → Datum} {v : α}

/-- A field that must be given. -/
theorem Survives.required (h : Survives bound read write) :
    FieldSurvives bound (Slot.required read) fun v => some (write v) := by
  have hgiven : ∀ slot v, Slot.required read slot = some v → ∃ d, slot = .given d ∧ read d = some v := by
    intro slot v hslot
    cases slot with
    | given d => exact ⟨d, rfl, hslot⟩
    | unnamed | unlisted => cases hslot
  refine ⟨fun slot v hslot => ?_, fun slot v hslot => ?_, fun slot v hslot => ?_⟩
  · obtain ⟨d, -, hread⟩ := hgiven slot v hslot
    rintro _ ⟨⟩
    exact h.plain d v hread
  · obtain ⟨d, rfl, hread⟩ := hgiven slot v hslot
    rintro _ ⟨⟩
    exact h.depth d v hread
  · obtain ⟨d, -, hread⟩ := hgiven slot v hslot
    exact h.reread d v hread

theorem read_of_nullable (h : nullable read d = some (some v)) : read d = some v := by
  cases d with
  | null => cases h
  | _ =>
    obtain ⟨v', hread, heq⟩ := Option.map_eq_some_iff.mp h
    cases heq
    exact hread

theorem nullable_of_isPlain (h : d.isPlain = true) : nullable read d = (read d).map some := by
  cases d with
  | null => cases h
  | _ => rfl

/-- A field that is left out when its value is nothing. -/
theorem Survives.nullable (h : Survives bound read write) :
    FieldSurvives bound (Slot.orElse (nullable read) none) fun v => v.map write := by
  have hgiven : ∀ slot v, Slot.orElse (AccessDecision.nullable read) none slot = some (some v) →
      ∃ d, slot = .given d ∧ read d = some v := by
    intro slot v hslot
    cases slot with
    | given d => exact ⟨d, rfl, read_of_nullable hslot⟩
    | unnamed | unlisted => cases hslot
  refine ⟨fun slot v hslot => ?_, fun slot v hslot => ?_, fun slot v hslot => ?_⟩
  · rintro _ hd
    obtain ⟨v, rfl, rfl⟩ := Option.map_eq_some_iff.mp hd
    obtain ⟨d, -, hread⟩ := hgiven slot v hslot
    exact h.plain d v hread
  · rintro _ hd
    obtain ⟨v, rfl, rfl⟩ := Option.map_eq_some_iff.mp hd
    obtain ⟨d, rfl, hread⟩ := hgiven slot v hslot
    exact h.depth d v hread
  · cases v with
    | none => rfl
    | some v =>
      obtain ⟨d, -, hread⟩ := hgiven slot v hslot
      show AccessDecision.nullable read (write v) = some (some v)
      rw [nullable_of_isPlain (h.plain d v hread), h.reread d v hread]
      rfl

/-- A field with a default that is always written. -/
theorem Survives.always (h : Survives bound read write) {default : α}
    (hdefault : read (write default) = some default) (hdepth : (write default).depth ≤ bound) :
    FieldSurvives bound (Slot.orElse read default) fun v => some (write v) := by
  have hgiven : ∀ slot v, Slot.orElse read default slot = some v →
      v = default ∨ ∃ d, slot = .given d ∧ read d = some v := by
    intro slot v hslot
    cases slot with
    | given d => exact Or.inr ⟨d, rfl, hslot⟩
    | unnamed | unlisted => exact Or.inl (Option.some.inj hslot).symm
  refine ⟨fun slot v hslot => ?_, fun slot v hslot => ?_, fun slot v hslot => ?_⟩
  · rintro _ ⟨⟩
    rcases hgiven slot v hslot with rfl | ⟨d, -, hread⟩
    · exact h.plain _ v hdefault
    · exact h.plain d v hread
  · rintro _ ⟨⟩
    rcases hgiven slot v hslot with rfl | ⟨d, rfl, hread⟩
    · exact Nat.le_trans hdepth (Nat.le_max_left _ _)
    · exact h.depth d v hread
  · rcases hgiven slot v hslot with rfl | ⟨d, -, hread⟩
    · exact hdefault
    · exact h.reread d v hread

/-- A list of texts that is left out when it is empty. -/
theorem FieldSurvives.unlessEmpty : FieldSurvives 1 (Slot.orElse texts? []) unlessEmpty := by
  have halways : FieldSurvives 1 (Slot.orElse texts? []) fun v => some (textsDatum v) :=
    Survives.texts.always rfl (Nat.le_refl 1)
  refine ⟨fun slot v hslot d hd => ?_, fun slot v hslot d hd => ?_, fun slot v hslot => ?_⟩
  · unfold AccessDecision.unlessEmpty at hd
    split_ifs at hd
    · cases hd
    · exact halways.plain slot v hslot d hd
  · unfold AccessDecision.unlessEmpty at hd
    split_ifs at hd
    · cases hd
    · exact halways.depth slot v hslot d hd
  · cases v with
    | nil => rfl
    | cons first rest => exact halways.reread slot (first :: rest) hslot

/-- What a field that survives adds to a record. -/
theorem FieldSurvives.entry {readSlot : Slot Datum → Option α} {writeField : α → Option Datum} {bound' : Nat}
    (h : FieldSurvives bound' readSlot writeField) (hbound : bound' ≤ bound) {slot : Slot Datum}
    (hslot : readSlot slot = some v) : ∀ d ∈ writeField v, d.isPlain = true ∧ d.depth ≤ max bound slot.depth := by
  intro d hd
  have hdepth := h.depth slot v hslot d hd
  exact ⟨h.plain slot v hslot d hd, by omega⟩

/-- A record whose fields survive is written as a plain tree that is no deeper than what was read. -/
theorem record_of_slots {slots : List (Slot Datum)} {fields : List String} {entries : List (String × Option Datum)}
    (hslots : d.slots dialect fields = some slots)
    (h : List.Forall₂ (fun slot (entry : String × Option Datum) =>
      ∀ d ∈ entry.2, d.isPlain = true ∧ d.depth ≤ max bound slot.depth) slots entries) :
    (Datum.record entries).isPlain = true ∧ (Datum.record entries).depth ≤ max (bound + 1) d.depth := by
  have hentry : ∀ entry ∈ entries, ∃ slot ∈ slots,
      ∀ d ∈ entry.2, d.isPlain = true ∧ d.depth ≤ max bound slot.depth := by
    clear hslots
    induction h with
    | nil => exact fun entry hmem => absurd hmem List.not_mem_nil
    | cons hfirst _ ih =>
      refine List.forall_mem_cons.mpr ⟨⟨_, List.mem_cons_self, hfirst⟩, fun entry hmem => ?_⟩
      obtain ⟨slot, hslot, hentry⟩ := ih entry hmem
      exact ⟨slot, List.mem_cons_of_mem _ hslot, hentry⟩
  constructor
  · refine isPlain_record fun entry hmem d hd => ?_
    obtain ⟨slot, -, hentry⟩ := hentry entry hmem
    exact (hentry d hd).1
  · have hdepth : (Datum.record entries).depth ≤ max bound (d.depth - 1) + 1 := by
      refine depth_record_le fun entry hmem value hvalue => ?_
      obtain ⟨slot, hslot, hentry⟩ := hentry entry hmem
      have hlt := depth_lt_of_mem_slots hslots hslot
      have hle := (hentry value hvalue).2
      omega
    have hpos := depth_pos_of_slots hslots
    omega

end Fields

end AccessDecision
