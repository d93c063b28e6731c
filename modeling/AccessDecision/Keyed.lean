/-!
# Values under keys

A `Keyed` is a list of values under keys in which no key stands twice.  A value that is set takes the place of
the one under its key, or the last place if the key is new; looking up a key finds the value that was set last.
-/

namespace AccessDecision

/-- Values under keys, none of which is listed twice. -/
structure Keyed (α : Type) where
  entries : List (String × α)
  distinct : entries.Pairwise fun entry later => entry.1 ≠ later.1
  deriving DecidableEq, Repr

namespace Keyed

variable {α : Type} {table table' : Keyed α} {entries : List (String × α)} {key other : String} {value : α}

/-- No value at all. -/
def empty : Keyed α := ⟨[], .nil⟩

instance : Inhabited (Keyed α) := ⟨empty⟩

/-- The value under a key. -/
def get? (table : Keyed α) (key : String) : Option α := table.entries.lookup key

/-- The number of values. -/
def size (table : Keyed α) : Nat := table.entries.length

theorem size_ne_zero_of_get? (h : table.get? key = some value) : table.size ≠ 0 := by
  intro hsize
  have hnil : table.entries = [] := List.eq_nil_of_length_eq_zero hsize
  unfold get? at h
  rw [hnil] at h
  cases h

/-! ### Setting a value -/

/-- Puts a value into a list of entries, in place of the one that is under its key. -/
def setIn (key : String) (value : α) : List (String × α) → List (String × α)
  | [] => [(key, value)]
  | entry :: rest => if entry.1 = key then (key, value) :: rest else entry :: setIn key value rest

theorem eq_or_mem_of_mem_setIn {entry : String × α} (h : entry ∈ setIn key value entries) :
    entry = (key, value) ∨ entry ∈ entries := by
  induction entries with
  | nil => exact Or.inl (List.mem_singleton.mp h)
  | cons first rest ih =>
    unfold setIn at h
    split at h
    · exact (List.mem_cons.mp h).imp_right (List.mem_cons_of_mem _)
    · rcases List.mem_cons.mp h with rfl | h
      · exact Or.inr List.mem_cons_self
      · exact (ih h).imp_right (List.mem_cons_of_mem _)

theorem distinct_setIn (h : entries.Pairwise fun entry later => entry.1 ≠ later.1) :
    (setIn key value entries).Pairwise fun entry later => entry.1 ≠ later.1 := by
  induction entries with
  | nil => exact List.pairwise_singleton _ _
  | cons first rest ih =>
    obtain ⟨hfirst, hrest⟩ := List.pairwise_cons.mp h
    unfold setIn
    split
    next heq => exact List.pairwise_cons.mpr ⟨fun entry hentry => heq ▸ hfirst entry hentry, hrest⟩
    next hne =>
      refine List.pairwise_cons.mpr ⟨fun entry hentry => ?_, ih hrest⟩
      -- what stands behind is the new entry or one that was there before
      rcases eq_or_mem_of_mem_setIn hentry with rfl | hentry
      · exact hne
      · exact hfirst entry hentry

theorem lookup_setIn_self : (setIn key value entries).lookup key = some value := by
  induction entries with
  | nil => simp [setIn]
  | cons first rest ih =>
    unfold setIn
    split
    next => simp
    next hne => rw [List.lookup_cons, beq_eq_false_iff_ne.mpr (Ne.symm hne), ih]

theorem lookup_setIn_ne (hne : other ≠ key) : (setIn key value entries).lookup other = entries.lookup other := by
  have hkey : (other == key) = false := beq_eq_false_iff_ne.mpr hne
  induction entries with
  | nil => rw [setIn, List.lookup_cons, hkey]
  | cons first rest ih =>
    unfold setIn
    split
    next heq => rw [List.lookup_cons, List.lookup_cons, heq, hkey]
    next => rw [List.lookup_cons, List.lookup_cons, ih]

/-- A new key goes to the end. -/
theorem setIn_of_new (h : ∀ entry ∈ entries, entry.1 ≠ key) :
    setIn key value entries = entries ++ [(key, value)] := by
  induction entries with
  | nil => rfl
  | cons first rest ih =>
    obtain ⟨hfirst, hrest⟩ := List.forall_mem_cons.mp h
    rw [setIn, if_neg hfirst, ih hrest, List.cons_append]

/-- Sets the value under a key. -/
def set (table : Keyed α) (key : String) (value : α) : Keyed α :=
  ⟨setIn key value table.entries, distinct_setIn table.distinct⟩

theorem get?_set_self : (table.set key value).get? key = some value := lookup_setIn_self

theorem get?_set_ne (hne : other ≠ key) : (table.set key value).get? other = table.get? other :=
  lookup_setIn_ne hne

/-! ### Erasing a value -/

/-- Removes the value under a key. -/
def erase (table : Keyed α) (key : String) : Keyed α :=
  ⟨table.entries.filter (·.1 != key), table.distinct.filter _⟩

theorem get?_erase_self : (table.erase key).get? key = none := by
  unfold get? erase
  rw [List.lookup_eq_none_iff]
  intro entry hentry
  have hne : entry.1 ≠ key := by simpa using (List.mem_filter.mp hentry).2
  simpa using hne.symm

theorem get?_erase_ne (hne : other ≠ key) : (table.erase key).get? other = table.get? other := by
  show (table.entries.filter (·.1 != key)).lookup other = table.entries.lookup other
  induction table.entries with
  | nil => rfl
  | cons first rest ih =>
    by_cases h : first.1 = key
    · have hother : (other == first.1) = false := by simpa [h] using hne
      rw [List.filter_cons_of_neg (by simp [h]), List.lookup_cons, hother]
      exact ih
    · rw [List.filter_cons_of_pos (by simp [h]), List.lookup_cons, List.lookup_cons, ih]

/-! ### Listed entries -/

/-- Sets the values of listed entries, one after the other. -/
def setAll (table : Keyed α) (entries : List (String × α)) : Keyed α :=
  entries.foldl (fun table (key, value) => table.set key value) table

/-- The values of listed entries, of which the last one under a key counts. -/
def ofList (entries : List (String × α)) : Keyed α := empty.setAll entries

/-- Under one key only the entries of that key make a difference. -/
theorem get?_setAll_filter (h : table.get? key = table'.get? key) :
    (table'.setAll (entries.filter (·.1 == key))).get? key = (table.setAll entries).get? key := by
  induction entries generalizing table table' with
  | nil => exact h.symm
  | cons entry rest ih =>
    obtain ⟨name, value⟩ := entry
    by_cases hname : name = key
    · subst hname
      rw [List.filter_cons_of_pos (by simp)]
      exact ih (get?_set_self.trans get?_set_self.symm)
    · rw [List.filter_cons_of_neg (by simpa using hname)]
      exact ih ((get?_set_ne (Ne.symm hname)).trans h)

theorem get?_ofList_filter : (ofList (entries.filter (·.1 == key))).get? key = (ofList entries).get? key :=
  get?_setAll_filter rfl

theorem entries_setAll (h : (table.entries ++ entries).Pairwise fun entry later => entry.1 ≠ later.1) :
    (table.setAll entries).entries = table.entries ++ entries := by
  induction entries generalizing table with
  | nil => exact (List.append_nil _).symm
  | cons entry rest ih =>
    have hnew : ∀ earlier ∈ table.entries, earlier.1 ≠ entry.1 :=
      fun earlier hearlier => (List.pairwise_append.mp h).2.2 earlier hearlier entry List.mem_cons_self
    have hset : (table.set entry.1 entry.2).entries = table.entries ++ [entry] := setIn_of_new hnew
    rw [List.append_cons, ← hset] at h ⊢
    exact ih h

/-- **Entries without a repeated key are kept as they are.** -/
theorem entries_ofList (h : entries.Pairwise fun entry later => entry.1 ≠ later.1) :
    (ofList entries).entries = entries :=
  @entries_setAll α empty entries h

end Keyed

end AccessDecision
