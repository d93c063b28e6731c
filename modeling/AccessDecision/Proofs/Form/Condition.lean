import AccessDecision.Proofs.Form.Record

/-!
# Conditions survive rewriting

Loading a condition forgets how its functions were named and which arguments were dropped, so what is written is
not what was read.  It stands for the same condition, because a function that loading did not know is still not
known (`ofForm_toForm`), it is read back as it was written (`form?_formDatum`), and it is nowhere deeper than
what was read (`depth_formDatum_ofForm_le`, `depth_formDatum_le`).
-/

namespace AccessDecision.Condition

variable {dialect : Dialect} {f : Form} {fs : List Form} {d : Datum} {function : String} {args : List Condition}
  {n : Nat}

/-! ## Known functions -/

/-- The ids of all functions that have a meaning. -/
def knownIds : List String :=
  [Connective.and.id, Connective.or.id, Connective.not.id, Comparison.equal.id, Comparison.regex.id, regexAlias,
    Normalizer.lowercase.id, Normalizer.trimEdges.id]

theorem ofFunction_connective (op : Connective) : ofFunction op.id args = combine op args := by cases op <;> rfl

theorem ofFunction_comparison (test : Comparison) : ofFunction test.id args = compare test args := by
  cases test <;> rfl

theorem ofFunction_normalizer (change : Normalizer) : ofFunction change.id args = normalizer change := by
  cases change <;> rfl

theorem ofFunction_unknown (h : function ∉ knownIds) : ofFunction function args = unrecognized function := by
  simp only [knownIds, List.mem_cons, List.not_mem_nil, or_false, not_or] at h
  obtain ⟨hand, hor, hnot, hequal, hregex, halias, hlower, htrim⟩ := h
  unfold ofFunction
  rw [if_neg hand, if_neg hor, if_neg hnot, if_neg hequal, if_neg (not_or.mpr ⟨hregex, halias⟩), if_neg hlower,
    if_neg htrim]

/-- What a function id with arguments can stand for. -/
theorem ofFunction_cases (function : String) (args : List Condition) :
    (∃ op, ofFunction function args = combine op args) ∨ (∃ test, ofFunction function args = compare test args) ∨
      (∃ change, ofFunction function args = normalizer change) ∨
        function ∉ knownIds ∧ ofFunction function args = unrecognized function := by
  by_cases hknown : function ∈ knownIds
  · simp only [knownIds, List.mem_cons, List.not_mem_nil, or_false] at hknown
    rcases hknown with rfl | rfl | rfl | rfl | rfl | rfl | rfl | rfl
    · exact Or.inl ⟨.and, rfl⟩
    · exact Or.inl ⟨.or, rfl⟩
    · exact Or.inl ⟨.not, rfl⟩
    · exact Or.inr (Or.inl ⟨.equal, rfl⟩)
    · exact Or.inr (Or.inl ⟨.regex, rfl⟩)
    · exact Or.inr (Or.inl ⟨.regex, rfl⟩)
    · exact Or.inr (Or.inr (Or.inl ⟨.lowercase, rfl⟩))
    · exact Or.inr (Or.inr (Or.inl ⟨.trimEdges, rfl⟩))
  · exact Or.inr (Or.inr (Or.inr ⟨hknown, ofFunction_unknown hknown⟩))

mutual

/-- **A condition is what its written form stands for**, if none of its unknown functions is known. -/
theorem ofForm_toForm (c : Condition) (h : ∀ id ∈ c.unrecognizedIds, id ∉ knownIds) : ofForm (toForm c) = c := by
  match c with
  | combine op args =>
    show ofFunction op.id (ofForms (toForms args)) = _
    rw [ofForms_toForms args h, ofFunction_connective]
  | compare test args =>
    show ofFunction test.id (ofForms (toForms args)) = _
    rw [ofForms_toForms args h, ofFunction_comparison]
  | normalizer change => exact ofFunction_normalizer change
  | unrecognized function => exact ofFunction_unknown (h function List.mem_cons_self)
  | designator _ | literal _ => rfl

theorem ofForms_toForms (args : List Condition) (h : ∀ id ∈ unrecognizedIdsOf args, id ∉ knownIds) :
    ofForms (toForms args) = args := by
  match args with
  | [] => rfl
  | arg :: rest =>
    rw [unrecognizedIdsOf, List.forall_mem_append] at h
    rw [toForms, ofForms, ofForm_toForm arg h.1, ofForms_toForms rest h.2]

end

mutual

/-- Loading knows all functions that are known. -/
theorem unrecognizedIds_ofForm (f : Form) : ∀ id ∈ (ofForm f).unrecognizedIds, id ∉ knownIds := by
  match f with
  | .apply function args =>
    have hargs := unrecognizedIds_ofForms args
    show ∀ id ∈ (ofFunction function (ofForms args)).unrecognizedIds, id ∉ knownIds
    rcases ofFunction_cases function (ofForms args) with ⟨op, heq⟩ | ⟨test, heq⟩ | ⟨change, heq⟩ | ⟨hunknown, heq⟩
    · rw [heq]
      exact hargs
    · rw [heq]
      exact hargs
    · rw [heq]
      exact fun id hid => absurd hid List.not_mem_nil
    · rw [heq]
      exact List.forall_mem_singleton.mpr hunknown
  | .designator _ | .value _ => exact fun id hid => absurd hid List.not_mem_nil

theorem unrecognizedIds_ofForms (fs : List Form) : ∀ id ∈ unrecognizedIdsOf (ofForms fs), id ∉ knownIds := by
  match fs with
  | [] => exact fun id hid => absurd hid List.not_mem_nil
  | f :: rest =>
    rw [ofForms, unrecognizedIdsOf, List.forall_mem_append]
    exact ⟨unrecognizedIds_ofForm f, unrecognizedIds_ofForms rest⟩

end

/-- What was loaded once stands for itself. -/
theorem ofForm_toForm_ofForm (f : Form) : ofForm (toForm (ofForm f)) = ofForm f :=
  ofForm_toForm (ofForm f) (unrecognizedIds_ofForm f)

/-! ## Reading what was written -/

theorem texts?_textsDatum (xs : List String) : texts? (textsDatum xs) = some xs := RoundTrips.texts.reread xs

theorem form?_apply {args : Datum} (hargs : args? args = some fs) :
    form? dialect (.object [("type", .text "apply"), ("function", .text function), ("args", args)]) =
      some (.apply function fs) := by
  show (args? args).bind (fun fs => some (Form.apply function fs)) = _
  rw [hargs]
  rfl

mutual

/-- **A written form is read back.** -/
theorem form?_formDatum (dialect : Dialect) (f : Form) : form? dialect (formDatum f) = some f := by
  match f with
  | .apply function [] => rfl
  | .apply function (arg :: rest) => exact form?_apply (forms?_formData (arg :: rest))
  | .designator attributeId => rfl
  | .value values =>
    show (texts? (textsDatum values)).bind (fun values => some (Form.value values)) = _
    rw [texts?_textsDatum]
    rfl

theorem forms?_formData (fs : List Form) : forms? (formData fs) = some fs := by
  match fs with
  | [] => rfl
  | f :: rest =>
    rw [formData, forms?, form?_formDatum .tagged f, forms?_formData rest]
    rfl

end

mutual

theorem isPlain_formDatum (f : Form) : (formDatum f).isPlain = true := by
  match f with
  | .apply function [] => rfl
  | .apply function (arg :: rest) =>
    have hargs := itemsPlain_formData (arg :: rest)
    have hmembers : (formDatum (.apply function (arg :: rest))).isPlain =
      (true && (true && (Datum.itemsPlain (formData (arg :: rest)) && true))) := rfl
    rw [hmembers, hargs]
    rfl
  | .designator attributeId => rfl
  | .value values =>
    have hvalues : (textsDatum values).isPlain = true := RoundTrips.texts.plain values
    have hmembers : (formDatum (.value values)).isPlain = (true && ((textsDatum values).isPlain && true)) := rfl
    rw [hmembers, hvalues]
    rfl

theorem itemsPlain_formData (fs : List Form) : Datum.itemsPlain (formData fs) = true := by
  match fs with
  | [] => rfl
  | f :: rest =>
    rw [formData, Datum.itemsPlain, isPlain_formDatum f, itemsPlain_formData rest]
    rfl

end

/-! ## No deeper than what was read -/

theorem depth_textsDatum (xs : List String) : (textsDatum xs).depth = 1 :=
  Nat.le_antisymm (RoundTrips.texts.depth xs) (Nat.succ_pos _)

theorem depth_formDatum_apply (function : String) (f : Form) (fs : List Form) :
    (formDatum (.apply function (f :: fs))).depth = Datum.itemsDepth (formData (f :: fs)) + 2 := by
  show max 0 (max 0 (max (Datum.itemsDepth (formData (f :: fs)) + 1) 0)) + 1 = _
  omega

theorem depth_formDatum_value (values : List String) : (formDatum (.value values)).depth = 2 := by
  show max 0 (max (textsDatum values).depth 0) + 1 = 2
  rw [depth_textsDatum]
  rfl

/-- What a part of a tree holds is no deeper than the tree below its root. -/
structure Part.Within (part : Part) (n : Nat) : Prop where
  datum : part.datum.depth ≤ n
  args : ∀ fs, part.args = some fs → Datum.itemsDepth (formData fs) + 1 ≤ n

theorem Part.Within.mono {part : Part} {m : Nat} (h : part.Within m) (hle : m ≤ n) : part.Within n :=
  ⟨Nat.le_trans h.datum hle, fun fs hfs => Nat.le_trans (h.args fs hfs) hle⟩

/-- What a record of some kind spells, and from which of its parts. -/
theorem Form.ofShape_cases {kind : Kind} {shape : Shape Part} (h : Form.ofShape kind shape = some f) :
    (∃ function args, f = .apply function args ∧ (args = [] ∨ ∃ part ∈ shape.values, part.args = some args)) ∨
      (∃ attributeId, f = .designator attributeId) ∨
        ∃ values, f = .value values ∧ ∃ part ∈ shape.values, texts? part.datum = some values := by
  unfold Form.ofShape at h
  cases kind with
  | apply =>
    obtain ⟨slots, hslots, h⟩ := Option.bind_eq_some_iff.mp h
    split at h
    · rename_i functionSlot argsSlot
      obtain ⟨function, -, h⟩ := Option.bind_eq_some_iff.mp h
      obtain ⟨args, hargs, h⟩ := Option.bind_eq_some_iff.mp h
      refine Or.inl ⟨function, args, (Option.some.inj h).symm, ?_⟩
      -- arguments that are not written are none
      cases argsSlot with
      | given part => exact Or.inr ⟨part, Shape.mem_values_of_slots hslots (by simp), hargs⟩
      | unnamed | unlisted => exact Or.inl (Option.some.inj hargs).symm
    · cases h
  | designator =>
    obtain ⟨slots, -, h⟩ := Option.bind_eq_some_iff.mp h
    split at h
    · obtain ⟨attributeId, -, h⟩ := Option.bind_eq_some_iff.mp h
      exact Or.inr (Or.inl ⟨attributeId, (Option.some.inj h).symm⟩)
    · cases h
  | value =>
    obtain ⟨slots, hslots, h⟩ := Option.bind_eq_some_iff.mp h
    split at h
    · rename_i valuesSlot
      obtain ⟨values, hvalues, h⟩ := Option.bind_eq_some_iff.mp h
      refine Or.inr (Or.inr ⟨values, (Option.some.inj h).symm, ?_⟩)
      cases valuesSlot with
      | given part => exact ⟨part, Shape.mem_values_of_slots hslots (by simp), hvalues⟩
      | unnamed | unlisted => cases hvalues
    · cases h

/-- A record whose parts are not deeper spells a condition that is not deeper. -/
theorem depth_formDatum_of_tagged {shape : Shape Part} (hparts : ∀ part ∈ shape.values, part.Within n)
    (h : Form.ofTagged dialect shape = some f) : (formDatum f).depth ≤ n + 1 := by
  obtain ⟨⟨tag, rest⟩, huntag, h⟩ := Option.bind_eq_some_iff.mp h
  obtain ⟨kind, -, h⟩ := Option.bind_eq_some_iff.mp h
  have hrest : ∀ part ∈ rest.values, part.Within n := fun part hpart =>
    hparts part (Shape.mem_values_of_untag huntag hpart)
  rcases Form.ofShape_cases h with ⟨function, args, rfl, hargs⟩ | ⟨attributeId, rfl⟩ | ⟨values, rfl, hvalues⟩
  · cases args with
    | nil => exact Nat.le_add_left 1 n
    | cons arg args =>
      rcases hargs with hnil | ⟨part, hpart, hargs⟩
      · cases hnil
      · have hle := (hrest part hpart).args _ hargs
        rw [depth_formDatum_apply]
        omega
  · exact Nat.le_add_left 1 n
  · obtain ⟨part, hpart, hvalues⟩ := hvalues
    have hle := (hrest part hpart).datum
    -- texts are read from a list, and a list is not flat
    have hlist : 0 < part.datum.depth := by
      cases hdatum : part.datum with
      | list items => exact Nat.succ_pos _
      | _ =>
        rw [hdatum] at hvalues
        cases hvalues
    rw [depth_formDatum_value]
    omega

mutual

/-- **What is written for a form is no deeper than the tree from which the form was read.** -/
theorem depth_formDatum_le {dialect : Dialect} (d : Datum) {f : Form} (h : form? dialect d = some f) :
    (formDatum f).depth ≤ d.depth := by
  match d with
  | .object members =>
    refine depth_formDatum_of_tagged (fun part hpart => ?_) h
    obtain ⟨member, hmember, rfl⟩ := List.mem_map.mp hpart
    exact within_of_memberParts members member hmember
  | .list items =>
    have hparts : ∀ part ∈ (Shape.listed (itemParts items)).values, part.Within (Datum.itemsDepth items) :=
      within_of_itemParts items
    exact depth_formDatum_of_tagged hparts h
  | .null | .bool _ | .natural _ | .number | .text _ | .unreadable => cases h

theorem depth_args_lt (d : Datum) {fs : List Form} (h : args? d = some fs) :
    Datum.itemsDepth (formData fs) < d.depth := by
  match d with
  | .list items => exact Nat.lt_succ_of_le (depth_forms_le items h)
  | .object _ | .null | .bool _ | .natural _ | .number | .text _ | .unreadable => cases h

theorem depth_forms_le (items : List Datum) {fs : List Form} (h : forms? items = some fs) :
    Datum.itemsDepth (formData fs) ≤ Datum.itemsDepth items := by
  match items with
  | [] =>
    cases h
    exact Nat.le_refl 0
  | item :: rest =>
    obtain ⟨f, hf, h⟩ := Option.bind_eq_some_iff.mp h
    obtain ⟨fs', hfs', h⟩ := Option.bind_eq_some_iff.mp h
    obtain rfl := Option.some.inj h
    have hfirst := depth_formDatum_le item hf
    have hrest := depth_forms_le rest hfs'
    rw [formData, Datum.itemsDepth, Datum.itemsDepth]
    omega

theorem within_of_memberParts (members : List (String × Datum)) :
    ∀ member ∈ memberParts members, member.2.Within (Datum.membersDepth members) := by
  match members with
  | [] => exact fun member hmember => absurd hmember List.not_mem_nil
  | (name, value) :: rest =>
    rw [memberParts, Datum.membersDepth]
    refine List.forall_mem_cons.mpr ⟨?_, fun member hmember => ?_⟩
    · exact ⟨Nat.le_max_left _ _, fun fs hfs => Nat.le_trans (depth_args_lt value hfs) (Nat.le_max_left _ _)⟩
    · exact (within_of_memberParts rest member hmember).mono (Nat.le_max_right _ _)

theorem within_of_itemParts (items : List Datum) :
    ∀ part ∈ itemParts items, part.Within (Datum.itemsDepth items) := by
  match items with
  | [] => exact fun part hpart => absurd hpart List.not_mem_nil
  | item :: rest =>
    rw [itemParts, Datum.itemsDepth]
    refine List.forall_mem_cons.mpr ⟨?_, fun part hpart => ?_⟩
    · exact ⟨Nat.le_max_left _ _, fun fs hfs => Nat.le_trans (depth_args_lt item hfs) (Nat.le_max_left _ _)⟩
    · exact (within_of_itemParts rest part hpart).mono (Nat.le_max_right _ _)

end

theorem depth_formDatum_apply_le {args' : List Form} (function function' : String)
    (h : Datum.itemsDepth (formData fs) ≤ Datum.itemsDepth (formData args')) (hnil : args' = [] → fs = []) :
    (formDatum (.apply function fs)).depth ≤ (formDatum (.apply function' args')).depth := by
  cases args' with
  | nil =>
    obtain rfl := hnil rfl
    exact Nat.le_refl 1
  | cons arg rest =>
    rw [depth_formDatum_apply]
    cases fs with
    | nil => exact Nat.le_add_left 1 _
    | cons f fs =>
      rw [depth_formDatum_apply]
      exact Nat.add_le_add_right h 2

mutual

/-- **Loading a form does not make it deeper.** -/
theorem depth_formDatum_ofForm_le (f : Form) : (formDatum (toForm (ofForm f))).depth ≤ (formDatum f).depth := by
  match f with
  | .apply function args =>
    have hargs := depth_formData_ofForms_le args
    have hnil : args = [] → toForms (ofForms args) = [] := by
      rintro rfl
      rfl
    show (formDatum (toForm (ofFunction function (ofForms args)))).depth ≤ _
    -- a connective or a comparison keeps its arguments, every other function loses them
    rcases ofFunction_cases function (ofForms args) with ⟨op, heq⟩ | ⟨test, heq⟩ | ⟨change, heq⟩ | ⟨-, heq⟩
    · rw [heq]
      exact depth_formDatum_apply_le _ _ hargs hnil
    · rw [heq]
      exact depth_formDatum_apply_le _ _ hargs hnil
    · rw [heq]
      exact depth_formDatum_apply_le _ _ (Nat.zero_le _) fun _ => rfl
    · rw [heq]
      exact depth_formDatum_apply_le _ _ (Nat.zero_le _) fun _ => rfl
  | .designator _ | .value _ => exact Nat.le_refl _

theorem depth_formData_ofForms_le (fs : List Form) :
    Datum.itemsDepth (formData (toForms (ofForms fs))) ≤ Datum.itemsDepth (formData fs) := by
  match fs with
  | [] => exact Nat.le_refl 0
  | f :: rest =>
    have hfirst := depth_formDatum_ofForm_le f
    have hrest := depth_formData_ofForms_le rest
    rw [ofForms, toForms, formData, formData, Datum.itemsDepth, Datum.itemsDepth]
    omega

end

/-- **Conditions survive rewriting.** -/
theorem survives (dialect : Dialect) : Survives 0 (ofDatum? dialect) toDatum := by
  have hform : ∀ d c, ofDatum? dialect d = some c → ∃ f, form? dialect d = some f ∧ c = ofForm f := by
    intro d c h
    unfold ofDatum? at h
    split_ifs at h
    obtain ⟨f, hf, rfl⟩ := Option.map_eq_some_iff.mp h
    exact ⟨f, hf, rfl⟩
  refine ⟨fun d c _ => isPlain_formDatum (toForm c), fun d c h => ?_, fun d c h => ?_⟩
  · obtain ⟨f, hf, rfl⟩ := hform d c h
    have hle := depth_formDatum_ofForm_le f
    have hle' := depth_formDatum_le d hf
    unfold toDatum
    omega
  · obtain ⟨f, -, rfl⟩ := hform d c h
    unfold ofDatum? toDatum
    rw [if_pos (Datum.isReadable_of_isPlain _ (isPlain_formDatum _)), form?_formDatum, Option.map_some,
      ofForm_toForm_ofForm]

end AccessDecision.Condition
