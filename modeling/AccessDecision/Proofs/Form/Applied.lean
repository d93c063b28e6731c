import AccessDecision.Proofs.Form.Canonical
import AccessDecision.Proofs.Form.Document
import AccessDecision.Proofs.Form.Fields
import AccessDecision.Proofs.Form.Settings

/-!
# Unknown functions in documents as they are written

Which functions a condition applies, and under which other ones, can be seen in the tree from which it is loaded
(`appliesUnder_iff_of_form?`).  Loading drops the arguments of functions that take none, so an unknown function
is kept exactly if no function above it is one of those (`mem_unrecognizedIds_iff_of_ofDatum?`).  From conditions
this carries over to the policies of a document, and a service keeps the last of the policy sets that are written
for it (`PolicyDocument.exists_services_iff`).
-/

namespace AccessDecision

open Condition

/-! ## Definitions -/

/-- The fields of an application. -/
def applicationFields : List String := ["type", "function", "args"]

/-- The tag of an application, by its name or by its number. -/
def Datum.IsApplicationTag : Datum → Prop
  | .text name => name = "apply"
  | .natural n => n = 0
  | _ => False

/-- A tree is an application. -/
def Datum.IsApplication (d : Datum) : Prop := ∃ tag, d.Says applicationFields "type" tag ∧ tag.IsApplicationTag

/-- A tree applies a function. -/
def Datum.Applies (d : Datum) (function : String) : Prop :=
  d.IsApplication ∧ d.Says applicationFields "function" (.text function)

/-- A tree applies a function in the arguments of these other functions, the outermost one first. -/
def Datum.AppliesUnder (function : String) : List String → Datum → Prop
  | [], d => d.Applies function
  | above :: outer, d =>
    d.Applies above ∧ ∃ items, d.Says applicationFields "args" (.list items) ∧
      ∃ item ∈ items, item.AppliesUnder function outer

/-- A form applies a function in the arguments of these other functions, the outermost one first. -/
def Condition.Form.AppliesUnder (function : String) : List String → Form → Prop
  | [], f => ∃ args, f = .apply function args
  | above :: outer, f => ∃ args, f = .apply above args ∧ ∃ arg ∈ args, arg.AppliesUnder function outer

/-- A written condition applies an unknown function, and all functions above it take arguments. -/
def Datum.AppliesUnknown (id : String) (d : Datum) : Prop :=
  id ∉ knownIds ∧ ∃ outer, d.AppliesUnder id outer ∧ ∀ function ∈ outer, function ∈ idsWithArguments

/-- A form applies an unknown function, and all functions above it take arguments. -/
def Condition.Form.AppliesUnknown (id : String) (f : Form) : Prop :=
  id ∉ knownIds ∧ ∃ outer, f.AppliesUnder id outer ∧ ∀ function ∈ outer, function ∈ idsWithArguments

/-- A rule of a written policy applies an unknown function in its condition. -/
def Datum.PolicyAppliesUnknown (id : String) (d : Datum) : Prop :=
  ∃ rules, d.Says Policy.fields "rules" (.list rules) ∧
    ∃ rule ∈ rules, ∃ condition, rule.Says Rule.fields "condition" condition ∧ condition.AppliesUnknown id

/-- The last policies that are written for a service. -/
def Datum.WritesPolicies (d : Datum) (service : String) (policies : List Datum) : Prop :=
  ∃ members, d.Says ["services"] "services" (.object members) ∧
    (Datum.valuesOf service members).getLast? = some (.list policies)

namespace Condition

variable {dialect : Dialect} {d : Datum} {f : Form} {fs args : List Form} {function id : String} {c : Condition}
  {outer : List String} {shape : Shape Part}

/-! ## Parts of a tree -/

/-- The part that a tree is. -/
def Part.of (d : Datum) : Part := ⟨d, args? d⟩

theorem memberParts_eq_map (members : List (String × Datum)) :
    memberParts members = members.map fun (name, value) => (name, Part.of value) := by
  induction members with
  | nil => rfl
  | cons member rest ih =>
    rw [memberParts, ih]
    rfl

theorem itemParts_eq_map (items : List Datum) : itemParts items = items.map Part.of := by
  induction items with
  | nil => rfl
  | cons item rest ih =>
    rw [itemParts, ih]
    rfl

theorem forms?_eq_mapM (items : List Datum) : forms? items = items.mapM (form? .tagged) := by
  induction items with
  | nil => rfl
  | cons item rest ih => rw [forms?, ih, List.mapM_cons]

theorem form?_eq_bind (dialect : Dialect) (d : Datum) :
    form? dialect d = d.shape?.bind fun shape => Form.ofTagged dialect (shape.map Part.of) := by
  cases d with
  | object members =>
    rw [form?, memberParts_eq_map]
    rfl
  | list items =>
    rw [form?, itemParts_eq_map]
    rfl
  | _ => rfl

theorem eq_text_of_text? {s : String} (h : d.text? = some s) : d = .text s := by
  cases d with
  | text value => exact congrArg Datum.text (Option.some.inj h)
  | _ => cases h

theorem exists_of_args? (h : args? d = some fs) :
    ∃ items, d = .list items ∧ items.mapM (form? .tagged) = some fs := by
  cases d with
  | list items => exact ⟨items, rfl, (forms?_eq_mapM items).symm.trans h⟩
  | _ => cases h

theorem exists_of_listOf {β : Type} {read : Datum → Option β} {ys : List β} (h : listOf read d = some ys) :
    ∃ items, d = .list items ∧ items.mapM read = some ys := by
  cases d with
  | list items => exact ⟨items, rfl, h⟩
  | _ => cases h

theorem isApplicationTag_iff_of_tag? {kind : Kind} (h : tag? dialect kinds d = some kind) :
    d.IsApplicationTag ↔ kind = .apply := by
  cases d with
  | text name =>
    have hlookup : kinds.lookup name = some kind := h
    show name = "apply" ↔ kind = .apply
    grind [kinds]
  | natural n =>
    unfold tag? at h
    split_ifs at h
    match n with
    | 0 => exact iff_of_true rfl (Option.some.inj h).symm
    | 1 | 2 =>
      obtain rfl := Option.some.inj h
      exact iff_of_false (Nat.succ_ne_zero _) nofun
    | n + 3 => cases h
  | _ => cases h

/-! ## Reading a condition -/

/-- The record without the tag, and what the tree says in terms of it. -/
theorem exists_ofShape_of_form? (h : form? dialect d = some f) :
    ∃ kind rest, Form.ofShape kind rest = some f ∧ (d.IsApplication ↔ kind = .apply) ∧
      ∀ field part, field ≠ "type" → (rest.Says ["function", "args"] field part ↔
        ∃ value, d.Says applicationFields field value ∧ Part.of value = part) := by
  rw [form?_eq_bind] at h
  obtain ⟨shape, hshape, h⟩ := Option.bind_eq_some_iff.mp h
  obtain ⟨⟨tag, rest⟩, huntag, h⟩ := Option.bind_eq_some_iff.mp h
  obtain ⟨kind, hkind, h⟩ := Option.bind_eq_some_iff.mp h
  have hunder : ∀ field value, d.Says applicationFields field value ↔
      shape.Says applicationFields field value := by
    intro field value
    simp [Datum.Says, hshape]
  -- the field that the tag is taken from is the only one of its name
  have htag : ∀ part, (shape.map Part.of).Says applicationFields "type" part ↔ part = tag :=
    fun part => Shape.says_tag_iff huntag (by decide)
  refine ⟨kind, rest, h, ?_, fun field part hne => ?_⟩
  · rw [← isApplicationTag_iff_of_tag? hkind]
    obtain ⟨value, hvalue, rfl⟩ := Shape.says_map.mp ((htag tag).mpr rfl)
    constructor
    · -- a field of this name is the tag, so it is the one that was read
      rintro ⟨value', hvalue', happ⟩
      have heq : Part.of value' = Part.of value :=
        (htag _).mp (Shape.says_map.mpr ⟨value', (hunder _ _).mp hvalue', rfl⟩)
      rwa [← congrArg Part.datum heq]
    · exact fun happ => ⟨value, (hunder _ _).mpr hvalue, happ⟩
  · rw [← Shape.says_iff_of_untag huntag hne]
    simp only [hunder]
    exact Shape.says_map

/-- What stands for the fields of an application. -/
theorem Form.ofShape_apply {rest : Shape Part} (h : Form.ofShape .apply rest = some f) :
    ∃ functionSlot argsSlot function args,
      rest.slots .tagged ["function", "args"] = some [functionSlot, argsSlot] ∧
        functionSlot.required (·.datum.text?) = some function ∧ argsSlot.orElse Part.args [] = some args ∧
        f = .apply function args := by
  obtain ⟨slots, hslots, h⟩ := Option.bind_eq_some_iff.mp h
  split at h
  · obtain ⟨function, hfunction, h⟩ := Option.bind_eq_some_iff.mp h
    obtain ⟨args, hargs, h⟩ := Option.bind_eq_some_iff.mp h
    exact ⟨_, _, function, args, hslots, hfunction, hargs, (Option.some.inj h).symm⟩
  · cases h

theorem Form.eq_apply_of_ofShape {kind : Kind} {rest : Shape Part}
    (h : Form.ofShape kind rest = some (.apply function args)) : kind = .apply := by
  cases kind with
  | apply => rfl
  | designator | value =>
    obtain ⟨slots, -, h⟩ := Option.bind_eq_some_iff.mp h
    split at h
    · obtain ⟨_, -, h⟩ := Option.bind_eq_some_iff.mp h
      cases h
    · cases h

/-- Where a part stands for a field, the tree of this part is what is said under the field. -/
theorem Part.exists_of_given {Says : Datum → Prop} {part : Part}
    (h : ∀ part', Slot.given part = .given part' ↔ ∃ value, Says value ∧ Part.of value = part') :
    ∃ value, Part.of value = part ∧ ∀ value', Says value' ↔ value' = value := by
  obtain ⟨value, hvalue, hpart⟩ := (h part).mp rfl
  refine ⟨value, hpart, fun value' => ⟨fun hvalue' => ?_, fun heq => heq ▸ hvalue⟩⟩
  have heq := (h _).mpr ⟨value', hvalue', rfl⟩
  rw [← hpart, Slot.given.injEq] at heq
  exact (congrArg Part.datum heq).symm

/-- **What is read from a tree, in terms of what the tree says.** -/
theorem form?_cases (h : form? dialect d = some f) :
    (∃ function args, f = .apply function args ∧ d.IsApplication ∧
      (∀ value, d.Says applicationFields "function" value ↔ value = .text function) ∧
      ((args = [] ∧ ∀ value, ¬ d.Says applicationFields "args" value) ∨
        ∃ items, (∀ value, d.Says applicationFields "args" value ↔ value = .list items) ∧
          items.mapM (form? .tagged) = some args)) ∨
      ¬ d.IsApplication ∧ ∀ function args, f ≠ .apply function args := by
  obtain ⟨kind, rest, h, htag, hunder⟩ := exists_ofShape_of_form? h
  by_cases hkind : kind = .apply
  · subst hkind
    obtain ⟨functionSlot, argsSlot, function, args, hslots, hfunction, hargs, rfl⟩ := Form.ofShape_apply h
    -- in each place stands the part of the tree that is said under the field
    have hgiven : ∀ (i : Nat) slot field, field ≠ "type" → ["function", "args"][i]? = some field →
        [functionSlot, argsSlot][i]? = some slot → ∀ part, slot = .given part ↔
          ∃ value, d.Says applicationFields field value ∧ Part.of value = part := by
      intro i slot field hne hfield hslot part
      rw [← hunder _ _ hne, Shape.says_iff_of_slots (by decide) hslots hfield hslot]
    refine Or.inl ⟨function, args, rfl, htag.mpr rfl, ?_, ?_⟩
    · cases functionSlot with
      | given part =>
        obtain ⟨value, rfl, hsaid⟩ := Part.exists_of_given (hgiven 0 _ "function" (by decide) rfl rfl)
        obtain rfl := eq_text_of_text? hfunction
        exact hsaid
      | unnamed | unlisted => cases hfunction
    · cases argsSlot with
      | given part =>
        obtain ⟨value, rfl, hsaid⟩ := Part.exists_of_given (hgiven 1 _ "args" (by decide) rfl rfl)
        obtain ⟨items, rfl, hread⟩ := exists_of_args? hargs
        exact Or.inr ⟨items, hsaid, hread⟩
      | unnamed | unlisted =>
        refine Or.inl ⟨(Option.some.inj hargs).symm, fun value hvalue => ?_⟩
        exact nomatch (hgiven 1 _ "args" (by decide) rfl rfl _).mpr ⟨value, hvalue, rfl⟩
  · refine Or.inr ⟨fun happ => hkind (htag.mp happ), ?_⟩
    rintro function args rfl
    exact hkind (Form.eq_apply_of_ofShape h)

theorem applies_iff_of_form? (h : form? dialect d = some f) :
    d.Applies function ↔ ∃ args, f = .apply function args := by
  rcases form?_cases h with ⟨function', args, rfl, happ, hfunction, -⟩ | ⟨hnot, hne⟩
  · simp [Datum.Applies, happ, hfunction, eq_comm]
  · exact iff_of_false (fun happ => hnot happ.1) fun ⟨args, heq⟩ => hne function args heq

/-- What holds of some argument can be seen in the items of the list of arguments. -/
theorem exists_arg_iff_of_form? (h : form? dialect d = some (.apply function args)) {P : Form → Prop}
    {Q : Datum → Prop} (hiff : ∀ item arg, form? .tagged item = some arg → (P arg ↔ Q item)) :
    (∃ arg ∈ args, P arg) ↔ ∃ items, d.Says applicationFields "args" (.list items) ∧ ∃ item ∈ items, Q item := by
  rcases form?_cases h with ⟨_, _, heq, -, -, ⟨rfl, hnone⟩ | ⟨items, hsaid, hread⟩⟩ | ⟨-, hne⟩
  · obtain ⟨-, rfl⟩ := Form.apply.inj heq
    simp [hnone]
  · obtain ⟨-, rfl⟩ := Form.apply.inj heq
    simp [hsaid, exists_mem_iff_of_mapM hread hiff]
  · exact absurd rfl (hne function args)

/-- **A tree applies what the form applies that is read from it**, in the arguments of the same functions. -/
theorem appliesUnder_iff_of_form? (h : form? dialect d = some f) :
    d.AppliesUnder id outer ↔ f.AppliesUnder id outer := by
  induction outer generalizing dialect d f with
  | nil => exact applies_iff_of_form? h
  | cons above outer ih =>
    constructor
    · rintro ⟨happ, hinside⟩
      obtain ⟨args, rfl⟩ := (applies_iff_of_form? h).mp happ
      exact ⟨args, rfl, (exists_arg_iff_of_form? h fun item arg hread => (ih hread).symm).mpr hinside⟩
    · rintro ⟨args, rfl, hinside⟩
      exact ⟨(applies_iff_of_form? h).mpr ⟨args, rfl⟩,
        (exists_arg_iff_of_form? h fun item arg hread => (ih hread).symm).mp hinside⟩

/-! ## Loading a condition -/

theorem idsWithArguments_subset : ∀ function ∈ idsWithArguments, function ∈ knownIds :=
  fun _ h => List.mem_append_left [_, _] h

theorem unrecognizedIds_ofFunction (function : String) (args : List Condition) :
    (ofFunction function args).unrecognizedIds =
      if function ∈ idsWithArguments then unrecognizedIdsOf args
      else if function ∈ knownIds then [] else [function] := by
  by_cases hknown : function ∈ knownIds
  · simp only [knownIds, List.mem_cons, List.not_mem_nil, or_false] at hknown
    rcases hknown with rfl | rfl | rfl | rfl | rfl | rfl | rfl | rfl <;> rfl
  · have hids : function ∉ idsWithArguments := fun h => hknown (idsWithArguments_subset function h)
    rw [ofFunction_unknown hknown, if_neg hids, if_neg hknown, unrecognizedIds]

theorem Form.appliesUnknown_apply : (Form.apply function args).AppliesUnknown id ↔
    (id ∉ knownIds ∧ function = id) ∨ function ∈ idsWithArguments ∧ ∃ arg ∈ args, arg.AppliesUnknown id := by
  constructor
  · rintro ⟨hunknown, outer, happ, houter⟩
    -- either the function itself is meant, or one below it, and then this one takes arguments
    cases outer with
    | nil =>
      obtain ⟨_, heq⟩ := happ
      exact Or.inl ⟨hunknown, (Form.apply.inj heq).1⟩
    | cons above outer =>
      obtain ⟨_, heq, arg, harg, happ⟩ := happ
      obtain ⟨rfl, rfl⟩ := Form.apply.inj heq
      obtain ⟨habove, houter⟩ := List.forall_mem_cons.mp houter
      exact Or.inr ⟨habove, arg, harg, hunknown, outer, happ, houter⟩
  · rintro (⟨hunknown, rfl⟩ | ⟨hfunction, arg, harg, hunknown, outer, happ, houter⟩)
    · exact ⟨hunknown, [], ⟨args, rfl⟩, fun _ h => absurd h List.not_mem_nil⟩
    · exact ⟨hunknown, function :: outer, ⟨args, rfl, arg, harg, happ⟩,
        List.forall_mem_cons.mpr ⟨hfunction, houter⟩⟩

mutual

/-- **Loading keeps an unknown function** exactly if all functions above it take arguments. -/
theorem mem_unrecognizedIds_ofForm (f : Form) : id ∈ (ofForm f).unrecognizedIds ↔ f.AppliesUnknown id := by
  match f with
  | .apply function args =>
    rw [ofForm, unrecognizedIds_ofFunction, Form.appliesUnknown_apply, ← mem_unrecognizedIdsOf_ofForms args]
    have hsubset := idsWithArguments_subset function
    -- a function that takes arguments is known, so an unknown one stands below it;
    -- a normalizer has nothing below it
    split_ifs with hids hknown
    · grind
    · grind
    · grind
  | .designator _ | .value _ =>
    refine iff_of_false List.not_mem_nil ?_
    rintro ⟨-, _ | ⟨above, outer⟩, ⟨_, heq, -⟩, -⟩
    cases heq

theorem mem_unrecognizedIdsOf_ofForms (fs : List Form) :
    id ∈ unrecognizedIdsOf (ofForms fs) ↔ ∃ f ∈ fs, f.AppliesUnknown id := by
  match fs with
  | [] => simp [ofForms, unrecognizedIdsOf]
  | f :: rest =>
    rw [ofForms, unrecognizedIdsOf, List.mem_append, mem_unrecognizedIds_ofForm f,
      mem_unrecognizedIdsOf_ofForms rest, List.exists_mem_cons_iff]

end

/-- The unknown functions of a loaded condition can be seen in the tree from which it was loaded. -/
theorem mem_unrecognizedIds_iff_of_ofDatum? (h : ofDatum? dialect d = some c) :
    id ∈ c.unrecognizedIds ↔ d.AppliesUnknown id := by
  unfold ofDatum? at h
  split_ifs at h
  obtain ⟨f, hf, rfl⟩ := Option.map_eq_some_iff.mp h
  rw [mem_unrecognizedIds_ofForm, Form.AppliesUnknown, Datum.AppliesUnknown]
  simp only [appliesUnder_iff_of_form? hf]

end Condition

/-! ## Loading a policy -/

theorem Datum.not_appliesUnknown_null (id : String) : ¬ Datum.null.AppliesUnknown id := by
  rintro ⟨-, outer, happ, -⟩
  have hnot : ¬ Datum.null.IsApplication := fun ⟨_, hunder, _⟩ => Datum.not_says_null hunder
  cases outer with
  | nil => exact hnot happ.1
  | cons above outer => exact hnot happ.1.1

section Policies

variable {dialect : Dialect} {d : Datum} {id : String} {rule : Rule} {policy : Policy}

theorem Rule.mem_unrecognizedIds_iff (h : Rule.ofDatum? dialect d = some rule) :
    id ∈ (rule.condition.map Condition.unrecognizedIds).getD [] ↔
      ∃ condition, d.Says Rule.fields "condition" condition ∧ condition.AppliesUnknown id := by
  obtain ⟨_, _, _, _, slot, hslots, -, -, -, -, hcondition⟩ := Rule.ofDatum?_eq_some.mp h
  have hsaid : ∀ value, d.Says Rule.fields "condition" value ↔ slot = .given value :=
    fun value => Datum.says_iff_of_slots (by decide) hslots (rfl : Rule.fields[4]? = _) rfl
  simp only [hsaid]
  cases slot with
  | given value =>
    cases hrule : rule.condition with
    | none =>
      rw [hrule] at hcondition
      obtain rfl := nullable_eq_some_none_iff.mp hcondition
      simp [Datum.not_appliesUnknown_null]
    | some c =>
      rw [hrule] at hcondition
      obtain ⟨-, hread⟩ := nullable_eq_some_some_iff.mp hcondition
      simp [mem_unrecognizedIds_iff_of_ofDatum? hread]
  | unnamed | unlisted =>
    have hnone : none = rule.condition := Option.some.inj hcondition
    simp [← hnone]

/-- **The unknown functions of a loaded policy** can be seen in the tree from which it was loaded. -/
theorem Policy.mem_unrecognizedIds_iff (h : Policy.ofDatum? dialect d = some policy) :
    id ∈ policy.unrecognizedIds ↔ d.PolicyAppliesUnknown id := by
  obtain ⟨_, _, _, slot, hslots, -, -, -, hrules⟩ := Policy.ofDatum?_eq_some.mp h
  have hsaid : ∀ value, d.Says Policy.fields "rules" value ↔ slot = .given value :=
    fun value => Datum.says_iff_of_slots (by decide) hslots (rfl : Policy.fields[3]? = _) rfl
  unfold Policy.unrecognizedIds Datum.PolicyAppliesUnknown
  simp only [hsaid, List.mem_flatMap]
  cases slot with
  | given value =>
    obtain ⟨items, rfl, hread⟩ := exists_of_listOf hrules
    rw [exists_mem_iff_of_mapM hread fun item rule => Rule.mem_unrecognizedIds_iff]
    simp
  | unnamed | unlisted =>
    have hnone : [] = policy.rules := Option.some.inj hrules
    simp [← hnone]

theorem Policy.says_policyId_iff (h : Policy.ofDatum? dialect d = some policy) (policyId : String) :
    d.Says Policy.fields "policy_id" (.text policyId) ↔ policyId = policy.policyId := by
  obtain ⟨slot, _, _, _, hslots, hpolicyId, -⟩ := Policy.ofDatum?_eq_some.mp h
  rw [Datum.says_iff_of_slots (by decide) hslots (rfl : Policy.fields[0]? = _) rfl]
  cases slot with
  | given value =>
    obtain rfl := eq_text_of_text? hpolicyId
    simp [eq_comm]
  | unnamed | unlisted => cases hpolicyId

end Policies

/-! ## Loading a document -/

section Documents

variable {dialect : Dialect} {d : Datum} {service name : String} {policies : List Policy} {value : Datum}
  {members : List (String × Datum)} {services : List (String × List Policy)} {document : PolicyDocument}

theorem mem_insertService_iff (h : InOrder services) {entry : String × List Policy} :
    entry ∈ insertService service policies services ↔
      entry = (service, policies) ∨ entry ∈ services ∧ entry.1 ≠ service := by
  induction services with
  | nil => simp [insertService]
  | cons first rest ih =>
    obtain ⟨hfirst, hrest⟩ := List.pairwise_cons.mp h
    unfold insertService
    split_ifs with heq hlt
    · -- the place of the service: no later name is the same
      have hne : ∀ entry ∈ rest, entry.1 ≠ service := fun entry hentry => heq ▸ ne_of_gt (hfirst entry hentry)
      grind
    · have hne : ∀ entry ∈ first :: rest, entry.1 ≠ service :=
        List.forall_mem_cons.mpr ⟨ne_of_gt hlt, fun entry hentry => ne_of_gt (lt_trans hlt (hfirst entry hentry))⟩
      grind
    · rw [List.mem_cons, ih hrest]
      grind

theorem valuesOf_concat : Datum.valuesOf service (members ++ [(name, value)]) =
    Datum.valuesOf service members ++ if name = service then [value] else [] := by
  unfold Datum.valuesOf
  split_ifs with h <;> simp [h]

theorem exists_of_services? (h : services? dialect d = some services) : ∃ members, d = .object members := by
  cases d with
  | object members => exact ⟨members, rfl⟩
  | _ => cases h

theorem services?_concat (h : services? dialect (.object (members ++ [(name, value)])) = some services) :
    ∃ services' policies, services? dialect (.object members) = some services' ∧
      listOf (Policy.ofDatum? dialect) value = some policies ∧ services = services' ++ [(name, policies)] := by
  have h : (members ++ [(name, value)]).mapM _ = some services := h
  rw [List.mapM_append] at h
  obtain ⟨services', hservices', h⟩ := Option.bind_eq_some_iff.mp h
  obtain ⟨last, hlast, h⟩ := Option.bind_eq_some_iff.mp h
  obtain ⟨entry, hentry, hlast⟩ := Option.bind_eq_some_iff.mp hlast
  obtain ⟨policies, hpolicies, rfl⟩ := Option.map_eq_some_iff.mp hentry
  obtain rfl := Option.some.inj hlast
  exact ⟨services', policies, hservices', hpolicies, (Option.some.inj h).symm⟩

/-- A service keeps the last policies that are written for it. -/
theorem PolicyDocument.mem_ofList_iff (h : services? dialect (.object members) = some services) :
    (service, policies) ∈ (PolicyDocument.ofList services).services ↔
      (Datum.valuesOf service members).getLast?.bind (listOf (Policy.ofDatum? dialect)) = some policies := by
  induction members using List.reverseRecOn generalizing services with
  | nil =>
    cases h
    simp [PolicyDocument.ofList, Datum.valuesOf]
  | append_singleton members member ih =>
    -- from the end: the last member of a name decides its policies
    obtain ⟨services', policies', hservices', hpolicies', rfl⟩ := services?_concat h
    rw [PolicyDocument.ofList_append, PolicyDocument.services_insert,
      mem_insertService_iff (PolicyDocument.ofList services').inOrder, ih hservices', valuesOf_concat]
    by_cases hname : member.1 = service
    · simp [hname, hpolicies', eq_comm]
    · simp [hname, Ne.symm hname]

/-- All policies that are written for a service are read. -/
theorem exists_policies_of_mem_valuesOf (h : services? dialect (.object members) = some services)
    (hvalue : value ∈ Datum.valuesOf service members) :
    ∃ policies, listOf (Policy.ofDatum? dialect) value = some policies := by
  obtain ⟨⟨name, value⟩, hmember, rfl⟩ := List.mem_map.mp hvalue
  obtain ⟨i, hi⟩ := List.mem_iff_getElem?.mp (List.mem_filter.mp hmember).1
  obtain ⟨entry, -, hentry⟩ := getElem?_of_mapM (show members.mapM _ = some services from h) hi
  obtain ⟨policies, hpolicies, -⟩ := Option.map_eq_some_iff.mp hentry
  exact ⟨policies, hpolicies⟩

/-- **The services of a loaded document** are those for which policies are written, with the last ones. What
holds of some service with its policies can be seen in the tree from which the document was loaded. -/
theorem PolicyDocument.exists_services_iff (h : PolicyDocument.ofDatum? dialect d = some document)
    {P : String → List Policy → Prop} {Q : String → List Datum → Prop}
    (hiff : ∀ service items policies, items.mapM (Policy.ofDatum? dialect) = some policies →
      (P service policies ↔ Q service items)) :
    (∃ service policies, (service, policies) ∈ document.services ∧ P service policies) ↔
      ∃ service items, d.WritesPolicies service items ∧ Q service items := by
  obtain ⟨slot, services, hslots, hservices, rfl⟩ := PolicyDocument.ofDatum?_eq_some.mp h
  have hsaid : ∀ value, d.Says ["services"] "services" value ↔ slot = .given value :=
    fun value => Datum.says_iff_of_slots (by decide) hslots (rfl : ["services"][0]? = _) rfl
  cases slot with
  | given value =>
    obtain ⟨members, rfl⟩ := exists_of_services? hservices
    constructor
    · rintro ⟨service, policies, hmem, hP⟩
      rw [PolicyDocument.mem_ofList_iff hservices] at hmem
      obtain ⟨written, hlast, hpolicies⟩ := Option.bind_eq_some_iff.mp hmem
      obtain ⟨items, rfl, hread⟩ := exists_of_listOf hpolicies
      exact ⟨service, items, ⟨members, (hsaid _).mpr rfl, hlast⟩, (hiff service items policies hread).mp hP⟩
    · rintro ⟨service, items, ⟨members', hunder, hlast⟩, hQ⟩
      -- the field has one value, which is the one that was read
      obtain rfl : members = members' := by
        have heq := (hsaid _).mp hunder
        rwa [Slot.given.injEq, Datum.object.injEq] at heq
      obtain ⟨policies, hread⟩ := exists_policies_of_mem_valuesOf hservices (List.mem_of_getLast? hlast)
      refine ⟨service, policies, ?_, (hiff service items policies hread).mpr hQ⟩
      rw [PolicyDocument.mem_ofList_iff hservices, hlast]
      exact hread
  | unnamed | unlisted =>
    have hnone : [] = services := Option.some.inj hservices
    simp [← hnone, Datum.WritesPolicies, hsaid, PolicyDocument.ofList]

end Documents

end AccessDecision
