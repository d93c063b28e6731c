import AccessDecision.Condition.Evaluation
import AccessDecision.Pattern.Size
import AccessDecision.Proofs.Form.Condition

/-!
# Canonical forms of conditions

A condition survives being written and loaded again unless it holds an unknown function under an id that loading
knows: such a node is inert as it stands and becomes a live function when it is loaded.  No condition that was
loaded holds one.

What is written for a loaded form is its canonical form (`toForm_ofForm`).  `Form.canonical` is defined on forms
alone and makes two changes: a function is named by the id under which it is written, and a function that takes
no arguments loses those that it has.
-/

namespace AccessDecision.Condition

/-! ## Definitions -/

/-- A condition occurs in another one if it is the other one or occurs in an argument of it. -/
inductive OccursIn (node : Condition) : Condition → Prop where
  | whole : OccursIn node node
  | combine (op : Connective) {args : List Condition} {arg : Condition} : arg ∈ args → OccursIn node arg →
    OccursIn node (combine op args)
  | compare (test : Comparison) {args : List Condition} {arg : Condition} : arg ∈ args → OccursIn node arg →
    OccursIn node (compare test args)

/-- A form occurs in another one if it is the other one or occurs in an argument of it. -/
inductive Form.OccursIn (node : Form) : Form → Prop where
  | whole : OccursIn node node
  | apply (function : String) {args : List Form} {arg : Form} : arg ∈ args → OccursIn node arg →
    OccursIn node (.apply function args)

/-- The ids of all functions that take arguments. -/
def idsWithArguments : List String :=
  [Connective.and.id, Connective.or.id, Connective.not.id, Comparison.equal.id, Comparison.regex.id, regexAlias]

/-- The id under which a function is written. -/
def canonicalId (function : String) : String := if function = regexAlias then Comparison.regex.id else function

mutual

/-- The form with each function under the id under which it is written, and with arguments only where a function
takes some. -/
def Form.canonical : Form → Form
  | .apply function args =>
    .apply (canonicalId function) (if function ∈ idsWithArguments then Form.canonicals args else [])
  | .designator attributeId => .designator attributeId
  | .value values => .value values

/-- The canonical forms of a row of forms. -/
def Form.canonicals : List Form → List Form
  | [] => []
  | arg :: rest => Form.canonical arg :: Form.canonicals rest

end

/-- No function of a form has a second name, and none has arguments that it does not take. -/
def Form.IsCanonical (f : Form) : Prop :=
  ∀ function args, (Form.apply function args).OccursIn f →
    function ≠ regexAlias ∧ (function ∉ idsWithArguments → args = [])

variable {function id : String} {args : List Condition}

/-! ## Unknown functions -/

theorem mem_unrecognizedIdsOf : id ∈ unrecognizedIdsOf args ↔ ∃ arg ∈ args, id ∈ arg.unrecognizedIds := by
  induction args with
  | nil => simp [unrecognizedIdsOf]
  | cons arg rest ih => simp [unrecognizedIdsOf, ih]

theorem occursIn_of_mem_unrecognizedIds (c : Condition) (h : id ∈ c.unrecognizedIds) :
    (unrecognized id).OccursIn c := by
  match c with
  | combine op args =>
    obtain ⟨arg, harg, h⟩ := mem_unrecognizedIdsOf.mp h
    exact .combine op harg (occursIn_of_mem_unrecognizedIds arg h)
  | compare test args =>
    obtain ⟨arg, harg, h⟩ := mem_unrecognizedIdsOf.mp h
    exact .compare test harg (occursIn_of_mem_unrecognizedIds arg h)
  | unrecognized function =>
    obtain rfl := List.mem_singleton.mp h
    exact .whole
  | normalizer _ | designator _ | literal _ => cases h

/-- **The collected ids are those of all unknown functions**, however deep they stand. -/
theorem occursIn_unrecognized_iff {c : Condition} : (unrecognized id).OccursIn c ↔ id ∈ c.unrecognizedIds := by
  refine ⟨fun h => ?_, occursIn_of_mem_unrecognizedIds c⟩
  induction h with
  | whole => exact List.mem_singleton_self id
  | combine op harg _ ih => exact mem_unrecognizedIdsOf.mpr ⟨_, harg, ih⟩
  | compare test harg _ ih => exact mem_unrecognizedIdsOf.mpr ⟨_, harg, ih⟩

/-- A condition is what its written form stands for if and only if none of its unknown functions is known. -/
theorem ofForm_toForm_eq_iff {c : Condition} :
    ofForm (toForm c) = c ↔ ∀ id ∈ c.unrecognizedIds, id ∉ knownIds :=
  ⟨fun h => h ▸ unrecognizedIds_ofForm (toForm c), ofForm_toForm c⟩

/-! ## Writing what was loaded -/

/-- Unknown functions and normalizers are those that take no arguments. -/
theorem not_mem_idsWithArguments_iff :
    function ∉ idsWithArguments ↔ function ∉ knownIds ∨ ∃ change : Normalizer, function = change.id := by
  have hknown : function ∈ knownIds ↔
      function ∈ idsWithArguments ∨ ∃ change : Normalizer, function = change.id := by
    -- the two normalizers end the list of the known functions
    have hsplit : knownIds = idsWithArguments ++ [Normalizer.lowercase.id, Normalizer.trimEdges.id] := rfl
    rw [hsplit, List.mem_append, List.mem_pair]
    refine or_congr_right ⟨?_, ?_⟩
    · rintro (rfl | rfl)
      exacts [⟨.lowercase, rfl⟩, ⟨.trimEdges, rfl⟩]
    · rintro ⟨_ | _, rfl⟩
      exacts [Or.inl rfl, Or.inr rfl]
  have hnormalizer : ∀ change : Normalizer, change.id ∉ idsWithArguments := by
    intro change
    cases change <;> decide
  constructor
  · intro h
    by_cases hnone : ∃ change : Normalizer, function = change.id
    · exact Or.inr hnone
    · exact Or.inl fun hmem => (hknown.mp hmem).elim h hnone
  · rintro (h | ⟨change, rfl⟩)
    · exact fun hmem => h (hknown.mpr (Or.inl hmem))
    · exact hnormalizer change

/-- What is written for the node that a function id stands for. -/
theorem toForm_ofFunction (function : String) (args : List Condition) : toForm (ofFunction function args) =
    .apply (canonicalId function) (if function ∈ idsWithArguments then toForms args else []) := by
  by_cases hknown : function ∈ knownIds
  · simp only [knownIds, List.mem_cons, List.not_mem_nil, or_false] at hknown
    rcases hknown with rfl | rfl | rfl | rfl | rfl | rfl | rfl | rfl <;> rfl
  · have hids : function ∉ idsWithArguments := fun h => hknown (List.mem_append_left [_, _] h)
    have halias : function ≠ regexAlias := fun h => hids (h ▸ by decide)
    rw [ofFunction_unknown hknown, canonicalId, if_neg halias, if_neg hids, toForm]

mutual

/-- **What is written for a loaded form is its canonical form.** -/
theorem toForm_ofForm (f : Form) : toForm (ofForm f) = f.canonical := by
  match f with
  | .apply function args => rw [ofForm, toForm_ofFunction, toForms_ofForms args, Form.canonical]
  | .designator _ | .value _ => rfl

theorem toForms_ofForms (fs : List Form) : toForms (ofForms fs) = Form.canonicals fs := by
  match fs with
  | [] => rfl
  | f :: rest => rw [ofForms, toForms, toForm_ofForm f, toForms_ofForms rest, Form.canonicals]

end

theorem canonicalId_ne_regexAlias (function : String) : canonicalId function ≠ regexAlias := by
  unfold canonicalId
  split_ifs with h
  · decide
  · exact h

/-- The other name of a function takes arguments where the function does. -/
theorem canonicalId_mem_iff : canonicalId function ∈ idsWithArguments ↔ function ∈ idsWithArguments := by
  unfold canonicalId
  split_ifs with h
  · rw [h]
    decide
  · rfl

mutual

theorem Form.isCanonical_canonical (f : Form) : f.canonical.IsCanonical := by
  match f with
  | .apply function args =>
    intro function' args' h
    rw [Form.canonical] at h
    cases h with
    | whole => exact ⟨canonicalId_ne_regexAlias function, fun h => if_neg (canonicalId_mem_iff.not.mp h)⟩
    | apply _ harg h =>
      split_ifs at harg
      · exact areCanonical_canonicals args _ harg function' args' h
      · cases harg
  | .designator _ | .value _ => exact fun _ _ h => nomatch h

theorem Form.areCanonical_canonicals (fs : List Form) : ∀ f ∈ Form.canonicals fs, f.IsCanonical := by
  match fs with
  | [] => exact fun f hf => absurd hf List.not_mem_nil
  | f :: rest =>
    rw [Form.canonicals]
    exact List.forall_mem_cons.mpr ⟨isCanonical_canonical f, areCanonical_canonicals rest⟩

end

theorem Form.IsCanonical.of_mem {fs : List Form} {f : Form} (h : (Form.apply function fs).IsCanonical)
    (hf : f ∈ fs) :
    f.IsCanonical := fun function' args' hocc => h function' args' (.apply function hf hocc)

mutual

theorem Form.canonical_of_isCanonical (f : Form) (h : f.IsCanonical) : f.canonical = f := by
  match f with
  | .apply function args =>
    obtain ⟨halias, hargs⟩ := h function args .whole
    rw [Form.canonical, canonicalId, if_neg halias]
    split_ifs with hids
    · rw [canonicals_of_areCanonical args fun arg harg => h.of_mem harg]
    · rw [hargs hids]
  | .designator _ | .value _ => rfl

theorem Form.canonicals_of_areCanonical (fs : List Form) (h : ∀ f ∈ fs, f.IsCanonical) :
    Form.canonicals fs = fs := by
  match fs with
  | [] => rfl
  | f :: rest =>
    obtain ⟨hf, hrest⟩ := List.forall_mem_cons.mp h
    rw [Form.canonicals, canonical_of_isCanonical f hf, canonicals_of_areCanonical rest hrest]

end

/-- A form is written again as it was exactly if it is canonical. -/
theorem toForm_ofForm_eq_iff {f : Form} : toForm (ofForm f) = f ↔ f.IsCanonical := by
  rw [toForm_ofForm]
  exact ⟨fun h => h ▸ f.isCanonical_canonical, f.canonical_of_isCanonical⟩

/-! ## Surviving the written form -/

/-- **Exactly when a condition survives its written form.** Writing a condition and loading it again gives the
condition back if and only if no unknown function in it, at any depth, has the id of a known one.  Whatever form
is loaded, the condition that it stands for has this property.  What is written for it is the canonical form of
what was loaded: in it functions that take no arguments have none, none is named by an alias, and loading and
writing it changes nothing. -/
theorem ofForm_toForm_canonical :
    (∀ c : Condition, ofForm (toForm c) = c ↔ ∀ id, (unrecognized id).OccursIn c → id ∉ knownIds) ∧
      ∀ f : Form,
        (∀ id, (unrecognized id).OccursIn (ofForm f) → id ∉ knownIds) ∧
        (∀ function args, (Form.apply function args).OccursIn (toForm (ofForm f)) → function ≠ regexAlias ∧
          (function ∉ knownIds ∨ (∃ change : Normalizer, function = change.id) → args = [])) ∧
        toForm (ofForm f) = f.canonical ∧
        toForm (ofForm f.canonical) = f.canonical := by
  refine ⟨fun c => ?_, fun f => ⟨fun id h => ?_, fun function args h => ?_, toForm_ofForm f, ?_⟩⟩
  · simp only [ofForm_toForm_eq_iff, occursIn_unrecognized_iff]
  · exact unrecognizedIds_ofForm f id (occursIn_unrecognized_iff.mp h)
  · rw [toForm_ofForm] at h
    rw [← not_mem_idsWithArguments_iff]
    exact f.isCanonical_canonical function args h
  · exact toForm_ofForm_eq_iff.mpr f.isCanonical_canonical

/-- A denial of an unknown function that has the id of a connective is false for everybody. Written and loaded
again it is another condition, which is true for everybody. -/
theorem unknown_connective_comes_alive :
    let inert := combine .not [unrecognized "or"]
    (unrecognized "or").OccursIn inert ∧ "or" ∈ knownIds ∧ ofForm (toForm inert) ≠ inert ∧
      ∀ principal, inert.evaluate principal = .ok false ∧
        (ofForm (toForm inert)).evaluate principal = .ok true := by
  intro inert
  have hoccurs : (unrecognized "or").OccursIn inert := .combine .not (List.mem_singleton_self _) .whole
  have hknown : "or" ∈ knownIds := by decide
  refine ⟨hoccurs, hknown, fun h => ?_, fun principal => ⟨rfl, rfl⟩⟩
  exact (ofForm_toForm_canonical.1 inert).mp h "or" hoccurs hknown

end AccessDecision.Condition
