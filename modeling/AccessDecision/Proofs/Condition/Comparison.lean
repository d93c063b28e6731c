import AccessDecision.Pattern.Size
import AccessDecision.Proofs.Condition.Unrecognized

/-!
# What comparisons come to

A comparison reads its arguments in one pass and gathers attributes, listed values and normalizers on the way.
`Condition.ComparesTo` says what it comes to without a pass: which arguments there are decides everything, and
where they stand decides only which unsupported one is named.

* `Operands.Gathered.add`, `Operands.gathered_of_isOperand`: the invariant of the pass, and its run.
* `evaluateCompare_eq_iff`: evaluation ends in the one result that `ComparesTo` allows.
* `evaluateCompare_of_subset`: accepted arguments can be reordered and repeated.
* `exists_evaluateCompare_of_resolvesWithin`, `evaluateCompare_congr`: of a principal a comparison sees only the
  values that its designators resolve to.
-/

namespace AccessDecision

/-! ## Definitions -/

/-- Whether a comparison accepts a value for a listed one. A listed pattern that does not compile accepts
nothing. -/
def Comparison.Accepts [PatternLimit] : Comparison → String → String → Prop
  | .equal, listed, value => value = listed
  | .regex, listed, value => ∃ r, Pattern.compileAnchored? listed = some r ∧ r.matchesText value = true

namespace Condition

/-- Some designator among the arguments resolves to this attribute. -/
def Resolves (principal : Principal) (args : List Condition) (found : IdentityAttribute) : Prop :=
  ∃ id, designator id ∈ args ∧ principal.lookup id = some found

/-- Some literal among the arguments lists this value. -/
def Lists (args : List Condition) (listed : String) : Prop :=
  ∃ values, literal values ∈ args ∧ listed ∈ values

/-- Whether a normalizer is among the arguments. -/
def normalizes (args : List Condition) (change : Normalizer) : Bool :=
  args.any fun
    | normalizer other => other == change
    | _ => false

/-- An attribute value as a comparison of these arguments sees it: trimmed before it is put into lower case. -/
def normalized (args : List Condition) (value : String) : String :=
  let trimmed := if normalizes args .trimEdges then Text.trim value else value
  if normalizes args .lowercase then Text.lowercase trimmed else trimmed

/-- Some value of a resolved attribute is accepted, as it is seen, for some listed value. -/
def Holds [PatternLimit] (principal : Principal) (test : Comparison) (args : List Condition) : Prop :=
  ∃ listed found value, Lists args listed ∧ Resolves principal args found ∧ value ∈ found.values ∧
    test.Accepts listed (normalized args value)

/-- What a comparison comes to. The errors have an order: an argument that it does not accept, of which the first
is named, then no resolved attribute, then no listed value. -/
inductive ComparesTo [PatternLimit] (principal : Principal) (test : Comparison) (args : List Condition) :
    Except EvalError Bool → Prop where
  | unsupported {before after : List Condition} {stop : Condition} :
    args = before ++ stop :: after → (∀ arg ∈ before, arg.isOperand = true) → stop.isOperand = false →
      ComparesTo principal test args (.error (.unsupportedArgument test stop.describe))
  | unresolved :
    (∀ arg ∈ args, arg.isOperand = true) → (¬ ∃ found, Resolves principal args found) →
      ComparesTo principal test args (.error (.noResolvedDesignator test))
  | unlisted :
    (∀ arg ∈ args, arg.isOperand = true) → (∃ found, Resolves principal args found) →
      (¬ ∃ listed, Lists args listed) → ComparesTo principal test args (.error (.noMatchers test))
  | decided {value : Bool} :
    (∀ arg ∈ args, arg.isOperand = true) → (∃ found, Resolves principal args found) →
      (∃ listed, Lists args listed) →
      (value = true ↔ Holds principal test args) → ComparesTo principal test args (.ok value)

/-- Operands hold what these arguments provide. -/
structure Operands.Gathered (principal : Principal) (args : List Condition) (operands : Operands) : Prop where
  attributes : ∀ found, found ∈ operands.attributes ↔ Resolves principal args found
  matchers : ∀ listed, listed ∈ operands.matchers ↔ Lists args listed
  lowercase : operands.lowercase = normalizes args .lowercase
  trimEdges : operands.trimEdges = normalizes args .trimEdges

/-- Whatever the arguments resolve to for one principal, they resolve for the other to an attribute with at least
its values. -/
def ResolvesWithin (args : List Condition) (p q : Principal) : Prop :=
  ∀ found, Resolves p args found → ∃ more, Resolves q args more ∧ found.values ⊆ more.values

variable {principal p q : Principal} {test : Comparison} {args args' : List Condition} {operands : Operands}

/-! ## Arguments in any order -/

section Rows

theorem normalizes_iff {change : Normalizer} : normalizes args change = true ↔ normalizer change ∈ args := by
  unfold normalizes
  rw [List.any_eq_true]
  constructor
  · rintro ⟨arg, harg, h⟩
    cases arg with
    | normalizer other => rwa [← beq_iff_eq.mp h]
    | _ => cases h
  · exact fun h => ⟨_, h, beq_self_eq_true change⟩

@[simp] theorem resolves_singleton {arg : Condition} {found : IdentityAttribute} :
    Resolves principal [arg] found ↔ ∃ id, arg = designator id ∧ principal.lookup id = some found := by
  simp [Resolves, eq_comm]

@[simp] theorem lists_singleton {arg : Condition} {listed : String} :
    Lists [arg] listed ↔ ∃ values, arg = literal values ∧ listed ∈ values := by
  simp [Lists, eq_comm]

@[simp] theorem normalizes_singleton {arg : Condition} {change : Normalizer} :
    normalizes [arg] change = true ↔ arg = normalizer change := by
  rw [normalizes_iff, List.mem_singleton, eq_comm]

theorem resolves_append {found : IdentityAttribute} :
    Resolves principal (args ++ args') found ↔ Resolves principal args found ∨ Resolves principal args' found := by
  simp only [Resolves, List.mem_append, or_and_right, exists_or]

theorem lists_append {listed : String} :
    Lists (args ++ args') listed ↔ Lists args listed ∨ Lists args' listed := by
  simp only [Lists, List.mem_append, or_and_right, exists_or]

theorem normalizes_append {change : Normalizer} :
    normalizes (args ++ args') change = (normalizes args change || normalizes args' change) :=
  List.any_append

theorem normalizes_congr (h : args ⊆ args') (h' : args' ⊆ args) (change : Normalizer) :
    normalizes args' change = normalizes args change := by
  rw [Bool.eq_iff_iff, normalizes_iff, normalizes_iff]
  exact ⟨fun hmem => h' hmem, fun hmem => h hmem⟩

theorem normalized_congr (h : args ⊆ args') (h' : args' ⊆ args) (value : String) :
    normalized args' value = normalized args value := by
  unfold normalized
  rw [normalizes_congr h h', normalizes_congr h h']

theorem Resolves.of_subset {found : IdentityAttribute} (h : args ⊆ args') :
    Resolves principal args found → Resolves principal args' found :=
  fun ⟨id, hmem, hlookup⟩ => ⟨id, h hmem, hlookup⟩

theorem Lists.of_subset {listed : String} (h : args ⊆ args') : Lists args listed → Lists args' listed :=
  fun ⟨values, hmem, hlisted⟩ => ⟨values, h hmem, hlisted⟩

theorem Holds.of_subset [PatternLimit] (h : args ⊆ args') (h' : args' ⊆ args) :
    Holds principal test args → Holds principal test args' := by
  rintro ⟨listed, found, value, hlisted, hfound, hvalue, haccepts⟩
  exact ⟨listed, found, value, hlisted.of_subset h, hfound.of_subset h, hvalue,
    (normalized_congr h h' value).symm ▸ haccepts⟩

/-- Two comparisons that accept all their arguments come to the same if they have alike what is asked for. -/
theorem ComparesTo.transfer [PatternLimit] {result : Except EvalError Bool}
    (hall : ∀ arg ∈ args, arg.isOperand = true) (hall' : ∀ arg ∈ args', arg.isOperand = true)
    (hfound : (∃ found, Resolves p args found) ↔ ∃ found, Resolves q args' found)
    (hlisted : (∃ listed, Lists args listed) ↔ ∃ listed, Lists args' listed)
    (hholds : Holds p test args ↔ Holds q test args') (h : ComparesTo p test args result) :
    ComparesTo q test args' result := by
  cases h with
  | unsupported hsplit _ hstop =>
    subst hsplit
    rw [hall _ (List.mem_append_right _ List.mem_cons_self)] at hstop
    cases hstop
  | unresolved _ hnone => exact .unresolved hall' (hfound.not.mp hnone)
  | unlisted _ hsome hnone => exact .unlisted hall' (hfound.mp hsome) (hlisted.not.mp hnone)
  | decided _ hsome hlists hvalue =>
    exact .decided hall' (hfound.mp hsome) (hlisted.mp hlists) (hvalue.trans hholds)

/-- A row with an argument that is not accepted has a first one. -/
theorem exists_first_unsupported (h : ¬ ∀ arg ∈ args, arg.isOperand = true) :
    ∃ before stop after, args = before ++ stop :: after ∧ (∀ arg ∈ before, arg.isOperand = true) ∧
      stop.isOperand = false := by
  cases hfind : args.find? fun arg => !arg.isOperand with
  | none =>
    rw [List.find?_eq_none] at hfind
    exact absurd (fun arg harg => by simpa using hfind arg harg) h
  | some stop =>
    obtain ⟨hstop, before, after, hsplit, hbefore⟩ := List.find?_eq_some_iff_append.mp hfind
    exact ⟨before, stop, after, hsplit, by simpa using hbefore, by simpa using hstop⟩

end Rows

/-! ## The pass over the arguments -/

section Pass

theorem Operands.gathered_none (principal : Principal) : Operands.none.Gathered principal [] := by
  refine ⟨fun found => ?_, fun listed => ?_, rfl, rfl⟩ <;> simp [none, Resolves, Lists]

/-- The step of the pass: an accepted argument adds what it provides. -/
theorem Operands.Gathered.add (test : Comparison) {arg : Condition} (h : operands.Gathered principal args)
    (harg : arg.isOperand = true) :
    ∃ next, Operands.add principal test operands arg = .ok next ∧ next.Gathered principal (args ++ [arg]) := by
  -- each kind of argument provides one thing and leaves the others as they are
  cases arg with
  | designator _ | literal _ =>
    refine ⟨_, rfl, fun found => ?_, fun listed => ?_, ?_, ?_⟩ <;>
      simp [h.attributes, h.matchers, h.lowercase, h.trimEdges, resolves_append, lists_append, normalizes_append]
  | normalizer change =>
    cases change <;> refine ⟨_, rfl, fun found => ?_, fun listed => ?_, ?_, ?_⟩ <;>
      simp [h.attributes, h.matchers, h.lowercase, h.trimEdges, resolves_append, lists_append, normalizes_append]
  | combine _ _ | compare _ _ | unrecognized _ => cases harg

/-- The pass over accepted arguments, once others are behind it. -/
theorem Operands.gathered_of_isOperand (test : Comparison) {rest : List Condition}
    (h : operands.Gathered principal args) (hrest : ∀ arg ∈ rest, arg.isOperand = true) :
    ∃ last, rest.foldlM (Operands.add principal test) operands = .ok last ∧
      last.Gathered principal (args ++ rest) := by
  induction rest generalizing args operands with
  | nil => exact ⟨operands, rfl, by rwa [List.append_nil]⟩
  | cons arg rest ih =>
    obtain ⟨next, hadd, hnext⟩ := h.add test (hrest arg List.mem_cons_self)
    obtain ⟨last, hfold, hlast⟩ := ih hnext fun arg harg => hrest arg (List.mem_cons_of_mem _ harg)
    refine ⟨last, ?_, by rwa [List.append_cons]⟩
    rw [List.foldlM_cons, hadd]
    exact hfold

theorem Operands.add_unsupported {stop : Condition} (h : stop.isOperand = false) :
    add principal test operands stop = .error (.unsupportedArgument test stop.describe) := by
  cases stop <;> first | rfl | cases h

/-- The pass ends at the first argument that is not accepted. -/
theorem Operands.of_unsupported {before after : List Condition} {stop : Condition}
    (hbefore : ∀ arg ∈ before, arg.isOperand = true) (hstop : stop.isOperand = false) :
    Operands.of principal test (before ++ stop :: after) = .error (.unsupportedArgument test stop.describe) := by
  obtain ⟨last, hfold, -⟩ := gathered_of_isOperand test (gathered_none principal) hbefore
  unfold Operands.of
  rw [List.foldlM_append, hfold]
  show List.foldlM (add principal test) last (stop :: after) = _
  rw [List.foldlM_cons, add_unsupported hstop]
  rfl

end Pass

/-! ## The result -/

section Result

theorem Operands.Gathered.attributes_eq_nil_iff (h : operands.Gathered principal args) :
    operands.attributes = [] ↔ ¬ ∃ found, Resolves principal args found := by
  rw [List.eq_nil_iff_forall_not_mem, not_exists]
  exact forall_congr' fun found => not_congr (h.attributes found)

theorem Operands.Gathered.matchers_eq_nil_iff (h : operands.Gathered principal args) :
    operands.matchers = [] ↔ ¬ ∃ listed, Lists args listed := by
  rw [List.eq_nil_iff_forall_not_mem, not_exists]
  exact forall_congr' fun listed => not_congr (h.matchers listed)

theorem Operands.Gathered.normalize_eq (h : operands.Gathered principal args) (value : String) :
    operands.normalize value = normalized args value := by
  unfold Operands.normalize normalized
  rw [h.lowercase, h.trimEdges]

variable [PatternLimit]

theorem accepts_iff {listed value : String} :
    (∃ passes, valueTest? test listed = some passes ∧ passes value = true) ↔ test.Accepts listed value := by
  cases test with
  | equal =>
    show _ ↔ value = listed
    rw [eq_comm]
    simp [valueTest?]
  | regex => simp [valueTest?, Comparison.Accepts]

theorem Operands.Gathered.anyMatch_iff (h : operands.Gathered principal args) :
    operands.anyMatch test = true ↔ Holds principal test args := by
  unfold Operands.anyMatch
  simp only [List.any_eq_true, Option.any_eq_true, h.matchers, h.attributes, h.normalize_eq]
  constructor
  · rintro ⟨listed, hlisted, passes, htest, found, hfound, value, hvalue, hpasses⟩
    exact ⟨listed, found, value, hlisted, hfound, hvalue, accepts_iff.mp ⟨passes, htest, hpasses⟩⟩
  · rintro ⟨listed, found, value, hlisted, hfound, hvalue, haccepts⟩
    obtain ⟨passes, htest, hpasses⟩ := accepts_iff.mpr haccepts
    exact ⟨listed, hlisted, passes, htest, found, hfound, value, hvalue, hpasses⟩

theorem evaluateCompare_of_comparesTo {result : Except EvalError Bool}
    (h : ComparesTo principal test args result) : evaluateCompare principal test args = result := by
  -- unless an argument is refused all of them are gathered, and what is gathered decides
  have hgather : (∀ arg ∈ args, arg.isOperand = true) →
      ∃ operands, Operands.of principal test args = .ok operands ∧ operands.Gathered principal args :=
    fun hall => Operands.gathered_of_isOperand test (Operands.gathered_none principal) hall
  cases h with
  | unsupported hsplit hbefore hstop =>
    subst hsplit
    exact evaluateCompare_of_error (Operands.of_unsupported hbefore hstop)
  | unresolved hall hnone =>
    obtain ⟨operands, hof, hoperands⟩ := hgather hall
    rw [evaluateCompare_of_ok hof, if_pos (hoperands.attributes_eq_nil_iff.mpr hnone)]
  | unlisted hall hfound hnone =>
    obtain ⟨operands, hof, hoperands⟩ := hgather hall
    have hattributes : operands.attributes ≠ [] := fun hnil => hoperands.attributes_eq_nil_iff.mp hnil hfound
    rw [evaluateCompare_of_ok hof, if_neg hattributes, if_pos (hoperands.matchers_eq_nil_iff.mpr hnone)]
  | decided hall hfound hlisted hvalue =>
    obtain ⟨operands, hof, hoperands⟩ := hgather hall
    have hattributes : operands.attributes ≠ [] := fun hnil => hoperands.attributes_eq_nil_iff.mp hnil hfound
    have hmatchers : operands.matchers ≠ [] := fun hnil => hoperands.matchers_eq_nil_iff.mp hnil hlisted
    have hany := Bool.eq_iff_iff.mpr (hoperands.anyMatch_iff.trans hvalue.symm)
    rw [evaluateCompare_of_ok hof, if_neg hattributes, if_neg hmatchers, hany]

open Classical in
/-- A comparison comes to something. -/
theorem exists_comparesTo (principal : Principal) (test : Comparison) (args : List Condition) :
    ∃ result, ComparesTo principal test args result := by
  by_cases hall : ∀ arg ∈ args, arg.isOperand = true
  · by_cases hfound : ∃ found, Resolves principal args found
    · by_cases hlisted : ∃ listed, Lists args listed
      · exact ⟨.ok (decide (Holds principal test args)), .decided hall hfound hlisted decide_eq_true_iff⟩
      · exact ⟨_, .unlisted hall hfound hlisted⟩
    · exact ⟨_, .unresolved hall hfound⟩
  · obtain ⟨before, stop, after, hsplit, hbefore, hstop⟩ := exists_first_unsupported hall
    exact ⟨_, .unsupported hsplit hbefore hstop⟩

/-- A comparison is evaluated to what it comes to, and to nothing else. -/
theorem evaluateCompare_eq_iff {result : Except EvalError Bool} :
    evaluateCompare principal test args = result ↔ ComparesTo principal test args result := by
  refine ⟨?_, evaluateCompare_of_comparesTo⟩
  rintro rfl
  obtain ⟨result, hresult⟩ := exists_comparesTo principal test args
  rwa [evaluateCompare_of_comparesTo hresult]

/-- Where all arguments are accepted, their order and their number play no part. -/
theorem evaluateCompare_of_subset (hall : ∀ arg ∈ args, arg.isOperand = true) (h : args ⊆ args')
    (h' : args' ⊆ args) :
    evaluateCompare principal test args' = evaluateCompare principal test args := by
  have hall' : ∀ arg ∈ args', arg.isOperand = true := fun arg harg => hall arg (h' harg)
  have hfound : (∃ found, Resolves principal args found) ↔ ∃ found, Resolves principal args' found :=
    exists_congr fun found => ⟨Resolves.of_subset h, Resolves.of_subset h'⟩
  have hlisted : (∃ listed, Lists args listed) ↔ ∃ listed, Lists args' listed :=
    exists_congr fun listed => ⟨Lists.of_subset h, Lists.of_subset h'⟩
  have hholds : Holds principal test args ↔ Holds principal test args' :=
    ⟨Holds.of_subset h h', Holds.of_subset h' h⟩
  exact evaluateCompare_of_comparesTo
    ((evaluateCompare_eq_iff.mp rfl).transfer hall hall' hfound hlisted hholds)

/-- A comparison with an argument that it does not accept names one. -/
theorem exists_unsupported (principal : Principal) (test : Comparison) (h : ¬ ∀ arg ∈ args, arg.isOperand = true) :
    ∃ stop ∈ args, stop.isOperand = false ∧
      evaluateCompare principal test args = .error (.unsupportedArgument test stop.describe) := by
  obtain ⟨before, stop, after, hsplit, hbefore, hstop⟩ := exists_first_unsupported h
  refine ⟨stop, ?_, hstop, evaluateCompare_of_comparesTo (.unsupported hsplit hbefore hstop)⟩
  rw [hsplit]
  exact List.mem_append_right _ List.mem_cons_self

end Result

/-! ## Two principals -/

section Principals

theorem ResolvesWithin.exists_resolves (h : ResolvesWithin args p q) :
    (∃ found, Resolves p args found) → ∃ found, Resolves q args found := by
  rintro ⟨found, hfound⟩
  obtain ⟨more, hmore, -⟩ := h found hfound
  exact ⟨more, hmore⟩

variable [PatternLimit]

theorem Holds.of_resolvesWithin (h : ResolvesWithin args p q) : Holds p test args → Holds q test args := by
  rintro ⟨listed, found, value, hlisted, hfound, hvalue, haccepts⟩
  obtain ⟨more, hmore, hsub⟩ := h found hfound
  exact ⟨listed, more, value, hlisted, hmore, hsub hvalue, haccepts⟩

open Classical in
/-- With more values to resolve to, a comparison still has an outcome, and it stays true if it was. -/
theorem exists_evaluateCompare_of_resolvesWithin {value : Bool} (h : ResolvesWithin args p q)
    (hvalue : evaluateCompare p test args = .ok value) :
    ∃ value', evaluateCompare q test args = .ok value' ∧ (value = true → value' = true) := by
  have hcomes := evaluateCompare_eq_iff.mp hvalue
  cases hcomes with
  | decided hall hfound hlisted hholds =>
    refine ⟨decide (Holds q test args), evaluateCompare_of_comparesTo ?_, fun htrue => ?_⟩
    · exact .decided hall (h.exists_resolves hfound) hlisted decide_eq_true_iff
    · exact decide_eq_true ((hholds.mp htrue).of_resolvesWithin h)

/-- Two principals for which the designators resolve to the same values are alike to a comparison. -/
theorem evaluateCompare_congr (h : ResolvesWithin args p q) (h' : ResolvesWithin args q p) :
    evaluateCompare p test args = evaluateCompare q test args := by
  by_cases hall : ∀ arg ∈ args, arg.isOperand = true
  · have hfound : (∃ found, Resolves q args found) ↔ ∃ found, Resolves p args found :=
      ⟨h'.exists_resolves, h.exists_resolves⟩
    have hholds : Holds q test args ↔ Holds p test args := ⟨Holds.of_resolvesWithin h', Holds.of_resolvesWithin h⟩
    exact evaluateCompare_of_comparesTo
      ((evaluateCompare_eq_iff.mp rfl).transfer hall hall hfound Iff.rfl hholds)
  · obtain ⟨before, stop, after, hsplit, hbefore, hstop⟩ := exists_first_unsupported hall
    rw [evaluateCompare_of_comparesTo (.unsupported hsplit hbefore hstop),
      evaluateCompare_of_comparesTo (.unsupported hsplit hbefore hstop)]

end Principals

/-- **What a comparison comes to.** It is evaluated to the one result of `ComparesTo`, which asks which arguments
there are.  So arguments can be reordered and repeated: this may change which unsupported one is named, and
nothing else. -/
theorem evaluate_compare_iff [PatternLimit] (principal : Principal) (test : Comparison) (args : List Condition) :
    (∀ result, (compare test args).evaluate principal = result ↔ ComparesTo principal test args result) ∧
      ∀ args', args ⊆ args' → args' ⊆ args →
        (compare test args').evaluate principal = (compare test args).evaluate principal ∨
          ∃ stop ∈ args, ∃ stop' ∈ args, stop.isOperand = false ∧ stop'.isOperand = false ∧
            (compare test args).evaluate principal = .error (.unsupportedArgument test stop.describe) ∧
            (compare test args').evaluate principal = .error (.unsupportedArgument test stop'.describe) := by
  refine ⟨fun result => evaluateCompare_eq_iff, fun args' h h' => ?_⟩
  by_cases hall : ∀ arg ∈ args, arg.isOperand = true
  · exact Or.inl (evaluateCompare_of_subset hall h h')
  · right
    have hall' : ¬ ∀ arg ∈ args', arg.isOperand = true := fun hargs' => hall fun arg harg => hargs' arg (h harg)
    obtain ⟨stop, hmem, hstop, herror⟩ := exists_unsupported principal test hall
    obtain ⟨stop', hmem', hstop', herror'⟩ := exists_unsupported principal test hall'
    exact ⟨stop, hmem, stop', h' hmem', hstop, hstop', herror, herror'⟩

/-- Somebody whose name is written with capitals and blanks. -/
def spacedName : Principal :=
  ⟨"someone", fun id => if id = "name" then some ⟨"name", ["  Foo Bar  "]⟩ else none⟩

/-- Normalizers count wherever they stand, and an unclosed pattern and an attribute that is not there add
nothing. -/
theorem evaluate_compare_spacedName :
    let args := [normalizer .lowercase, designator "mail", designator "name", literal ["(", "foo [a-z]+"],
      normalizer .trimEdges]
    let args' := [literal ["(", "foo [a-z]+"], normalizer .trimEdges, designator "name", normalizer .lowercase,
      designator "name", designator "mail"]
    (args ⊆ args' ∧ args' ⊆ args) ∧ ComparesTo spacedName .regex args (.ok true) ∧
      (compare .regex args').evaluate spacedName = .ok true := by
  intro args args'
  have hsub : args ⊆ args' := by simp [args, args']
  have hsub' : args' ⊆ args := by simp [args, args']
  obtain ⟨hiff, hsame⟩ := evaluate_compare_iff spacedName .regex args
  have heval : (compare .regex args).evaluate spacedName = .ok true := by decide +kernel
  refine ⟨⟨hsub, hsub'⟩, (hiff _).mp heval, ?_⟩
  rcases hsame args' hsub hsub' with hsame | ⟨stop, -, stop', -, -, -, herror, -⟩
  · rw [hsame, heval]
  · rw [heval] at herror
    cases herror

end Condition

end AccessDecision
