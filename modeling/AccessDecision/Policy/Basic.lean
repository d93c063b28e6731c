import AccessDecision.Condition.Basic
import AccessDecision.Text.Blank

/-!
# Policies

A policy guards a list of target patterns and holds rules; a rule permits or denies.  `Policy.covers` says for
which action a rule of a policy applies, and `normalizeTargets` how target lists are read: without blank
characters at the ends of a pattern and without repetitions.
-/

namespace AccessDecision

/-- What a rule does when it fires. -/
inductive Effect where
  | permit
  | deny
  deriving DecidableEq, Inhabited, Repr

/-- The name of an effect. -/
def Effect.name : Effect → String
  | permit => "Permit"
  | deny => "Deny"

/-- Reads an effect from a setting: its name with a capital, in lower case or in capitals. -/
def Effect.parse (s : String) : Except String Effect :=
  if s = "Permit" ∨ s = "permit" ∨ s = "PERMIT" then .ok .permit
  else if s = "Deny" ∨ s = "deny" ∨ s = "DENY" then .ok .deny
  else .error s!"unknown effect '{s}'"

/-- A rule of a policy. -/
structure Rule where
  ruleId : String
  /-- The resource patterns of the rule; without any list it applies to every target of its policy. -/
  targets : Option (List String)
  /-- The actions that the rule covers; none leaves the choice to the policy. -/
  actions : List String
  effect : Effect
  condition : Option Condition
  deriving Inhabited, Repr

/-- A policy: target patterns and the rules they guard. -/
structure Policy where
  policyId : String
  targets : List String
  /-- The actions that rules without actions of their own cover; none means every action. -/
  actions : List String
  rules : List Rule
  deriving Inhabited, Repr

/-- Trimmed target patterns without repetitions, in the order of their first occurrence. -/
def normalizeTargets (targets : List String) : List String :=
  targets.foldl (fun kept target =>
    let target := Text.trim target
    if target ∈ kept then kept else kept ++ [target]) []

namespace Rule

/-- A rule that applies to all targets of its policy, covers its actions and has no condition. -/
def new (ruleId : String) (effect : Effect) : Rule := ⟨ruleId, none, [], effect, none⟩

/-- Adds a pattern to the rule's own targets. -/
def withTarget (rule : Rule) (pattern : String) : Rule :=
  { rule with targets := some (rule.targets.getD [] ++ [pattern]) }

/-- Adds an action. -/
def withAction (rule : Rule) (action : String) : Rule :=
  { rule with actions := rule.actions ++ [action] }

/-- Sets the condition. -/
def withCondition (rule : Rule) (condition : Condition) : Rule :=
  { rule with condition := some condition }

/-- The rule's own patterns, normalized; `none` if it declares none. -/
def targetResources (rule : Rule) : Option (List String) := rule.targets.map normalizeTargets

end Rule

namespace Policy

/-- A policy without targets, actions and rules. -/
def new (policyId : String) : Policy := ⟨policyId, [], [], []⟩

/-- Adds a target pattern. -/
def withTarget (policy : Policy) (pattern : String) : Policy :=
  { policy with targets := policy.targets ++ [pattern] }

/-- Adds an action. -/
def withAction (policy : Policy) (action : String) : Policy :=
  { policy with actions := policy.actions ++ [action] }

/-- Adds a rule. -/
def withRule (policy : Policy) (rule : Rule) : Policy :=
  { policy with rules := policy.rules ++ [rule] }

/-- The policy's patterns, normalized. -/
def targetResources (policy : Policy) : List String := normalizeTargets policy.targets

/-- The patterns that a rule of the policy applies to: its own, or the policy's if it declares none. -/
def targetsOf (policy : Policy) (rule : Rule) : List String :=
  rule.targetResources.getD policy.targetResources

/-- The actions that a rule of the policy covers: its own, or the policy's if it lists none. -/
def actionsOf (policy : Policy) (rule : Rule) : List String :=
  if rule.actions.isEmpty then policy.actions else rule.actions

/-- Whether a rule of the policy covers the requested action. Where no actions are listed every request is
covered; elsewhere a request must name one of them. -/
def covers (policy : Policy) (rule : Rule) (action : Option String) : Bool :=
  let actions := policy.actionsOf rule
  actions.isEmpty || action.any (fun a => actions.contains a)

/-- The ids of all unknown functions in the conditions of the policy, rule by rule. -/
def unrecognizedIds (policy : Policy) : List String :=
  policy.rules.flatMap fun rule => (rule.condition.map Condition.unrecognizedIds).getD []

end Policy

/-! ### Documents -/

/-- The services are in the order of their names, and none is listed twice. -/
def InOrder (services : List (String × List Policy)) : Prop :=
  services.Pairwise fun entry later => entry.1 < later.1

/-- The policy sets of services, in the order of the services' names. -/
@[ext]
structure PolicyDocument where
  services : List (String × List Policy)
  inOrder : InOrder services
  deriving Repr

/-- Puts the policy set of a service into a list of services that is ordered by name; an earlier set of the same
service is replaced. -/
def insertService (service : String) (policies : List Policy) :
    List (String × List Policy) → List (String × List Policy)
  | [] => [(service, policies)]
  | entry :: rest =>
    if service = entry.1 then (service, policies) :: rest
    else if service < entry.1 then (service, policies) :: entry :: rest
    else entry :: insertService service policies rest

theorem eq_or_mem_of_mem_insertService {service : String} {policies : List Policy}
    {services : List (String × List Policy)} {entry : String × List Policy}
    (h : entry ∈ insertService service policies services) : entry = (service, policies) ∨ entry ∈ services := by
  induction services with
  | nil => exact Or.inl (List.mem_singleton.mp h)
  | cons first rest ih =>
    unfold insertService at h
    split at h
    · exact (List.mem_cons.mp h).imp_right (List.mem_cons_of_mem _)
    split at h
    · exact List.mem_cons.mp h
    · rcases List.mem_cons.mp h with rfl | h
      · exact Or.inr List.mem_cons_self
      · exact (ih h).imp_right (List.mem_cons_of_mem _)

theorem InOrder.insertService {services : List (String × List Policy)} (h : InOrder services) (service : String)
    (policies : List Policy) : InOrder (insertService service policies services) := by
  induction services with
  | nil => exact List.pairwise_singleton _ _
  | cons first rest ih =>
    obtain ⟨hfirst, hrest⟩ := List.pairwise_cons.mp h
    unfold AccessDecision.insertService
    split
    next heq => exact List.pairwise_cons.mpr ⟨fun entry hentry => heq ▸ hfirst entry hentry, hrest⟩
    next hne =>
      split
      next hlt =>
        refine List.pairwise_cons.mpr ⟨List.forall_mem_cons.mpr ⟨hlt, fun entry hentry => ?_⟩, h⟩
        exact String.lt_trans hlt (hfirst entry hentry)
      next hge =>
        refine List.pairwise_cons.mpr ⟨fun entry hentry => ?_, ih hrest⟩
        rcases eq_or_mem_of_mem_insertService hentry with rfl | hentry
        · exact String.not_le.mp fun hle => hne (String.le_antisymm hle (String.not_lt.mp hge))
        · exact hfirst entry hentry

/-- The document without services. -/
def PolicyDocument.empty : PolicyDocument := ⟨[], .nil⟩

instance : Inhabited PolicyDocument := ⟨.empty⟩

@[simp]
theorem PolicyDocument.services_empty : PolicyDocument.empty.services = [] := rfl

/-- Sets the policy set of a service. -/
def PolicyDocument.insert (document : PolicyDocument) (service : String) (policies : List Policy) :
    PolicyDocument :=
  ⟨insertService service policies document.services, document.inOrder.insertService service policies⟩

@[simp]
theorem PolicyDocument.services_insert (document : PolicyDocument) (service : String) (policies : List Policy) :
    (document.insert service policies).services = insertService service policies document.services := rfl

/-- The document of a list of services in any order; the last policy set of a service counts. -/
def PolicyDocument.ofList (services : List (String × List Policy)) : PolicyDocument :=
  services.foldl (fun document (service, policies) => document.insert service policies) .empty

/-- The policy set of a service. -/
def PolicyDocument.policies? (document : PolicyDocument) (service : String) : Option (List Policy) :=
  document.services.lookup service

/-- How many policies a document holds. -/
def PolicyDocument.policyCount (document : PolicyDocument) : Nat :=
  document.services.foldl (fun count (_, policies) => count + policies.length) 0

end AccessDecision
