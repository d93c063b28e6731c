import AccessDecision.Pattern.Size
import AccessDecision.Proofs.Service.Permit
import AccessDecision.Service.Run

/-!
# Services and subjects are isolated

What a run leaves for one service and one subject (`ServiceState.view`) depends only on the operations that name
them: every other operation can be left out, and every other entry can be left out of a rebuild
(`ServiceState.view_run_only`).  A decision reads no more than this view, except for the size of the cache.  The
size makes a difference only where the service has no policy set, and there it selects between two denials
(`decide_isolated`).
-/

namespace AccessDecision

/-! ## Definitions -/

/-- The document with the policy set of one service. -/
def PolicyDocument.only (document : PolicyDocument) (service : String) : PolicyDocument :=
  ⟨document.services.filter (·.1 == service), document.inOrder.filter _⟩

/-- What an operation does to one service or one subject, if anything. A rebuild is cut down to the service. -/
def Operation.only? (service subject : String) : Operation → Option Operation
  | .insert name policies => if name = service then some (.insert name policies) else none
  | .remove name => if name = service then some (.remove name) else none
  | .replace services buildSequence => some (.replace (services.filter (·.1 == service)) buildSequence)
  | .startSession name principal => if name = subject then some (.startSession name principal) else none
  | .terminate name => if name = subject then some (.terminate name) else none

/-- What a state holds for one service and one subject. -/
def ServiceState.view (state : ServiceState) (service subject : String) :
    Option (List Policy) × Option SessionPrincipal :=
  (state.cache.policies? service, state.sessions.principal? subject)

/-- The decisions for a service without a policy set. -/
def decisionsWithoutPolicies : List Decision :=
  [DecisionPoint.emptyStoreDecision, ⟨.indeterminate .deny .noPolicySet, noPolicyMessage .deny, .empty⟩]

/-! ## Runs -/

namespace ServiceState

variable {service subject : String} {state state' : ServiceState}

/-- An operation that names neither the service nor the subject leaves the view as it is. -/
theorem view_apply_of_only?_none {operation : Operation} (h : operation.only? service subject = none) :
    (state.apply operation).view service subject = state.view service subject := by
  cases operation with
  | insert name policies =>
    have hname : service ≠ name := by rintro rfl; simp [Operation.only?] at h
    exact Prod.ext (Keyed.get?_set_ne hname) rfl
  | remove name =>
    have hname : service ≠ name := by rintro rfl; simp [Operation.only?] at h
    exact Prod.ext (Keyed.get?_erase_ne hname) rfl
  | replace services buildSequence => cases h
  | startSession name principal =>
    have hname : subject ≠ name := by rintro rfl; simp [Operation.only?] at h
    exact Prod.ext rfl (Keyed.get?_set_ne hname)
  | terminate name =>
    have hname : subject ≠ name := by rintro rfl; simp [Operation.only?] at h
    exact Prod.ext rfl (Keyed.get?_erase_ne hname)

/-- Where an operation names the service or the subject, the view follows from what was there for them. -/
theorem view_apply_of_only?_some {operation own : Operation}
    (h : state.view service subject = state'.view service subject)
    (hown : operation.only? service subject = some own) :
    (state.apply operation).view service subject = (state'.apply own).view service subject := by
  obtain ⟨hpolicies, hprincipal⟩ := Prod.mk.inj h
  cases operation with
  | insert name policies =>
    obtain ⟨rfl, heq⟩ := Option.ite_none_right_eq_some.mp hown
    cases heq
    exact Prod.ext (Keyed.get?_set_self.trans Keyed.get?_set_self.symm) hprincipal
  | remove name =>
    obtain ⟨rfl, heq⟩ := Option.ite_none_right_eq_some.mp hown
    cases heq
    exact Prod.ext (Keyed.get?_erase_self.trans Keyed.get?_erase_self.symm) hprincipal
  | replace services buildSequence =>
    cases hown
    exact Prod.ext Keyed.get?_ofList_filter.symm hprincipal
  | startSession name principal =>
    obtain ⟨rfl, heq⟩ := Option.ite_none_right_eq_some.mp hown
    cases heq
    exact Prod.ext hpolicies (Keyed.get?_set_self.trans Keyed.get?_set_self.symm)
  | terminate name =>
    obtain ⟨rfl, heq⟩ := Option.ite_none_right_eq_some.mp hown
    cases heq
    exact Prod.ext hpolicies (Keyed.get?_erase_self.trans Keyed.get?_erase_self.symm)

/-- **A run leaves the same for a service and a subject as the operations that name them.** -/
theorem view_run_only (h : state.view service subject = state'.view service subject)
    (operations : List Operation) :
    (state.run operations).view service subject =
      (state'.run (operations.filterMap (Operation.only? service subject))).view service subject := by
  induction operations generalizing state state' with
  | nil => exact h
  | cons operation operations ih =>
    rw [List.filterMap_cons]
    cases hown : operation.only? service subject with
    | none => exact ih ((view_apply_of_only?_none hown).trans h)
    | some own => exact ih (view_apply_of_only?_some h hown)

theorem view_ofDocument_only (document : PolicyDocument) (service subject : String) :
    (ofDocument document).view service subject = (ofDocument (document.only service)).view service subject :=
  Prod.ext Keyed.get?_ofList_filter.symm rfl

/-! ## Decisions -/

variable [PatternLimit]

/-- The decision for a service of whose policy set and for a principal of whom this is known. The size of the cache
counts only if there is no policy set. -/
def viewDecision (size : Nat) (query : Query) (policies : Option (List Policy)) (principal : SessionPrincipal) :
    Decision :=
  match policies with
  | some policies => decidePolicies (some policies) ⟨query.resource, query.action, principal.toPrincipal⟩ .deny
  | none =>
    if size = 0 then DecisionPoint.emptyStoreDecision
    else decidePolicies none ⟨query.resource, query.action, principal.toPrincipal⟩ .deny

theorem decide_point_of_principal? {query : Query} {principal : SessionPrincipal}
    (hfield : query.emptyField? = none)
    (hprincipal : state.sessions.principal? query.subjectId = some principal) (defaultMode : Effect) :
    (state.point defaultMode).decide query =
      .ok (viewDecision state.cache.size query (state.cache.policies? query.requester) principal) := by
  have hlookup : state.sessions.toDirectory.lookup query.subjectId = .ok principal.toPrincipal := by
    simp [Sessions.toDirectory, Sessions.lookup, hprincipal, Except.map]
  refine (decide_of_lookup_ok hfield hlookup).trans (congrArg Except.ok ?_)
  show (if state.cache.size = 0 then _ else decidePolicies (state.cache.policies? query.requester) _ _) = _
  unfold viewDecision
  cases hpolicies : state.cache.policies? query.requester with
  | some policies => exact if_neg (Keyed.size_ne_zero_of_get? hpolicies)
  | none => rfl

theorem decide_point_of_no_principal {query : Query} (hfield : query.emptyField? = none)
    (hprincipal : state.sessions.principal? query.subjectId = none) (defaultMode : Effect) :
    (state.point defaultMode).decide query = .error (.unknownSession query.subjectId) := by
  have hlookup : state.sessions.toDirectory.lookup query.subjectId = .error (.unknownSession query.subjectId) := by
    simp [Sessions.toDirectory, Sessions.lookup, hprincipal, Except.map]
  exact decide_of_lookup_error hfield hlookup

theorem viewDecision_mem (size : Nat) (query : Query) (principal : SessionPrincipal) :
    viewDecision size query none principal ∈ decisionsWithoutPolicies := by
  unfold viewDecision
  split_ifs
  · exact List.mem_cons_self
  · exact List.mem_cons_of_mem _ List.mem_cons_self

end ServiceState

theorem effect_of_mem_decisionsWithoutPolicies {d : Decision} (h : d ∈ decisionsWithoutPolicies) :
    d.effect = .deny := by
  simp only [decisionsWithoutPolicies, List.mem_cons, List.not_mem_nil, or_false] at h
  rcases h with rfl | rfl <;> rfl

/-- **Services and subjects are isolated over whole runs.** After any run of operations on a cache that started
from a document, and on sessions, a query is answered like after the run that keeps only what concerns its
requester and its subject: by the same error, or by a decision with the same effect.  If the requester has a
policy set, the answers are the same altogether, message and trail included.  If it has none, both are denials by
default with an empty trail, which may give either of two reasons, each with its message. -/
theorem decide_isolated [PatternLimit] (document : PolicyDocument) (operations : List Operation)
    (defaultMode : Effect) (query : Query) :
    let all := (ServiceState.ofDocument document).run operations
    let own := (ServiceState.ofDocument (document.only query.requester)).run
      (operations.filterMap (Operation.only? query.requester query.subjectId))
    let answer := (all.point defaultMode).decide query
    let ownAnswer := (own.point defaultMode).decide query
    answer.map Decision.effect = ownAnswer.map Decision.effect ∧
      ((all.cache.policies? query.requester).isSome = true → answer = ownAnswer) ∧
      ((all.cache.policies? query.requester).isNone = true → answer = ownAnswer ∨
        ∃ d ∈ decisionsWithoutPolicies, ∃ d' ∈ decisionsWithoutPolicies, answer = .ok d ∧ ownAnswer = .ok d') := by
  intro all own answer ownAnswer
  have hview : all.view query.requester query.subjectId = own.view query.requester query.subjectId :=
    ServiceState.view_run_only (ServiceState.view_ofDocument_only document _ _) operations
  obtain ⟨hpolicies, hprincipal⟩ := Prod.mk.inj hview
  cases hfield : query.emptyField? with
  | some field =>
    have hsame : answer = ownAnswer := (decide_of_emptyField hfield).trans (decide_of_emptyField hfield).symm
    exact ⟨by rw [hsame], fun _ => hsame, fun _ => Or.inl hsame⟩
  | none =>
    cases hfound : all.sessions.principal? query.subjectId with
    | none =>
      have hsame : answer = ownAnswer :=
        (ServiceState.decide_point_of_no_principal hfield hfound defaultMode).trans
          (ServiceState.decide_point_of_no_principal hfield (hprincipal.symm.trans hfound) defaultMode).symm
      exact ⟨by rw [hsame], fun _ => hsame, fun _ => Or.inl hsame⟩
    | some principal =>
      have hanswer : answer = _ := ServiceState.decide_point_of_principal? hfield hfound defaultMode
      have hown : ownAnswer = _ :=
        ServiceState.decide_point_of_principal? hfield (hprincipal.symm.trans hfound) defaultMode
      rw [← hpolicies] at hown
      cases hset : all.cache.policies? query.requester with
      | some policies =>
        rw [hset] at hanswer hown
        have hsame : answer = ownAnswer := hanswer.trans hown.symm
        exact ⟨by rw [hsame], fun _ => hsame, fun h => nomatch h⟩
      | none =>
        -- only here the sizes of the two caches count
        rw [hset] at hanswer hown
        have hmem := ServiceState.viewDecision_mem all.cache.size query principal
        have hmem' := ServiceState.viewDecision_mem own.cache.size query principal
        refine ⟨?_, ?_, ?_⟩
        · rw [hanswer, hown]
          show Except.ok _ = Except.ok _
          rw [effect_of_mem_decisionsWithoutPolicies hmem, effect_of_mem_decisionsWithoutPolicies hmem']
        · intro h
          cases h
        · exact fun _ => Or.inr ⟨_, hmem, _, hmem', hanswer, hown⟩

/-- A policy set of another service shows in the reason for a denial, and in nothing else. -/
theorem other_service_shows_in_reason :
    let operations : List Operation :=
      [.startSession "alice" (.new "Alice" "1"), .insert "billing" [.new "P1"],
       .startSession "bob" (.new "Bob" "2")]
    let query := Query.new "mail" "1" "/x" "alice"
    let answer := (((ServiceState.ofDocument .empty).run operations).point .permit).decide query
    let ownAnswer := (((ServiceState.ofDocument .empty).run
      (operations.filterMap (Operation.only? "mail" "alice"))).point .permit).decide query
    answer = .ok ⟨.indeterminate .deny .noPolicySet, noPolicyMessage .deny, .empty⟩ ∧
      ownAnswer = .ok DecisionPoint.emptyStoreDecision ∧
      answer.map Decision.effect = ownAnswer.map Decision.effect := by
  intro operations query answer ownAnswer
  exact ⟨rfl, rfl, (decide_isolated .empty operations .permit query).1⟩

end AccessDecision
