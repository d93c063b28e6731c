import AccessDecision.Decide
import AccessDecision.Service.Query
import AccessDecision.Service.Sessions
import AccessDecision.Service.Statement
import AccessDecision.Service.Store

/-!
# The decision point

A `DecisionPoint` answers queries from a policy store and a session directory.  Each query is answered on its own.

A query is checked first, then its subject is looked up, and only then an empty store is reported, so an unknown
subject is an error whatever the store holds.
-/

namespace AccessDecision

/-- Why there is no decision at all. -/
inductive DecisionError where
  /-- A field of the query is empty. -/
  | invalidQuery (field : String)
  | unknownSession (subject : String)
  | sessionDirectory (reason : String)
  deriving DecidableEq, Repr

/-- The error in words. -/
def DecisionError.message : DecisionError → String
  | invalidQuery field => s!"invalid query: {field} is empty"
  | unknownSession subject => s!"unknown session for subject '{subject}'"
  | sessionDirectory reason => s!"session directory error: {reason}"

/-- What a failed lookup means for the decision. -/
def SessionError.toDecisionError : SessionError → DecisionError
  | unknownSession subject => .unknownSession subject
  | unavailable reason => .sessionDirectory reason

/-- Answers queries. -/
structure DecisionPoint where
  store : PolicyStore
  sessions : SessionDirectory
  default : Effect

namespace DecisionPoint

/-- A decision point with a configured default mode, which is resolved once. -/
def new (store : PolicyStore) (sessions : SessionDirectory) (defaultMode : Effect) : DecisionPoint :=
  ⟨store, sessions, resolveDefaultMode defaultMode⟩

/-- The decision when no service has a policy set. -/
def emptyStoreDecision : Decision :=
  ⟨.indeterminate .deny .emptyPolicyStore,
    s!"Policy store is empty. Falling through to default state of {Effect.deny.name}", .empty⟩

variable [PatternLimit]

/-- Decides a query. -/
def decide (point : DecisionPoint) (query : Query) : Except DecisionError Decision := do
  if let some field := query.emptyField? then throw (.invalidQuery field)
  let principal ← (point.sessions.lookup query.subjectId).mapError SessionError.toDecisionError
  if point.store.size = 0 then return emptyStoreDecision
  return decidePolicies (point.store.policies query.requester)
    ⟨query.resource, query.action, principal⟩ point.default

/-- Decides a query and signs a statement of the decision. -/
def respond (point : DecisionPoint) (query : Query) (signer : Signer) : Except DecisionError Response := do
  let decision ← point.decide query
  return .new decision (.ofQuery decision query) signer

end DecisionPoint

end AccessDecision
