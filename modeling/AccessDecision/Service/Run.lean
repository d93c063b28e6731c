import AccessDecision.Service.DecisionPoint

/-!
# Runs

What happens to a cache and to sessions over time is a list of operations.  `ServiceState.apply` does one of
them, and `ServiceState.run` all of them in order.  Whoever holds the cache or the sessions sees every operation.
-/

namespace AccessDecision

/-- A change of the cache or of the sessions. -/
inductive Operation where
  | insert (service : String) (policies : List Policy)
  | remove (service : String)
  /-- Replaces all policy sets; of sets of the same service the last one counts. -/
  | replace (services : List (String × List Policy)) (buildSequence : Option Nat)
  | startSession (subject : String) (principal : SessionPrincipal)
  | terminate (subject : String)

/-- A cache and sessions. -/
structure ServiceState where
  cache : PolicyCache
  sessions : Sessions

namespace ServiceState

/-- No policy set and no session. -/
def empty : ServiceState := ⟨.empty, .empty⟩

/-- The policy sets of a document and no session. -/
def ofDocument (document : PolicyDocument) : ServiceState := ⟨.ofDocument document, .empty⟩

/-- Does an operation. -/
def apply (state : ServiceState) : Operation → ServiceState
  | .insert service policies => { state with cache := state.cache.insert service policies }
  | .remove service => { state with cache := state.cache.remove service }
  | .replace services buildSequence => { state with cache := .ofList services buildSequence }
  | .startSession subject principal => { state with sessions := state.sessions.insert subject principal }
  | .terminate subject => { state with sessions := state.sessions.terminate subject }

/-- Does operations in order. -/
def run (state : ServiceState) (operations : List Operation) : ServiceState := operations.foldl apply state

/-- The decision point over the cache and the sessions. -/
def point (state : ServiceState) (defaultMode : Effect) : DecisionPoint :=
  .new state.cache.toStore state.sessions.toDirectory defaultMode

end ServiceState

end AccessDecision
