import AccessDecision.Keyed
import AccessDecision.Policy.Basic

/-!
# Policy stores

A decision point only asks a `PolicyStore` for policy sets and for its size.  A `PolicyCache` is a store in memory:
policy sets under the names of their services.
-/

namespace AccessDecision

/-- Where a decision point finds policy sets. The two answers need not agree with each other. -/
structure PolicyStore where
  /-- The policy set of a service, if it has one. -/
  policies : String → Option (List Policy)
  /-- The number of services with a policy set; zero means that the store is empty. -/
  size : Nat

/-- Policy sets in memory. -/
structure PolicyCache where
  sets : Keyed (List Policy)
  /-- The number of the last full rebuild. -/
  buildSequence : Option Nat
  deriving Inhabited, Repr

namespace PolicyCache

/-- The cache without policy sets. -/
def empty : PolicyCache := ⟨.empty, none⟩

/-- The policy set of a service. -/
def policies? (cache : PolicyCache) (service : String) : Option (List Policy) := cache.sets.get? service

/-- The number of services with a policy set. -/
def size (cache : PolicyCache) : Nat := cache.sets.size

/-- Sets or replaces the policy set of a service. -/
def insert (cache : PolicyCache) (service : String) (policies : List Policy) : PolicyCache :=
  { cache with sets := cache.sets.set service policies }

/-- Removes the policy set of a service. -/
def remove (cache : PolicyCache) (service : String) : PolicyCache :=
  { cache with sets := cache.sets.erase service }

/-- The cache of listed policy sets, of which the last one of a service counts, after a rebuild with this number.
-/
def ofList (entries : List (String × List Policy)) (buildSequence : Option Nat) : PolicyCache :=
  ⟨.ofList entries, buildSequence⟩

/-- The cache of all services of a policy document. -/
def ofDocument (document : PolicyDocument) : PolicyCache := ofList document.services none

/-- The store that a decision point sees. -/
def toStore (cache : PolicyCache) : PolicyStore := ⟨cache.policies?, cache.size⟩

end PolicyCache

end AccessDecision
