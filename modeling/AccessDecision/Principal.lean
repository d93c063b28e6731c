import AccessDecision.Keyed

/-!
# Principals

A principal is the identity for which a query is decided: a name and attributes with values.  Conditions ask for
an attribute by its key.  `SessionPrincipal` is a principal with a session, which keeps its attributes under keys.
-/

namespace AccessDecision

/-- A named attribute with its values. -/
structure IdentityAttribute where
  attributeId : String
  values : List String
  deriving DecidableEq, Inhabited, Repr

/-- An identity as conditions see it: a name, and for each key the attribute that stands there. -/
structure Principal where
  name : String
  lookup : String → Option IdentityAttribute

/-- A principal with a session. An attribute is found under its key, which need not be its id. -/
structure SessionPrincipal where
  principalName : String
  sessionId : String
  attributes : Keyed IdentityAttribute
  deriving DecidableEq, Inhabited, Repr

namespace SessionPrincipal

/-- A principal without attributes. -/
def new (principalName sessionId : String) : SessionPrincipal := ⟨principalName, sessionId, .empty⟩

/-- The attribute under a key. -/
def attribute? (p : SessionPrincipal) (key : String) : Option IdentityAttribute :=
  p.attributes.get? key

/-- Adds values to the attribute under a key; a key that is not there yet starts an attribute of that id. -/
def addValues (p : SessionPrincipal) (key : String) (values : List String) : SessionPrincipal :=
  let found := (p.attribute? key).getD ⟨key, []⟩
  { p with attributes := p.attributes.set key { found with values := found.values ++ values } }

/-- The identity that conditions see. -/
def toPrincipal (p : SessionPrincipal) : Principal := ⟨p.principalName, p.attribute?⟩

end SessionPrincipal

end AccessDecision
