import AccessDecision.Form.Basic
import AccessDecision.Principal

/-!
# The written form of principals

The attributes of a principal are a map; of members with the same key the last one counts.
-/

namespace AccessDecision

/-- Reads an attribute. -/
def IdentityAttribute.ofDatum? (dialect : Dialect) (d : Datum) : Option IdentityAttribute := do
  let [attributeId, values] ← d.slots dialect ["attribute_id", "values"] | none
  return ⟨← attributeId.required Datum.text?, ← values.required texts?⟩

/-- Writes an attribute. -/
def IdentityAttribute.toDatum (attr : IdentityAttribute) : Datum :=
  .object [("attribute_id", .text attr.attributeId), ("values", textsDatum attr.values)]

/-- Reads a map of attributes. -/
def attributes? (dialect : Dialect) (d : Datum) : Option (Keyed IdentityAttribute) := do
  let entries ← (← d.members?).mapM fun (key, value) =>
    (IdentityAttribute.ofDatum? dialect value).map fun attr => (key, attr)
  return .ofList entries

/-- Reads a principal. -/
def SessionPrincipal.ofDatum? (dialect : Dialect) (d : Datum) : Option SessionPrincipal := do
  let [principalName, sessionId, attributes] ←
    d.slots dialect ["principal_name", "session_id", "attributes"] | none
  return {
    principalName := ← principalName.required Datum.text?
    sessionId := ← sessionId.required Datum.text?
    attributes := ← attributes.required (attributes? dialect) }

/-- Writes a principal. -/
def SessionPrincipal.toDatum (p : SessionPrincipal) : Datum :=
  .object [("principal_name", .text p.principalName), ("session_id", .text p.sessionId),
    ("attributes", .object (p.attributes.entries.map fun (key, attr) => (key, attr.toDatum)))]

end AccessDecision
