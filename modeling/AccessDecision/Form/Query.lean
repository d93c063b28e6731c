import AccessDecision.Form.Policy
import AccessDecision.Service.Query

/-!
# The written form of queries

An action is written only if the query names one.
-/

namespace AccessDecision

/-- The fields of a query. -/
def Query.fields : List String := ["requester", "correlation_id", "resource", "action", "subject_id"]

/-- Reads a query. -/
def Query.ofDatum? (dialect : Dialect) (d : Datum) : Option Query := do
  let [requester, correlationId, resource, action, subjectId] ← d.slots dialect Query.fields | none
  return {
    requester := ← requester.required Datum.text?
    correlationId := ← correlationId.required Datum.text?
    resource := ← resource.required Datum.text?
    action := ← action.orElse (nullable Datum.text?) none
    subjectId := ← subjectId.required Datum.text? }

/-- Writes a query. -/
def Query.toDatum (query : Query) : Datum :=
  .object ([("requester", .text query.requester), ("correlation_id", .text query.correlationId),
      ("resource", .text query.resource)]
    ++ member? "action" (query.action.map Datum.text)
    ++ [("subject_id", .text query.subjectId)])

end AccessDecision
