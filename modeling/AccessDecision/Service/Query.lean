/-!
# Queries

A query names the service that asks, the resource and action it asks about, and the subject who wants access.
-/

namespace AccessDecision

/-- A decoded authorization query. -/
structure Query where
  /-- The service that asks, to which the response is restricted. -/
  requester : String
  correlationId : String
  resource : String
  /-- The requested action; only rules that cover it are considered. -/
  action : Option String
  subjectId : String
  deriving DecidableEq, Inhabited, Repr

/-- A query that names no action. -/
def Query.new (requester correlationId resource subjectId : String) : Query :=
  ⟨requester, correlationId, resource, none, subjectId⟩

/-- Names the action of a query. -/
def Query.withAction (query : Query) (action : String) : Query := { query with action := some action }

/-- The field of a query that must not be empty and is, if there is one. -/
def Query.emptyField? (query : Query) : Option String :=
  if query.requester.isEmpty then some "requester"
  else if query.resource.isEmpty then some "resource"
  else if query.subjectId.isEmpty then some "subject_id"
  else none

end AccessDecision
