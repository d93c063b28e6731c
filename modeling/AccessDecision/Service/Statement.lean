import AccessDecision.Datum.Json.Writer
import AccessDecision.Form.Decision
import AccessDecision.Service.Query

/-!
# Decision statements

A statement carries what a response needs of a decision.  It is written as compact JSON, and a `Signer` signs those
bytes.  A signature that cannot be made is reported in the `Delivery`; it never changes the decision.
-/

namespace AccessDecision

/-- What a response says about a decision. -/
structure DecisionStatement where
  decision : Effect
  resource : String
  /-- The service to which the response is restricted. -/
  audience : String
  inResponseTo : String
  subject : String
  groupTargets : List GroupTarget
  message : String
  deriving DecidableEq, Inhabited, Repr

namespace DecisionStatement

/-- The statement of a decision. -/
def new (decision : Decision) (resource audience inResponseTo subject : String) : DecisionStatement where
  decision := decision.effect
  resource := resource
  audience := audience
  inResponseTo := inResponseTo
  subject := subject
  groupTargets := decision.audit.groupTargets
  message := decision.message

/-- The statement that answers a query. -/
def ofQuery (decision : Decision) (query : Query) : DecisionStatement :=
  new decision query.resource query.requester query.correlationId query.subjectId

/-- The fields of a statement. -/
def fields : List String :=
  ["decision", "resource", "audience", "in_response_to", "subject", "group_targets", "message"]

/-- Reads a statement. -/
def ofDatum? (dialect : Dialect) (d : Datum) : Option DecisionStatement := do
  let [decision, resource, audience, inResponseTo, subject, groupTargets, message] ←
    d.slots dialect fields | none
  return {
    decision := ← decision.required (Effect.ofDatum? dialect)
    resource := ← resource.required Datum.text?
    audience := ← audience.required Datum.text?
    inResponseTo := ← inResponseTo.required Datum.text?
    subject := ← subject.required Datum.text?
    groupTargets := ← groupTargets.required (listOf (GroupTarget.ofDatum? dialect))
    message := ← message.required Datum.text? }

/-- Writes a statement. -/
def toDatum (s : DecisionStatement) : Datum :=
  .object [("decision", s.decision.toDatum), ("resource", .text s.resource), ("audience", .text s.audience),
    ("in_response_to", .text s.inResponseTo), ("subject", .text s.subject),
    ("group_targets", .list (s.groupTargets.map GroupTarget.toDatum)), ("message", .text s.message)]

/-- The document that is signed. -/
def document (s : DecisionStatement) : String := Datum.Json.compact s.toDatum

end DecisionStatement

/-- Why there is no signature. -/
inductive SigningError where
  | encoding (reason : String)
  | signer (reason : String)
  deriving DecidableEq, Repr

/-- The error in words. -/
def SigningError.message : SigningError → String
  | encoding reason => s!"failed to encode decision statement: {reason}"
  | signer reason => s!"signer error: {reason}"

/-- Signs the bytes of a document. -/
structure Signer where
  sign : ByteArray → Except SigningError ByteArray

/-- A statement as it is handed over: its bytes with a signature, or the reason why there is none. -/
inductive Delivery where
  | signed (document signature : ByteArray)
  | unsigned (error : SigningError)

/-- A decision with its statement and the outcome of signing it. -/
structure Response where
  decision : Decision
  statement : DecisionStatement
  delivery : Delivery

/-- Signs a statement. -/
def DecisionStatement.deliver (statement : DecisionStatement) (signer : Signer) : Delivery :=
  let document := statement.document.toUTF8
  match signer.sign document with
  | .ok signature => .signed document signature
  | .error e => .unsigned e

/-- The response that a decision with a statement gives. -/
def Response.new (decision : Decision) (statement : DecisionStatement) (signer : Signer) : Response :=
  ⟨decision, statement, statement.deliver signer⟩

end AccessDecision
