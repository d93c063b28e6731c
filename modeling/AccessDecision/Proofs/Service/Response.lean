import AccessDecision.Pattern.Size
import AccessDecision.Proofs.Form.Rewriting
import AccessDecision.Proofs.Service.Permit

/-!
# Signed responses

A signer sees the bytes of a statement and nothing else, and what it answers goes into the delivery and nowhere
else (`respond_eq`).  So a response carries the decision that is made without it, and two signers give responses
that differ in their deliveries alone.

The bytes say all that the statement says: whoever holds a signed document reads the statement from it again
(`ofDocument?_document`), whatever quotes, control characters or groups of targets there are in it.
-/

namespace AccessDecision

variable {statement : DecisionStatement} {signer : Signer}

/-! ## Reading documents -/

/-- Reads a statement from the bytes of a document. -/
def DecisionStatement.ofDocument? (document : ByteArray) : Option DecisionStatement :=
  (String.fromUTF8? document).bind (Datum.Json.load? (ofDatum? .json))

theorem GroupTarget.roundTrips (dialect : Dialect) :
    RoundTrips 2 (GroupTarget.ofDatum? dialect) GroupTarget.toDatum := by
  refine RoundTrips.record (by decide) (fun _ => rfl) (fun group => ?_) fun group => ?_
  · simp [RoundTrips.texts.plain, RoundTrips.texts.depth]
  · simp [Slot.required, RoundTrips.text.reread, RoundTrips.texts.reread]

/-- Any statement can be written and read again, whatever is in its fields. -/
theorem DecisionStatement.roundTrips (dialect : Dialect) :
    RoundTrips 4 (DecisionStatement.ofDatum? dialect) DecisionStatement.toDatum := by
  have heffect := Effect.roundTrips dialect
  have hgroups := (GroupTarget.roundTrips dialect).list
  refine RoundTrips.record (by decide) (fun _ => rfl) (fun statement => ?_) fun statement => ?_
  · have hdepth : statement.decision.toDatum.depth ≤ 3 := Nat.le_trans (heffect.depth _) (Nat.zero_le 3)
    simp [heffect.plain, hdepth, hgroups.plain, hgroups.depth]
  · simp [Slot.required, heffect.reread, RoundTrips.text.reread, hgroups.reread]

theorem fromUTF8?_toUTF8 (text : String) : String.fromUTF8? text.toUTF8 = some text := by
  simp only [String.fromUTF8?, String.toUTF8_eq_toByteArray, dif_pos text.isValidUTF8]
  rfl

/-- **The statement is read from its document.** -/
theorem ofDocument?_document (statement : DecisionStatement) :
    DecisionStatement.ofDocument? statement.document.toUTF8 = some statement := by
  unfold DecisionStatement.ofDocument?
  rw [fromUTF8?_toUTF8, Option.bind_some]
  exact Datum.Json.load?_of_roundTrips (DecisionStatement.roundTrips .json) (by decide) statement

/-! ## Deliveries -/

section Deliveries

variable {document signature : ByteArray} {e : SigningError}

theorem deliver_of_ok (h : signer.sign statement.document.toUTF8 = .ok signature) :
    statement.deliver signer = .signed statement.document.toUTF8 signature := by
  simp only [DecisionStatement.deliver, h]

theorem deliver_of_error (h : signer.sign statement.document.toUTF8 = .error e) :
    statement.deliver signer = .unsigned e := by
  simp only [DecisionStatement.deliver, h]

theorem deliver_eq_signed_iff : statement.deliver signer = .signed document signature ↔
    document = statement.document.toUTF8 ∧ signer.sign document = .ok signature := by
  constructor
  · intro h
    cases hsign : signer.sign statement.document.toUTF8 with
    | ok signature' =>
      rw [deliver_of_ok hsign] at h
      obtain ⟨rfl, rfl⟩ := Delivery.signed.inj h
      exact ⟨rfl, hsign⟩
    | error e =>
      rw [deliver_of_error hsign] at h
      cases h
  · rintro ⟨rfl, hsign⟩
    exact deliver_of_ok hsign

theorem deliver_eq_unsigned_iff :
    statement.deliver signer = .unsigned e ↔ signer.sign statement.document.toUTF8 = .error e := by
  refine ⟨fun h => ?_, deliver_of_error⟩
  cases hsign : signer.sign statement.document.toUTF8 with
  | ok signature =>
    rw [deliver_of_ok hsign] at h
    cases h
  | error e' =>
    rw [deliver_of_error hsign] at h
    rw [Delivery.unsigned.inj h]

end Deliveries

/-! ## Responses -/

section Responses

variable [PatternLimit] {point : DecisionPoint} {query : Query}

/-- A response is the decision that is made without a signer, with its statement and what comes of signing that. -/
theorem respond_eq : point.respond query signer =
    (point.decide query).map fun decision => .new decision (.ofQuery decision query) signer := by
  unfold DecisionPoint.respond
  cases point.decide query <;> rfl

theorem respond_of_error {e : DecisionError} (h : point.decide query = .error e) :
    point.respond query signer = .error e := by
  rw [respond_eq, h]
  rfl

theorem respond_of_ok {decision : Decision} (h : point.decide query = .ok decision) :
    point.respond query signer = .ok (.new decision (.ofQuery decision query) signer) := by
  rw [respond_eq, h]
  rfl

theorem respond_eq_error_iff {e : DecisionError} :
    point.respond query signer = .error e ↔ point.decide query = .error e := by
  cases h : point.decide query with
  | error e' => simp [respond_of_error h]
  | ok decision => simp [respond_of_ok h]

/-- What a response says does not depend on who signs it. -/
theorem respond_ignores_signer (point : DecisionPoint) (query : Query) (signer other : Signer) :
    (point.respond query signer).map (fun response => (response.decision, response.statement)) =
      (point.respond query other).map fun response => (response.decision, response.statement) := by
  cases h : point.decide query with
  | error e => rw [respond_of_error h, respond_of_error h]
  | ok decision =>
    rw [respond_of_ok h, respond_of_ok h]
    rfl

end Responses

/-- **Signing does not change a decision, and a signed document is faithful.** A query is answered by an error if
and only if it is decided by that error.  Otherwise the response carries the decision, and a statement of its
effect, message and groups of targets for the query.  It is signed if and only if the signer accepts the bytes of
the statement, with the signature for those bytes, and else it carries the error of the signer.  The statement of
a signed document, and any other statement, is read again from its bytes.  Another signer gives the same decision
and statement. -/
theorem respond_faithful [PatternLimit] (point : DecisionPoint) (query : Query) (signer : Signer) :
    (∀ e, point.respond query signer = .error e ↔ point.decide query = .error e) ∧
    (∀ decision, point.decide query = .ok decision → ∃ response, point.respond query signer = .ok response ∧
      response.decision = decision ∧
      response.statement = {
        decision := decision.effect
        resource := query.resource
        audience := query.requester
        inResponseTo := query.correlationId
        subject := query.subjectId
        groupTargets := decision.audit.groupTargets
        message := decision.message } ∧
      (∀ document signature, response.delivery = .signed document signature ↔
        document = response.statement.document.toUTF8 ∧ signer.sign document = .ok signature) ∧
      (∀ e, response.delivery = .unsigned e ↔ signer.sign response.statement.document.toUTF8 = .error e) ∧
      (∀ document signature, response.delivery = .signed document signature →
        DecisionStatement.ofDocument? document = some response.statement)) ∧
    (∀ statement : DecisionStatement, DecisionStatement.ofDocument? statement.document.toUTF8 = some statement) ∧
    ∀ other, (point.respond query other).map (fun response => (response.decision, response.statement)) =
      (point.respond query signer).map fun response => (response.decision, response.statement) := by
  refine ⟨fun e => respond_eq_error_iff, fun decision hdecision => ?_, ofDocument?_document,
    fun other => respond_ignores_signer point query other signer⟩
  refine ⟨_, respond_of_ok hdecision, rfl, rfl, fun document signature => deliver_eq_signed_iff,
    fun e => deliver_eq_unsigned_iff, fun document signature hsigned => ?_⟩
  obtain ⟨rfl, -⟩ := deliver_eq_signed_iff.mp hsigned
  exact ofDocument?_document _

/-- The names of a query with a quote, a backslash and control characters reach whoever reads the signed
document, and a signer that has no key leaves the decision as it is. -/
theorem respond_faithful_to_quotes :
    let policies : List Policy := [⟨"P\"1", ["/a\\b"], [], [⟨"R\n1", none, [], .permit, none⟩]⟩]
    let point : DecisionPoint := ⟨⟨fun _ => some policies, 1⟩, openDirectory, .deny⟩
    let query := Query.new "ma\"il" "\x00\x1f" "/a\\b" "zoë"
    let echo : Signer := ⟨.ok⟩
    let keyless : Signer := ⟨fun _ => .error (.signer "no key")⟩
    ∃ decision signed unsigned, point.decide query = .ok decision ∧ decision.verdict = .permit ∧
      point.respond query echo = .ok signed ∧ point.respond query keyless = .ok unsigned ∧
        (∃ document statement, signed.delivery = .signed document document ∧
          DecisionStatement.ofDocument? document = some statement ∧ statement.decision = .permit ∧
            statement.audience = "ma\"il" ∧ statement.inResponseTo = "\x00\x1f" ∧
              statement.groupTargets = [⟨"/a\\b", ["/a\\b"]⟩]) ∧
        unsigned.decision = decision ∧ unsigned.delivery = .unsigned (.signer "no key") := by
  intro policies point query echo keyless
  obtain ⟨decision, hdecision, hverdict, hgroups⟩ : ∃ decision, point.decide query = .ok decision ∧
      decision.verdict = .permit ∧ decision.audit.groupTargets = [⟨"/a\\b", ["/a\\b"]⟩] :=
    ⟨_, rfl, by decide, by decide⟩
  have heffect : decision.effect = .permit := by simp [Decision.effect, hverdict]
  obtain ⟨signed, hsigned, -, hstatement, hdelivery, -, hread⟩ :=
    (respond_faithful point query echo).2.1 decision hdecision
  obtain ⟨unsigned, hunsigned, hsame, -, -, hrefusal, -⟩ :=
    (respond_faithful point query keyless).2.1 decision hdecision
  have hdocument := (hdelivery signed.statement.document.toUTF8 signed.statement.document.toUTF8).mpr ⟨rfl, rfl⟩
  refine ⟨decision, signed, unsigned, hdecision, hverdict, hsigned, hunsigned,
    ⟨_, signed.statement, hdocument, hread _ _ hdocument, ?_⟩, hsame, (hrefusal _).mpr rfl⟩
  rw [hstatement]
  exact ⟨heffect, rfl, rfl, hgroups⟩

end AccessDecision
