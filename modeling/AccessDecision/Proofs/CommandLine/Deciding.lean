import AccessDecision.Pattern.Size
import AccessDecision.Proofs.CommandLine.Arguments
import AccessDecision.Proofs.CommandLine.Attributes
import AccessDecision.Proofs.CommandLine.Running
import AccessDecision.Proofs.Form.Decision
import AccessDecision.Proofs.Form.Document
import AccessDecision.Proofs.Service.Permit

/-!
# The command line decides as the library does

What `decide` comes to is a function of the loaded document and of what is asked (`run_eq_outcome`): neither the
settings nor the sessions play a part.  A loaded document lists no service twice, so the cache that is built from
it holds what the document lists (`PolicyCache.ofDocument_eq`); and the one session that is started is that of
the subject who is asked about.
-/

namespace AccessDecision

/-- A document is kept as it is. -/
theorem PolicyCache.ofDocument_eq (document : PolicyDocument) :
    (PolicyCache.ofDocument document).sets.entries = document.services :=
  Keyed.entries_ofList (document.inOrder.imp fun hlt => ne_of_lt hlt)

namespace CommandLine

/-! ## Definitions -/

/-- What the library answers to a request, with the principal who comes of its attributes. -/
def DecideArguments.answer [PatternLimit] (args : DecideArguments) (document : PolicyDocument)
    (principal : SessionPrincipal) : Decision :=
  if document.services = [] then DecisionPoint.emptyStoreDecision
  else decidePolicies (document.policies? args.service) ⟨args.resource, args.action, principal.toPrincipal⟩ .deny

/-- The query that a request comes to. -/
def DecideArguments.query (args : DecideArguments) : Query :=
  ⟨args.service, "cli", args.resource, args.action, args.subject⟩

/-- What a request comes to. -/
def DecideArguments.outcome [PatternLimit] (args : DecideArguments) (document : PolicyDocument) : Outcome :=
  match SessionPrincipal.ofAssignments args.subject args.attributes, args.query.emptyField? with
  | .error e, _ => .failed (.assignment e)
  | .ok _, some field => .failed (.decision (.invalidQuery field))
  | .ok principal, none => .printed (decisionText (args.answer document principal))

/-! ## The outcome of a request -/

section Outcomes

variable {entry : String → FileEntry} {environment : Environment} {given : List String} {arguments : Arguments}
  {args : DecideArguments} {settings : Settings} {document : PolicyDocument} {principal : SessionPrincipal}

theorem load?_decisionText (decision : Decision) :
    Datum.Json.load? (Decision.ofDatum? .json) (decisionText decision) = some decision := by
  have h := Decision.roundTrips .json
  exact Datum.Json.load?_of_read? h (Datum.Json.read?_pretty_line (h.plain decision) decision.depth_toDatum_le)

theorem Outcome.output_of_exitCode_ne_zero {outcome : Outcome} (h : outcome.exitCode ≠ 0) :
    outcome.output = "" := by
  cases outcome with
  | printed text => exact absurd rfl h
  | wrongUsage => rfl
  | failed e => rfl

variable [PatternLimit]

theorem decide_of_incomplete {field : String}
    (hprincipal : SessionPrincipal.ofAssignments args.subject args.attributes = .ok principal)
    (hfield : args.query.emptyField? = some field) :
    decide settings document args = .error (.decision (.invalidQuery field)) := by
  unfold decide
  rw [hprincipal]
  exact congrArg (Except.mapError CommandError.decision) (decide_of_emptyField hfield)

/-- The decision point is asked about the subject whose session has just been started. -/
theorem decide_eq_answer (hprincipal : SessionPrincipal.ofAssignments args.subject args.attributes = .ok principal)
    (hfield : args.query.emptyField? = none) :
    decide settings document args = .ok (args.answer document principal) := by
  let state := (ServiceState.ofDocument document).apply (.startSession args.subject principal)
  have hsession : state.sessions.principal? args.subject = some principal := Keyed.get?_set_self
  have hlookup : state.sessions.toDirectory.lookup args.query.subjectId = .ok principal.toPrincipal := by
    simp [Sessions.toDirectory, Sessions.lookup, DecideArguments.query, hsession, Except.map]
  have hcache : state.cache.sets.entries = document.services := PolicyCache.ofDocument_eq document
  -- whether the store is empty and what it holds are both read off the document
  have hpoint : (state.point settings.decision.defaultMode).decide args.query =
      .ok (args.answer document principal) := by
    refine (decide_of_lookup_ok hfield hlookup).trans (congrArg Except.ok ?_)
    show (if state.cache.sets.entries.length = 0 then _
      else decidePolicies (state.cache.sets.entries.lookup args.service) _ _) = _
    simp only [hcache, DecideArguments.answer, List.length_eq_zero_iff]
    rfl
  unfold decide
  rw [hprincipal]
  exact congrArg (Except.mapError CommandError.decision) hpoint

/-- **What `decide` comes to** depends on the document and the request alone. -/
theorem run_eq_outcome (hgiven : Arguments.read given = .ok arguments)
    (hcommand : arguments.command = .decide args)
    (hsettings : arguments.settings entry environment = .ok settings)
    (hdocument : PolicyDocument.load args.policies (entry args.policies) = .ok document) :
    run entry environment given = args.outcome document := by
  -- with the document at hand, only `decide` itself can still fail
  have hdecide : run entry environment given =
      match decide settings document args with
      | .ok decision => .printed (decisionText decision)
      | .error e => .failed e := by
    rw [run_eq_ofText hgiven hsettings, hcommand]
    simp only [commandText, hdocument, Except.mapError, bind, Except.bind]
    cases decide settings document args <;> rfl
  rw [hdecide]
  unfold DecideArguments.outcome
  cases hprincipal : SessionPrincipal.ofAssignments args.subject args.attributes with
  | error e =>
    unfold decide
    rw [hprincipal]
    rfl
  | ok principal =>
    cases hfield : args.query.emptyField? with
    | none => rw [decide_eq_answer hprincipal hfield]
    | some field => rw [decide_of_incomplete hprincipal hfield]

/-- A request fails for the first text that is no attribute or for the first field that is empty, and in no other
way. -/
theorem DecideArguments.outcome_cases (args : DecideArguments) (document : PolicyDocument) :
    (∃ e, SessionPrincipal.ofAssignments args.subject args.attributes = .error e ∧
      args.outcome document = .failed (.assignment e)) ∨
    (∃ field, args.query.emptyField? = some field ∧
      args.outcome document = .failed (.decision (.invalidQuery field))) ∨
    ∃ principal, SessionPrincipal.ofAssignments args.subject args.attributes = .ok principal ∧
      args.query.emptyField? = none ∧
      args.outcome document = .printed (decisionText (args.answer document principal)) := by
  unfold DecideArguments.outcome
  cases SessionPrincipal.ofAssignments args.subject args.attributes with
  | error e => exact .inl ⟨e, rfl, rfl⟩
  | ok principal =>
    cases args.query.emptyField? with
    | some field => exact .inr (.inl ⟨field, rfl, rfl⟩)
    | none => exact .inr (.inr ⟨principal, rfl, rfl, rfl⟩)

theorem DecideArguments.exitCode_outcome_eq_zero_iff (args : DecideArguments) (document : PolicyDocument) :
    (args.outcome document).exitCode = 0 ↔
      (∀ text ∈ args.attributes, IsAssignment text) ∧
        args.service ≠ "" ∧ args.resource ≠ "" ∧ args.subject ≠ "" := by
  have hquery : args.query.emptyField? = none ↔ args.service ≠ "" ∧ args.resource ≠ "" ∧ args.subject ≠ "" :=
    Query.emptyField?_eq_none_iff
  rw [← SessionPrincipal.exists_ofAssignments_iff args.subject, ← hquery]
  rcases args.outcome_cases document with
    ⟨e, he, heq⟩ | ⟨field, hfield, heq⟩ | ⟨principal, hprincipal, hfield, heq⟩
  · rw [heq, he]
    simp [Outcome.exitCode]
  · rw [heq, hfield]
    simp [Outcome.exitCode]
  · rw [heq, hprincipal, hfield]
    simp [Outcome.exitCode]

end Outcomes

/-- **The command line decides as the library does.** Whatever is asked of `decide` about a document that loads,
under settings that load, can be given as arguments.  The run succeeds exactly if every attribute is a name, not
blank, with a value, and service, resource and subject are not empty.  It then prints a JSON text from which the
decision of the library is loaded: that of the policy set of the service, if it has one, for the principal with
these attributes, and with denial as the default; or that of the empty store, if the document has no services.
Else nothing is printed, and never for want of a session.

Neither the settings nor the options outside the request make any difference. -/
theorem run_decide [PatternLimit] (args : DecideArguments) (document : PolicyDocument)
    (config logLevel : Option String) (entry : String → FileEntry) (environment : Environment)
    (settings : Settings)
    (hsettings : Arguments.settings ⟨config, logLevel, .decide args⟩ entry environment = .ok settings)
    (hdocument : PolicyDocument.load args.policies (entry args.policies) = .ok document) :
    (args.policies ≠ "" → config ≠ some "" →
      ∃ given, Arguments.read given = .ok ⟨config, logLevel, .decide args⟩) ∧
    ∀ given, Arguments.read given = .ok ⟨config, logLevel, .decide args⟩ →
      let outcome := run entry environment given
      (outcome.exitCode = 0 ↔ (∀ text ∈ args.attributes, IsAssignment text) ∧
        args.service ≠ "" ∧ args.resource ≠ "" ∧ args.subject ≠ "") ∧
      (outcome.exitCode = 0 → ∃ principal,
        SessionPrincipal.ofAssignments args.subject args.attributes = .ok principal ∧
          Datum.Json.load? (Decision.ofDatum? .json) outcome.output = some (args.answer document principal)) ∧
      (outcome.exitCode ≠ 0 → outcome.output = "") ∧
      (∀ subject, outcome ≠ .failed (.decision (.unknownSession subject))) ∧
      ∀ config' logLevel' entry' environment' settings' given', entry' args.policies = entry args.policies →
        Arguments.settings ⟨config', logLevel', .decide args⟩ entry' environment' = .ok settings' →
        Arguments.read given' = .ok ⟨config', logLevel', .decide args⟩ →
          run entry' environment' given' = outcome := by
  refine ⟨fun hpolicies hconfig => ⟨_, Arguments.read_spelled hconfig hpolicies⟩, fun given hgiven => ?_⟩
  intro outcome
  have houtcome : outcome = args.outcome document := run_eq_outcome hgiven rfl hsettings hdocument
  refine ⟨?_, ?_, Outcome.output_of_exitCode_ne_zero, ?_, ?_⟩
  · rw [houtcome]
    exact args.exitCode_outcome_eq_zero_iff document
  · intro hzero
    rw [houtcome] at hzero ⊢
    rcases args.outcome_cases document with ⟨e, -, heq⟩ | ⟨field, -, heq⟩ | ⟨principal, hprincipal, -, heq⟩
    · rw [heq] at hzero
      cases hzero
    · rw [heq] at hzero
      cases hzero
    · rw [heq]
      exact ⟨principal, hprincipal, load?_decisionText _⟩
  · intro subject
    rw [houtcome]
    rcases args.outcome_cases document with ⟨e, -, heq⟩ | ⟨field, -, heq⟩ | ⟨principal, -, -, heq⟩ <;> simp [heq]
  · intro config' logLevel' entry' environment' settings' given' hentry hsettings' hgiven'
    -- the outcome is that of the document, and the same document is loaded
    rw [← hentry] at hdocument
    exact (run_eq_outcome hgiven' rfl hsettings' hdocument).trans houtcome.symm

/-- A permit that is configured as the default mode decides nothing: a service without policies is denied, as it is
without any configuration. -/
theorem decide_ignores_configured_permit :
    let entry : String → FileEntry := fun path =>
      if path = "p.json" then .file "\x7b\"services\":\x7b\"web\":[]\x7d\x7d".toUTF8 else .missing
    let environment : Environment := fun name =>
      if name = defaultModeVariable then some "Permit".toUTF8 else none
    let args : DecideArguments := ⟨"p.json", "web", "/x", none, ["role=staff"], "alice"⟩
    let outcome := run entry environment (args.spelled none none)
    Arguments.settings ⟨none, none, .decide args⟩ entry environment = .ok ⟨⟨.permit⟩, ⟨"info", .plain⟩⟩ ∧
      outcome.exitCode = 0 ∧
      Datum.Json.load? (Decision.ofDatum? .json) outcome.output =
        some ⟨.indeterminate .deny .noPolicySet, noPolicyMessage .deny, .empty⟩ ∧
      run entry (fun _ => none) (args.spelled none (some "debug")) = outcome := by
  intro entry environment args outcome
  have hsettings : Arguments.settings ⟨none, none, .decide args⟩ entry environment =
      .ok ⟨⟨.permit⟩, ⟨"info", .plain⟩⟩ := by rfl
  have hentry : entry args.policies = .file "\x7b\"services\":\x7b\"web\":[]\x7d\x7d".toUTF8 := if_pos rfl
  have hfile : PolicyDocument.load "p.json" (.file "\x7b\"services\":\x7b\"web\":[]\x7d\x7d".toUTF8) =
      .ok ⟨[("web", [])], List.pairwise_singleton _ _⟩ := rfl
  have hdocument : PolicyDocument.load args.policies (entry args.policies) =
      .ok ⟨[("web", [])], List.pairwise_singleton _ _⟩ := by
    rw [hentry]
    exact hfile
  have hassignment : IsAssignment "role=staff" :=
    ⟨"role".toList, "staff".toList, by decide, by decide, 'r', by decide, by decide⟩
  obtain ⟨-, hrun⟩ := run_decide args ⟨[("web", [])], List.pairwise_singleton _ _⟩ none none entry
    environment _ hsettings hdocument
  obtain ⟨hzero, hload, -, -, hsame⟩ := hrun _ (Arguments.read_spelled (by decide) (by decide))
  have hok : outcome.exitCode = 0 := hzero.mpr ⟨by simpa [args] using hassignment, by decide, by decide, by decide⟩
  obtain ⟨principal, -, hloaded⟩ := hload hok
  refine ⟨hsettings, hok, hloaded, ?_⟩
  exact hsame none (some "debug") entry (fun _ => none) ⟨⟨.deny⟩, ⟨"debug", .plain⟩⟩ _ rfl rfl
    (Arguments.read_spelled (by decide) (by decide))

end CommandLine

end AccessDecision
