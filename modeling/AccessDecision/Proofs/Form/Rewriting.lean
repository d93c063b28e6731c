import AccessDecision.Proofs.Datum.Json.RoundTrip
import AccessDecision.Proofs.Form.Document

/-!
# Rewriting JSON texts

A JSON text that is accepted as a condition, a rule, a policy, a policy document or a query may be written anew
in the compact form: the text that is written is accepted again with the same value (`load?_rewritten`).  What is
written is a plain tree, and where it is nested more deeply than the text that was read it has a few levels only,
so it can always be read back.
-/

namespace AccessDecision.Datum.Json

variable {α : Type} {bound : Nat} {read : Datum → Option α} {write : α → Datum} {text : String} {v : α}

/-- Reads a value from a JSON text. -/
def load? (read : Datum → Option α) (text : String) : Option α := (read? text).bind read

/-- Writes the value of a JSON text anew. -/
def rewrite? (read : Datum → Option α) (write : α → Datum) (text : String) : Option String :=
  (load? read text).map fun v => compact (write v)

/-- What was loaded from a text is loaded again from the text that is written for it. -/
theorem load?_compact (h : Survives bound read write) (hbound : bound ≤ maxDepth)
    (hload : load? read text = some v) :
    load? read (compact (write v)) = some v := by
  obtain ⟨d, hread, hv⟩ := Option.bind_eq_some_iff.mp hload
  have hdepth : (write v).depth ≤ maxDepth := by
    have hle := h.depth d v hv
    have hle' := depth_le_of_read? hread
    omega
  unfold load?
  rw [read?_compact (h.plain d v hv) hdepth, Option.bind_some, h.reread d v hv]

/-- A value is loaded from any text of what is written for it. -/
theorem load?_of_read? (h : RoundTrips bound read write) (hread : read? text = some (write v)) :
    load? read text = some v := by
  unfold load?
  rw [hread, Option.bind_some, h.reread v]

/-- What is written for any value is loaded from the text. -/
theorem load?_of_roundTrips (h : RoundTrips bound read write) (hbound : bound ≤ maxDepth) (v : α) :
    load? read (compact (write v)) = some v :=
  load?_of_read? h (read?_compact (h.plain v) (Nat.le_trans (h.depth v) hbound))

/-- A text that was written anew is written as it is. -/
theorem rewrite?_idempotent (h : Survives bound read write) (hbound : bound ≤ maxDepth) {written : String}
    (hrewrite : rewrite? read write text = some written) : rewrite? read write written = some written := by
  obtain ⟨v, hload, rfl⟩ := Option.map_eq_some_iff.mp hrewrite
  unfold rewrite?
  rw [load?_compact h hbound hload]
  rfl

/-- Every accepted text can be written anew without a loss. -/
def SurvivesRewriting (read : Datum → Option α) (write : α → Datum) : Prop :=
  ∀ text v, load? read text = some v →
    load? read (compact (write v)) = some v ∧ rewrite? read write (compact (write v)) = some (compact (write v))

/-- **Documents survive rewriting.** -/
theorem load?_rewritten :
    SurvivesRewriting (Condition.ofDatum? .json) Condition.toDatum ∧
      SurvivesRewriting (Rule.ofDatum? .json) Rule.toDatum ∧
      SurvivesRewriting (Policy.ofDatum? .json) Policy.toDatum ∧
      SurvivesRewriting (PolicyDocument.ofDatum? .json) PolicyDocument.toDatum ∧
      SurvivesRewriting (Query.ofDatum? .json) Query.toDatum := by
  have hall : ∀ {α : Type} {bound : Nat} {read : Datum → Option α} {write : α → Datum},
      Survives bound read write → bound ≤ maxDepth → SurvivesRewriting read write := by
    intro α bound read write h hbound text v hload
    have hwritten : rewrite? read write text = some (compact (write v)) := by
      unfold rewrite?
      rw [hload]
      rfl
    exact ⟨load?_compact h hbound hload, rewrite?_idempotent h hbound hwritten⟩
  exact ⟨hall (Condition.survives .json) (by decide), hall (Rule.survives .json) (by decide),
    hall (Policy.survives .json) (by decide), hall (PolicyDocument.survives .json) (by decide),
    hall (Query.survives .json) (by decide)⟩

/-- A rule that is written as a list, with an alias and with arguments that loading drops, is kept. -/
theorem load?_listed_rule :
    let condition : Datum := .list [.text "apply", .text "string-regex",
      .list [.list [.text "designator", .text "role"],
        .list [.text "apply", .text "string-normalize-space", .list [.list [.text "value", .list [.text "x"]]]],
        .object [("values", .list [.text "a.*"]), ("type", .text "value")]]]
    let text := compact (.list [.text "r", .list [], .list [.text "read"], .text "Permit", condition])
    let rule : Rule := ⟨"r", some [], ["read"], .permit,
      some (.compare .regex [.designator "role", .normalizer .trimEdges, .literal ["a.*"]])⟩
    load? (Rule.ofDatum? .json) text = some rule ∧ text ≠ compact rule.toDatum ∧
      load? (Rule.ofDatum? .json) (compact rule.toDatum) = some rule := by
  intro condition text rule
  have hload : load? (Rule.ofDatum? .json) text = some rule := by
    unfold load?
    rw [read?_compact (by decide) (by decide)]
    rfl
  refine ⟨hload, fun heq => ?_, (load?_rewritten.2.1 text rule hload).1⟩
  exact absurd (List.cons.inj (String.ofList_injective heq)).1 (by decide)

end AccessDecision.Datum.Json
