import AccessDecision.Pattern.Size
import AccessDecision.Proofs.CommandLine.Running
import AccessDecision.Proofs.Datum.Json.RoundTrip
import AccessDecision.Proofs.Form.Applied
import AccessDecision.Proofs.Service.Response

/-!
# The unknown functions that are reported

`check` works on the loaded document, yet what it prints can be told from the tree of the text alone: for each
service a line about the policies that are written for it, and one about each unknown function that one of them
applies where loading keeps it (`run_check_reports`).  A function is lost in loading if it stands in an argument
of a function that takes none, and a policy if its service is written again
(`dropped_functions_are_not_reported`).
-/

namespace AccessDecision.CommandLine

open Condition

/-! ## Definitions -/

/-- The line about the number of policies that are written for a service. -/
def countLine (service : String) (policies : List Datum) : String := s!"{service}: {policies.length} policies"

/-- The line about an unknown function of a policy. -/
def unknownLine (policyId function : String) : String := s!"  {policyId}: unrecognized function '{function}'"

/-- A written policy has an id, applies an unknown function, and the line is about both. -/
def Reports (policy : Datum) (line : String) : Prop :=
  ∃ policyId function, policy.Says Policy.fields "policy_id" (.text policyId) ∧
    policy.PolicyAppliesUnknown function ∧ line = unknownLine policyId function

variable {path line : String} {entry : String → FileEntry} {environment : Environment} {given : List String}
  {arguments : Arguments} {settings : Settings} {document : PolicyDocument} {dialect : Dialect} {d : Datum}

/-! ## Lines -/

theorem mem_policyLines_iff {policy : Policy} (h : Policy.ofDatum? dialect d = some policy) :
    line ∈ policyLines policy ↔ Reports d line := by
  unfold policyLines Reports
  simp [Policy.mem_unrecognizedIds_iff h, Policy.says_policyId_iff h, unknownLine, eq_comm]

theorem mem_serviceLines_iff (service : String) (items : List Datum) (policies : List Policy)
    (h : items.mapM (Policy.ofDatum? dialect) = some policies) :
    line ∈ serviceLines service policies ↔ line = countLine service items ∨ ∃ item ∈ items, Reports item line := by
  have hlines : ∀ item policy, Policy.ofDatum? dialect item = some policy →
      (line ∈ policyLines policy ↔ Reports item line) := fun item policy => mem_policyLines_iff
  rw [serviceLines, List.mem_cons, List.mem_flatMap, exists_mem_iff_of_mapM h hlines, length_of_mapM h, countLine]

theorem mem_checkLines_iff (h : PolicyDocument.ofDatum? dialect d = some document) :
    line ∈ checkLines document ↔ ∃ service items, d.WritesPolicies service items ∧
      (line = countLine service items ∨ ∃ item ∈ items, Reports item line) := by
  rw [← PolicyDocument.exists_services_iff h mem_serviceLines_iff]
  simp [checkLines]

/-! ## Documents in single files -/

/-- The file at this path is the only one, and it holds the tree as compact JSON. -/
def onlyFile (path : String) (tree : Datum) (path' : String) : FileEntry :=
  if path' = path then .file (Datum.Json.compact tree).toUTF8 else .missing

/-- A written policy with one rule. -/
def writtenPolicy (policyId : String) (condition : Form) : Datum :=
  .object [("policy_id", .text policyId), ("rules", .list [.object
    [("rule_id", .text "R"), ("effect", .text "Permit"), ("condition", formDatum condition)]])]

theorem text?_onlyFile (path : String) (tree : Datum) :
    (onlyFile path tree path).text? = some (Datum.Json.compact tree) := by
  rw [onlyFile, if_pos rfl]
  exact fromUTF8?_toUTF8 _

theorem load_onlyFile {tree : Datum} (hformat : DocumentFormat.ofPath path = .json) (hplain : tree.isPlain = true)
    (hdepth : tree.depth ≤ Datum.Json.maxDepth) (hread : PolicyDocument.ofDatum? .json tree = some document) :
    PolicyDocument.load path (onlyFile path tree path) = .ok document := by
  have hdocument : PolicyDocument.read? .json (Datum.Json.compact tree) = some document := by
    unfold PolicyDocument.read?
    rw [show DocumentFormat.read? .json _ = _ from Datum.Json.read?_compact hplain hdepth]
    exact hread
  unfold PolicyDocument.load
  simp [text?_onlyFile, hformat, hdocument]

/-! ## Runs -/

theorem run_check [PatternLimit] (hgiven : Arguments.read given = .ok arguments)
    (hcommand : arguments.command = .check path)
    (hsettings : arguments.settings entry environment = .ok settings)
    (hdocument : PolicyDocument.load path (entry path) = .ok document) :
    run entry environment given = .printed (linesText (checkLines document)) := by
  rw [run_eq_ofText hgiven hsettings, hcommand, commandText, hdocument]
  rfl

/-- **`check` reports the unknown functions that loading keeps, and nothing else.** Whenever a document loads,
under settings that load, the text of its file spells a tree, and the run succeeds.  The printed lines are
exactly these: for each service the number of policies that are written for it, and for each of these policies
and each unknown function that a condition of it applies, at any depth but only under functions that take
arguments, the id of the policy with that of the function. -/
theorem run_check_reports [PatternLimit] (path : String) (document : PolicyDocument)
    (config logLevel : Option String) (entry : String → FileEntry) (environment : Environment)
    (settings : Settings) (given : List String)
    (hsettings : Arguments.settings ⟨config, logLevel, .check path⟩ entry environment = .ok settings)
    (hdocument : PolicyDocument.load path (entry path) = .ok document)
    (hgiven : Arguments.read given = .ok ⟨config, logLevel, .check path⟩) :
    ∃ text tree lines, (entry path).text? = some text ∧ (DocumentFormat.ofPath path).read? text = some tree ∧
      run entry environment given = .printed (linesText lines) ∧
      ∀ line, line ∈ lines ↔ ∃ service policies, tree.WritesPolicies service policies ∧
        (line = countLine service policies ∨ ∃ policy ∈ policies, Reports policy line) := by
  obtain ⟨text, tree, htext, htree, hread⟩ := PolicyDocument.exists_tree_of_load hdocument
  exact ⟨text, tree, checkLines document, htext, htree, run_check hgiven rfl hsettings hdocument,
    fun line => mem_checkLines_iff hread⟩

/-- An unknown function in a denial under a conjunction is reported. -/
theorem check_reports_nested_function :
    let policy := writtenPolicy "P" (.apply "and" [.apply "not" [.apply "ip-range" []]])
    let entry := onlyFile "p.json" (.object [("services", .object [("web", .list [policy])])])
    let given := ["check", "--policies", "p.json"]
    ∃ settings document lines,
      Arguments.settings ⟨none, none, .check "p.json"⟩ entry (fun _ => none) = .ok settings ∧
        PolicyDocument.load "p.json" (entry "p.json") = .ok document ∧
        Arguments.read given = .ok ⟨none, none, .check "p.json"⟩ ∧
        run entry (fun _ => none) given = .printed (linesText lines) ∧
        "  P: unrecognized function 'ip-range'" ∈ lines := by
  intro policy entry given
  have hsettings : Arguments.settings ⟨none, none, .check "p.json"⟩ entry (fun _ => none) =
      .ok ⟨⟨.deny⟩, ⟨"info", .plain⟩⟩ := rfl
  have hgiven : Arguments.read given = .ok ⟨none, none, .check "p.json"⟩ := rfl
  have hdocument : PolicyDocument.load "p.json" (entry "p.json") = .ok _ :=
    load_onlyFile rfl rfl (by decide) rfl
  obtain ⟨text, tree, lines, htext, htree, hrun, hlines⟩ :=
    run_check_reports "p.json" _ none none entry (fun _ => none) _ given hsettings hdocument hgiven
  obtain rfl := Option.some.inj ((text?_onlyFile _ _).symm.trans htext)
  obtain rfl := Option.some.inj ((Datum.Json.read?_compact rfl (by decide)).symm.trans htree)
  refine ⟨_, _, lines, hsettings, hdocument, hgiven, hrun, (hlines _).mpr ⟨"web", [policy], ?_, Or.inr ?_⟩⟩
  · exact ⟨_, ⟨_, rfl, List.mem_cons_self⟩, rfl⟩
  · refine ⟨policy, List.mem_cons_self, ?_⟩
    have hread : Policy.ofDatum? .json policy = some _ := rfl
    exact ⟨"P", "ip-range", ⟨_, rfl, List.mem_cons_self⟩,
      (Policy.mem_unrecognizedIds_iff hread).mp (by decide), rfl⟩

/-- An argument of a normalizer or of an unknown function is not reported, nor is a policy set in whose place
another one is written. -/
theorem dropped_functions_are_not_reported :
    let form : Form := .apply "or" [.apply "string-normalize-space" [.apply "ip-range" []],
      .apply "custom" [.apply "geo-fence" []]]
    let former : Form := .apply "old-check" []
    let tree := .object [("services", .object [("web", .list [writtenPolicy "Old" former]),
      ("web", .list [writtenPolicy "P" form])])]
    let lines := ["web: 1 policies", unknownLine "P" "custom"]
    run (onlyFile "p.json" tree) (fun _ => none) ["check", "--policies", "p.json"] = .printed (linesText lines) ∧
      (∀ id ∈ ["ip-range", "geo-fence"], id ∉ knownIds ∧ (∃ outer, (formDatum form).AppliesUnder id outer) ∧
        unknownLine "P" id ∉ lines) ∧
      "old-check" ∉ knownIds ∧ (formDatum former).AppliesUnder "old-check" [] ∧
        unknownLine "Old" "old-check" ∉ lines := by
  intro form former tree lines
  have hdocument : PolicyDocument.load "p.json" (onlyFile "p.json" tree "p.json") = .ok _ :=
    load_onlyFile rfl rfl (by decide) rfl
  have hsettings : Arguments.settings ⟨none, none, .check "p.json"⟩ (onlyFile "p.json" tree) (fun _ => none) =
      .ok ⟨⟨.deny⟩, ⟨"info", .plain⟩⟩ := rfl
  -- what the form applies is applied in its written form
  have hform : ∀ id outer, form.AppliesUnder id outer → (formDatum form).AppliesUnder id outer :=
    fun id outer => (appliesUnder_iff_of_form? (form?_formDatum .tagged form)).mpr
  refine ⟨run_check rfl rfl hsettings hdocument, ?_, by decide, ?_, by decide⟩
  · intro id hid
    simp only [List.mem_cons, List.not_mem_nil, or_false] at hid
    rcases hid with rfl | rfl
    · refine ⟨by decide, ⟨["or", "string-normalize-space"], hform _ _ ?_⟩, by decide⟩
      exact ⟨_, rfl, _, List.mem_cons_self, _, rfl, _, List.mem_cons_self, _, rfl⟩
    · refine ⟨by decide, ⟨["or", "custom"], hform _ _ ?_⟩, by decide⟩
      exact ⟨_, rfl, _, List.mem_cons_of_mem _ List.mem_cons_self, _, rfl, _, List.mem_cons_self, _, rfl⟩
  · exact (appliesUnder_iff_of_form? (form?_formDatum .tagged former)).mpr ⟨[], rfl⟩

end AccessDecision.CommandLine
