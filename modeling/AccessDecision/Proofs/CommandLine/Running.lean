import AccessDecision.CommandLine.Run

/-!
# Loading and running

What both commands have in common: a document that loads is read from the tree of its text, and once the settings
are loaded a run comes to what its command prints or to the error of its command.
-/

namespace AccessDecision

variable {path : String} {entry : FileEntry} {document : PolicyDocument}

/-- A document that loads is read from the tree that its text spells. -/
theorem PolicyDocument.exists_tree_of_load (h : PolicyDocument.load path entry = .ok document) :
    ∃ text tree, entry.text? = some text ∧ (DocumentFormat.ofPath path).read? text = some tree ∧
      PolicyDocument.ofDatum? (DocumentFormat.ofPath path).dialect tree = some document := by
  unfold PolicyDocument.load at h
  split at h
  · cases h
  · rename_i text htext
    simp only at h
    split at h
    · rename_i hread
      obtain rfl := Except.ok.inj h
      obtain ⟨tree, htree, hread⟩ := Option.bind_eq_some_iff.mp hread
      exact ⟨text, tree, htext, htree, hread⟩
    · cases h

namespace CommandLine

variable {entry : String → FileEntry} {environment : Environment} {given : List String} {arguments : Arguments}
  {settings : Settings}

/-- What a run comes to whose command comes to a text or to an error. -/
def Outcome.ofText : Except CommandError String → Outcome
  | .ok text => .printed text
  | .error error => .failed error

/-- Under settings that load, a run comes to what its command comes to. -/
theorem run_eq_ofText [PatternLimit] (hgiven : Arguments.read given = .ok arguments)
    (hsettings : arguments.settings entry environment = .ok settings) :
    run entry environment given = .ofText (commandText entry settings arguments.command) := by
  have htext : arguments.text entry environment = commandText entry settings arguments.command := by
    unfold Arguments.text
    rw [hsettings]
    rfl
  unfold run
  rw [hgiven]
  exact congrArg Outcome.ofText htext

end CommandLine

end AccessDecision
