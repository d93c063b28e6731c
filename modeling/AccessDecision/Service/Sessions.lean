import AccessDecision.Principal

/-!
# Sessions

A `SessionDirectory` finds the principal behind a subject.  `Sessions` are active sessions in memory, by subject.
-/

namespace AccessDecision

/-- Why a subject was not resolved. -/
inductive SessionError where
  | unknownSession (subject : String)
  | unavailable (reason : String)
  deriving DecidableEq, Repr

/-- The error in words. -/
def SessionError.message : SessionError → String
  | unknownSession subject => s!"no active session for subject '{subject}'"
  | unavailable reason => s!"session directory unavailable: {reason}"

/-- Where a decision point finds principals. -/
structure SessionDirectory where
  lookup : String → Except SessionError Principal

/-- Active sessions: their principals, under the subjects. -/
structure Sessions where
  principals : Keyed SessionPrincipal
  deriving DecidableEq, Inhabited, Repr

namespace Sessions

/-- No session at all. -/
def empty : Sessions := ⟨.empty⟩

/-- The principal of a subject's session. -/
def principal? (sessions : Sessions) (subject : String) : Option SessionPrincipal :=
  sessions.principals.get? subject

/-- Starts a session, in place of the one that the subject has. -/
def insert (sessions : Sessions) (subject : String) (principal : SessionPrincipal) : Sessions :=
  ⟨sessions.principals.set subject principal⟩

/-- Ends a session. -/
def terminate (sessions : Sessions) (subject : String) : Sessions :=
  ⟨sessions.principals.erase subject⟩

/-- Looks up the principal behind a subject. -/
def lookup (sessions : Sessions) (subject : String) : Except SessionError SessionPrincipal :=
  match sessions.principal? subject with
  | some principal => .ok principal
  | none => .error (.unknownSession subject)

/-- The directory that a decision point sees. -/
def toDirectory (sessions : Sessions) : SessionDirectory :=
  ⟨fun subject => (sessions.lookup subject).map SessionPrincipal.toPrincipal⟩

end Sessions

end AccessDecision
