import AccessDecision.Proofs.CommandLine.Attributes
import Mathlib.Data.List.Induction

/-!
# The principal that comes of attribute texts

A text that is no attribute is refused for one reason (`assignment_eq_error_iff`), and the first such text of a
row decides the error.  Without one every text adds its value to the attribute that it names, so each attribute
can be read off the row (`attributeOf`): `ofAssignments_assigns`.
-/

namespace AccessDecision

/-! ## Definitions -/

/-- Why a text is refused as an attribute. -/
inductive IsRefusal (text : String) : AttributeError → Prop where
  | noEqualsSign : '=' ∉ text.toList → IsRefusal text (.noEqualsSign text)
  | blankName {name value : List Char} : text.toList = name ++ '=' :: value → (∀ c ∈ name, Text.isBlank c = true) →
    IsRefusal text (.blankName text)

/-- The reason for which a text is refused, if it is. -/
def refusal? (text : String) : Option AttributeError :=
  match assignment text with
  | .error e => some e
  | .ok _ => none

/-- What precedes the first equals sign of a text, trimmed. -/
def nameOf (text : String) : String := Text.trim (String.ofList (text.toList.takeWhile (· != '=')))

/-- What follows the first equals sign of a text, as it stands there. -/
def valueOf (text : String) : String := String.ofList (text.toList.dropWhile (· != '=')).tail

/-- The attribute that a row of texts gives to an id: the values of the texts that name it, in their order. -/
def attributeOf (texts : List String) (id : String) : Option IdentityAttribute :=
  if id ∈ texts.map nameOf then some ⟨id, (texts.filter (nameOf · == id)).map valueOf⟩ else none

variable {text : String} {texts : List String} {principal : SessionPrincipal} {e : AttributeError}

/-! ## Single texts -/

theorem assignment_of_isAssignment (h : IsAssignment text) :
    assignment text = .ok (nameOf text, valueOf text) := by
  obtain ⟨name, value, htext, hname, c, hc, hblank⟩ := h
  -- the name has no equals sign, so the text is cut at the one behind it
  have hspan := List.span_eq_takeWhile_dropWhile (· != '=') text.toList
  rw [htext, Text.span_of_not_mem hname, ← htext] at hspan
  obtain ⟨htake, hdrop⟩ := Prod.mk.inj hspan
  have hnameOf : nameOf text = Text.trim (String.ofList name) := by rw [nameOf, ← htake]
  have hvalueOf : valueOf text = String.ofList value := by rw [valueOf, ← hdrop, List.tail_cons]
  have hne : Text.trim (String.ofList name) ≠ "" := by
    rw [Ne, Text.trim_eq_empty_iff, String.toList_ofList]
    exact fun hall => by simp [hall c hc] at hblank
  unfold assignment
  rw [Text.splitAt?_of_not_mem hname htext, hnameOf, hvalueOf]
  simp [hne]

/-- **The one reason for which a text is refused.** -/
theorem assignment_eq_error_iff : assignment text = .error e ↔ IsRefusal text e := by
  constructor
  · intro h
    unfold assignment at h
    cases hsplit : Text.splitAt? '=' text with
    | none =>
      rw [hsplit] at h
      cases h
      exact .noEqualsSign (Text.splitAt?_eq_none_iff.mp hsplit)
    | some pair =>
      rw [hsplit] at h
      by_cases hempty : Text.trim pair.1 = ""
      · simp only [hempty] at h
        cases h
        exact .blankName (Text.splitAt?_eq_some_iff.mp hsplit).1 (Text.trim_eq_empty_iff.mp hempty)
      · simp [hempty] at h
  · rintro (hmark | @⟨name, value, htext, hblank⟩)
    · rw [assignment, Text.splitAt?_eq_none_iff.mpr hmark]
    · -- an equals sign is not blank, so it is not part of a blank name
      have hmark : Text.isBlank '=' = false := by decide
      have hname : '=' ∉ name := fun hmem => by simp [hblank _ hmem] at hmark
      have hempty : Text.trim (String.ofList name) = "" := by
        rw [Text.trim_eq_empty_iff, String.toList_ofList]
        exact hblank
      rw [assignment, Text.splitAt?_of_not_mem hname htext]
      simp [hempty]

/-- A text is refused exactly if it is no attribute. -/
theorem exists_isRefusal_iff : (∃ e, IsRefusal text e) ↔ ¬ IsAssignment text := by
  rw [← exists_assignment_iff]
  simp only [← assignment_eq_error_iff]
  cases assignment text <;> simp

theorem refusal?_eq_some_iff : refusal? text = some e ↔ IsRefusal text e := by
  rw [← assignment_eq_error_iff, refusal?]
  cases assignment text <;> simp

theorem refusal?_eq_none_iff : refusal? text = none ↔ IsAssignment text := by
  rw [← exists_assignment_iff, refusal?]
  cases assignment text <;> simp

theorem not_isAssignment_iff : ¬ IsAssignment text ↔ '=' ∉ text.toList ∨
    ∃ name value, text.toList = name ++ '=' :: value ∧ ∀ c ∈ name, Text.isBlank c = true := by
  rw [← exists_isRefusal_iff]
  constructor
  · rintro ⟨_, hmark | @⟨name, value, htext, hblank⟩⟩
    · exact .inl hmark
    · exact .inr ⟨name, value, htext, hblank⟩
  · rintro (hmark | ⟨name, value, htext, hblank⟩)
    · exact ⟨_, .noEqualsSign hmark⟩
    · exact ⟨_, .blankName htext hblank⟩

/-- The error quotes the text. -/
theorem IsRefusal.message_eq (h : IsRefusal text e) :
    ∃ rest, e.message = "invalid attribute '" ++ text ++ rest := by
  cases h with
  | noEqualsSign _ => exact ⟨"', expected NAME=VALUE", rfl⟩
  | blankName _ _ => exact ⟨"', name is empty", rfl⟩

/-! ## Attributes -/

section Attributes

variable {id : String}

theorem attributeOf_concat_of_ne (hne : id ≠ nameOf text) :
    attributeOf (texts ++ [text]) id = attributeOf texts id := by
  simp [attributeOf, hne, Ne.symm hne]

theorem attributeOf_concat_self :
    attributeOf (texts ++ [text]) (nameOf text) =
      let found := (attributeOf texts (nameOf text)).getD ⟨nameOf text, []⟩
      some { found with values := found.values ++ [valueOf text] } := by
  unfold attributeOf
  by_cases h : nameOf text ∈ texts.map nameOf
  · simp [h]
  · have hnone : texts.filter (nameOf · == nameOf text) = [] := by
      refine List.filter_eq_nil_iff.mpr fun earlier hearlier hname => h ?_
      exact beq_iff_eq.mp hname ▸ List.mem_map_of_mem hearlier
    simp [h, hnone]

end Attributes

/-! ## Principals -/

/-- Assigning ends at the first text that is refused. -/
theorem foldlM_assign_eq_error_iff_findSome? :
    texts.foldlM SessionPrincipal.assign principal = .error e ↔ texts.findSome? refusal? = some e := by
  induction texts generalizing principal with
  | nil => simp [pure, Except.pure]
  | cons text texts ih =>
    rw [List.foldlM_cons]
    cases h : assignment text with
    | error reason =>
      simp [SessionPrincipal.assign_of_error h, refusal?_eq_some_iff.mpr (assignment_eq_error_iff.mp h), bind,
        Except.bind]
    | ok pair =>
      have hnone : refusal? text = none := refusal?_eq_none_iff.mpr ((exists_assignment_iff text).mp ⟨pair, h⟩)
      simp [SessionPrincipal.assign_of_ok h, hnone, bind, Except.bind, ih]

/-- **The first text that is no attribute is the one that is refused.** -/
theorem foldlM_assign_eq_error_iff :
    texts.foldlM SessionPrincipal.assign principal = .error e ↔
      ∃ before text after, texts = before ++ text :: after ∧ (∀ t ∈ before, IsAssignment t) ∧
        IsRefusal text e := by
  rw [foldlM_assign_eq_error_iff_findSome?, List.findSome?_eq_some_iff]
  simp only [refusal?_eq_some_iff, refusal?_eq_none_iff, and_comm]

/-- A further text changes the attribute that it names and no other one. -/
theorem SessionPrincipal.attribute?_addValues (h : ∀ id, principal.attribute? id = attributeOf texts id)
    (id : String) :
    (principal.addValues (nameOf text) [valueOf text]).attribute? id = attributeOf (texts ++ [text]) id := by
  by_cases hid : id = nameOf text
  · subst hid
    rw [attributeOf_concat_self, ← h]
    exact Keyed.get?_set_self
  · rw [attributeOf_concat_of_ne hid, ← h]
    exact Keyed.get?_set_ne hid

/-- **The attributes of a principal are those that the texts give.** -/
theorem SessionPrincipal.exists_ofAssignments (subject : String) (h : ∀ text ∈ texts, IsAssignment text) :
    ∃ principal, ofAssignments subject texts = .ok principal ∧ principal.principalName = subject ∧
      ∀ id, principal.attribute? id = attributeOf texts id := by
  induction texts using List.reverseRecOn with
  | nil => exact ⟨.new subject ("cli-" ++ subject), rfl, rfl, fun _ => rfl⟩
  | append_singleton texts text ih =>
    -- from the end: the last text adds its value behind those of the earlier ones
    obtain ⟨htexts, htext⟩ := List.forall_mem_append.mp h
    obtain ⟨principal, hprincipal, hname, hattributes⟩ := ih htexts
    have hassign := @assign_of_ok text principal _
      (assignment_of_isAssignment (List.forall_mem_singleton.mp htext))
    refine ⟨principal.addValues (nameOf text) [valueOf text], ?_, hname, attribute?_addValues hattributes⟩
    unfold ofAssignments at hprincipal ⊢
    rw [List.foldlM_append, hprincipal]
    exact congrArg (· >>= pure) hassign

/-- **Attribute texts land where they belong.** No principal comes of a row of texts exactly if one of them has
no equals sign or nothing but blank characters in front of the first one, and the error names the first such
text.  Otherwise the principal has an attribute under an id if and only if that is the trimmed name of some text;
the attribute bears the id, and its values are what follows the first equals sign of the texts of that name,
unchanged and in the order of the texts. -/
theorem SessionPrincipal.ofAssignments_assigns (subject : String) (texts : List String) :
    ((∃ e, ofAssignments subject texts = .error e) ↔ ∃ text ∈ texts, '=' ∉ text.toList ∨
      ∃ name value, text.toList = name ++ '=' :: value ∧ ∀ c ∈ name, Text.isBlank c = true) ∧
    (∀ e, ofAssignments subject texts = .error e ↔ ∃ before text after, texts = before ++ text :: after ∧
      (∀ t ∈ before, IsAssignment t) ∧ IsRefusal text e) ∧
    (∀ e text, IsRefusal text e → ∃ rest, e.message = "invalid attribute '" ++ text ++ rest) ∧
    ((∀ text ∈ texts, IsAssignment text) → ∃ principal, ofAssignments subject texts = .ok principal ∧
      principal.principalName = subject ∧ ∀ id, principal.attribute? id =
        if id ∈ texts.map nameOf then some ⟨id, (texts.filter (nameOf · == id)).map valueOf⟩ else none) := by
  have hfails : (∃ e, ofAssignments subject texts = .error e) ↔ ∃ text ∈ texts, ¬ IsAssignment text := by
    have hnot : (∃ e, ofAssignments subject texts = .error e) ↔
        ¬ ∃ principal, ofAssignments subject texts = .ok principal := by
      cases ofAssignments subject texts <;> simp
    rw [hnot, exists_ofAssignments_iff]
    simp only [not_forall, exists_prop]
  refine ⟨?_, fun e => foldlM_assign_eq_error_iff, fun e text h => h.message_eq, exists_ofAssignments subject⟩
  rw [hfails]
  simp only [not_isAssignment_iff]

/-- Two texts name one attribute where their names agree after trimming.  Of two texts that are no attributes the
first one is refused, although it is the second one that has no equals sign. -/
theorem SessionPrincipal.ofAssignments_interleaved :
    let texts := ["role=staff", "mail=a=b ", "\u2003role =admin"]
    (∀ text ∈ texts, IsAssignment text) ∧
      (∃ principal, ofAssignments "alice" texts = .ok principal ∧
        principal.attribute? "role" = some ⟨"role", ["staff", "admin"]⟩ ∧
        principal.attribute? "mail" = some ⟨"mail", ["a=b "]⟩ ∧ principal.attribute? "role " = none) ∧
      ofAssignments "alice" ["role=staff", "\u2003=admin", "mail"] = .error (.blankName "\u2003=admin") := by
  intro texts
  have hassignments : ∀ text ∈ texts, IsAssignment text := by
    simp only [← exists_assignment_iff]
    refine List.forall_mem_cons.mpr ⟨⟨("role", "staff"), rfl⟩, ?_⟩
    refine List.forall_mem_cons.mpr ⟨⟨("mail", "a=b "), rfl⟩, ?_⟩
    exact List.forall_mem_singleton.mpr ⟨("role", "admin"), rfl⟩
  obtain ⟨-, -, -, hok⟩ := ofAssignments_assigns "alice" texts
  obtain ⟨principal, hprincipal, -, hattributes⟩ := hok hassignments
  refine ⟨hassignments, ⟨principal, hprincipal, ?_, ?_, ?_⟩, ?_⟩
  · rw [hattributes]
    decide
  · rw [hattributes]
    decide
  · rw [hattributes]
    decide
  · obtain ⟨-, herror, -, -⟩ := ofAssignments_assigns "alice" ["role=staff", "\u2003=admin", "mail"]
    refine (herror _).mpr ⟨["role=staff"], _, _, rfl, ?_, @IsRefusal.blankName _ ['\u2003'] "admin".toList ?_ ?_⟩
    · rw [List.forall_mem_singleton, ← exists_assignment_iff]
      exact ⟨("role", "staff"), rfl⟩
    · decide
    · exact List.forall_mem_singleton.mpr rfl

end AccessDecision
