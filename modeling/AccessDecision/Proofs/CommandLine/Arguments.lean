import AccessDecision.CommandLine.Arguments
import AccessDecision.Proofs.Text.Splitting

/-!
# Every request can be given as arguments

Options written as `--name=value` are read back with their values, whatever the values are (`options_spelled`).  So
whatever is asked of `decide` can be asked by arguments (`Arguments.read_spelled`), as long as no path is empty.
-/

namespace AccessDecision.CommandLine

/-! ## Definitions -/

/-- An option with its value, as one argument. -/
def spelled (entry : Flag × String) : String :=
  String.ofList ('-' :: '-' :: (entry.1.long.toList ++ '=' :: entry.2.toList))

/-- Options that may be given together: no path is empty, and only attributes are repeated. -/
structure Given.IsValid (given : Given) : Prop where
  path : ∀ entry ∈ given, entry.1.isPath = true → entry.2 ≠ ""
  once : given.Pairwise fun earlier later => later.1 ≠ .attr → earlier.1 ≠ later.1

/-- The options of `decide` that say this. -/
def DecideArguments.entries (args : DecideArguments) : Given :=
  [(.policies, args.policies), (.service, args.service), (.resource, args.resource)]
    ++ (args.action.map (.action, ·)).toList ++ args.attributes.map (.attr, ·) ++ [(.subject, args.subject)]

/-- The options of the program that say this. -/
def programEntries (config logLevel : Option String) : Given :=
  (config.map (.config, ·)).toList ++ (logLevel.map (.logLevel, ·)).toList

/-- The arguments that ask `decide` for this. -/
def DecideArguments.spelled (config logLevel : Option String) (args : DecideArguments) : List String :=
  (programEntries config logLevel).map CommandLine.spelled ++ "decide" :: args.entries.map CommandLine.spelled

/-! ## Single arguments -/

theorem Flag.long_injective {flag flag' : Flag} (h : flag.long = flag'.long) : flag = flag' := by
  cases flag <;> cases flag' <;> first | rfl | (exact absurd h (by decide))

theorem Flag.find?_long {flags : List Flag} {flag : Flag} (h : flag ∈ flags) :
    flags.find? (·.long.toList == flag.long.toList) = some flag := by
  cases hfound : flags.find? (·.long.toList == flag.long.toList) with
  | none => exact absurd (List.find?_eq_none.mp hfound flag h) (by simp)
  | some found =>
    have hlong := List.find?_some hfound
    rw [beq_iff_eq, String.toList_inj] at hlong
    rw [Flag.long_injective hlong]

/-- What is written in front of the first equals sign names the option. -/
theorem Argument.of_spelled {flags : List Flag} {flag : Flag} (h : flag ∈ flags) (value : String) :
    Argument.of flags (spelled (flag, value)) = .option (some flag) (some value) := by
  have hname : '=' ∉ flag.long.toList := by cases flag <;> decide
  have hne : flag.long.toList ≠ [] := by cases flag <;> decide
  -- the name of no flag has an equals sign, so the first one ends the name
  have hspan : (flag.long.toList ++ '=' :: value.toList).span (· != '=') =
      (flag.long.toList, '=' :: value.toList) :=
    Text.span_of_not_mem hname
  obtain ⟨c, cs, hlong⟩ := List.exists_cons_of_ne_nil hne
  have hfind := Flag.find?_long h
  unfold Argument.of spelled
  rw [String.toList_ofList]
  rw [hlong] at hspan hfind ⊢
  simp only [List.cons_append] at hspan ⊢
  rw [hspan]
  simp only [hfind, String.ofList_toList]

/-! ## Rows of options -/

section Rows

variable {flags : List Flag} {given entries : Given} {entry : Flag × String} {rest : List String}

theorem Given.add_of_isValid (h : (given ++ [entry]).IsValid) :
    given.add entry.1 entry.2 = .ok (given ++ [entry]) := by
  have hpath : ¬ (entry.1.isPath && entry.2.isEmpty) = true := by
    rw [Bool.and_eq_true, String.isEmpty_iff]
    exact fun hempty => h.path entry (by simp) hempty.1 hempty.2
  -- only attributes may be given again
  have hfresh : ¬ (entry.1 != .attr && given.any (·.1 == entry.1)) = true := by
    rw [Bool.and_eq_true, bne_iff_ne, List.any_eq_true]
    rintro ⟨hattr, earlier, hearlier, heq⟩
    exact (List.pairwise_append.mp h.once).2.2 earlier hearlier entry (by simp) hattr (beq_iff_eq.mp heq)
  unfold Given.add
  rw [if_neg hpath, if_neg hfresh]

theorem options_cons_spelled (hflag : entry.1 ∈ flags) (hhelp : entry.1 ≠ .help) (hversion : entry.1 ≠ .version)
    (hvalid : (given ++ [entry]).IsValid) :
    options flags given (spelled entry :: rest) = options flags (given ++ [entry]) rest := by
  have hadd := Given.add_of_isValid hvalid
  obtain ⟨flag, value⟩ := entry
  rw [options, Argument.of_spelled hflag]
  cases flag with
  | help => exact absurd rfl hhelp
  | version => exact absurd rfl hversion
  | _ =>
    simp only [hadd]
    rfl

/-- **Options are read back as they are spelled.** -/
theorem options_spelled (hflags : ∀ entry ∈ entries, entry.1 ∈ flags ∧ entry.1 ≠ .help ∧ entry.1 ≠ .version)
    (hvalid : (given ++ entries).IsValid) :
    options flags given (entries.map spelled ++ rest) = options flags (given ++ entries) rest := by
  induction entries generalizing given with
  | nil => rw [List.map_nil, List.nil_append, List.append_nil]
  | cons entry entries ih =>
    obtain ⟨⟨hflag, hhelp, hversion⟩, hentries⟩ := List.forall_mem_cons.mp hflags
    rw [List.append_cons] at hvalid
    have hentry : (given ++ [entry]).IsValid :=
      ⟨fun e he => hvalid.path e (List.mem_append_left _ he), (List.pairwise_append.mp hvalid.once).1⟩
    rw [List.map_cons, List.cons_append, options_cons_spelled hflag hhelp hversion hentry, ih hentries hvalid,
      ← List.append_cons]

end Rows

/-! ## Requests -/

theorem DecideArguments.isValid_entries {args : DecideArguments} (h : args.policies ≠ "") :
    args.entries.IsValid := by
  obtain ⟨policies, service, resource, action, attributes, subject⟩ := args
  constructor
  · rintro ⟨flag, value⟩ hentry hpath
    cases flag with
    | policies =>
      obtain rfl : value = policies := by simpa [DecideArguments.entries] using hentry
      exact h
    | config => simp [DecideArguments.entries] at hentry
    | _ => cases hpath
  · have hattributes : attributes.Pairwise fun _ _ => True := List.pairwise_of_forall fun _ _ => trivial
    cases action <;> simp [DecideArguments.entries, List.pairwise_append, List.pairwise_map, hattributes] <;> grind

theorem lookup_attributes {flag : Flag} (h : flag ≠ .attr) (attributes : List String) (rest : Given) :
    (attributes.map (Flag.attr, ·) ++ rest).lookup flag = rest.lookup flag := by
  have hattr : (flag == Flag.attr) = false := beq_eq_false_iff_ne.mpr h
  induction attributes with
  | nil => rfl
  | cons text attributes ih => rw [List.map_cons, List.cons_append, List.lookup_cons, hattr, ih]

theorem DecideArguments.ofGiven_entries (args : DecideArguments) :
    DecideArguments.ofGiven args.entries = .ok args := by
  obtain ⟨policies, service, resource, action, attributes, subject⟩ := args
  have hattributes : Given.values
      (DecideArguments.entries ⟨policies, service, resource, action, attributes, subject⟩) .attr = attributes := by
    cases action <;> simp [DecideArguments.entries, Given.values, List.filter_map, Function.comp_def]
  -- without an action its place is left out, and the look-up passes on to the subject
  have haction : Given.value?
      (DecideArguments.entries ⟨policies, service, resource, action, attributes, subject⟩) .action = action := by
    cases action with
    | none => exact lookup_attributes (by decide) attributes [(.subject, subject)]
    | some action => rfl
  have hsubject : Given.value?
      (DecideArguments.entries ⟨policies, service, resource, action, attributes, subject⟩) .subject =
        some subject := by
    cases action <;> exact lookup_attributes (by decide) attributes [(.subject, subject)]
  unfold DecideArguments.ofGiven
  rw [hattributes, haction, hsubject]
  rfl

theorem Arguments.of_entries (config logLevel : Option String) (args : DecideArguments) (command : Command) :
    Arguments.of (programEntries config logLevel) args.entries command = ⟨config, logLevel, command⟩ := by
  -- `decide` takes neither of the options of the program, so those in front of it stand
  have hnone : ∀ flag, flag ∉ args.entries.map (·.1) → args.entries.value? flag = none := by
    intro flag hflag
    refine List.lookup_eq_none_iff.mpr fun entry hentry => ?_
    exact bne_iff_ne.mpr (ne_of_mem_of_not_mem (List.mem_map_of_mem hentry) hflag).symm
  unfold Arguments.of
  rw [hnone .config (by simp [DecideArguments.entries]), hnone .logLevel (by simp [DecideArguments.entries])]
  cases config <;> cases logLevel <;> rfl

theorem onlyOptions_entries {args : DecideArguments} (h : args.policies ≠ "") :
    onlyOptions Flag.ofDecide (args.entries.map spelled) = .ok args.entries := by
  have hflags : ∀ entry ∈ args.entries, entry.1 ∈ Flag.ofDecide ∧ entry.1 ≠ .help ∧ entry.1 ≠ .version := by
    rintro ⟨flag, value⟩ hentry
    show flag ∈ Flag.ofDecide ∧ flag ≠ .help ∧ flag ≠ .version
    cases flag <;> simp [DecideArguments.entries] at hentry <;> decide
  have hoptions : options Flag.ofDecide [] (args.entries.map spelled ++ []) =
      options Flag.ofDecide args.entries [] :=
    options_spelled hflags (DecideArguments.isValid_entries h)
  unfold onlyOptions
  rw [← List.append_nil (args.entries.map spelled), hoptions]
  rfl

/-- **Whatever can be asked of `decide` can be spelled**, as long as no path is empty. -/
theorem Arguments.read_spelled {config logLevel : Option String} {args : DecideArguments}
    (hconfig : config ≠ some "") (hpolicies : args.policies ≠ "") :
    Arguments.read (args.spelled config logLevel) = .ok ⟨config, logLevel, .decide args⟩ := by
  have hflags : ∀ entry ∈ programEntries config logLevel,
      entry.1 ∈ Flag.ofProgram ∧ entry.1 ≠ .help ∧ entry.1 ≠ .version := by
    cases config <;> cases logLevel <;> simp [programEntries] <;> decide
  have hvalid : (programEntries config logLevel).IsValid := by
    constructor
    · cases config <;> cases logLevel <;> simp_all [programEntries, Flag.isPath]
    · cases config <;> cases logLevel <;> simp [programEntries]
  have hoptions : options Flag.ofProgram [] (args.spelled config logLevel) =
      options Flag.ofProgram (programEntries config logLevel) ("decide" :: args.entries.map spelled) :=
    options_spelled hflags hvalid
  -- the name of the command is no option, so the options of the program end in front of it
  have hother : options Flag.ofProgram (programEntries config logLevel) ("decide" :: args.entries.map spelled) =
      .ok (programEntries config logLevel, "decide" :: args.entries.map spelled) := by
    rw [options]
    rfl
  unfold Arguments.read
  rw [hoptions, hother]
  simp only [bind, Except.bind, onlyOptions_entries hpolicies, DecideArguments.ofGiven_entries,
    Arguments.of_entries]
  rfl

end AccessDecision.CommandLine
