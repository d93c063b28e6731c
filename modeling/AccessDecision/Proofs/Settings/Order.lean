import AccessDecision.Settings.Source

/-!
# The order of sources

Sources are taken by ascending precedence, those of one precedence as they are listed.  There is one such order
(`inPrecedenceOrder_iff`).  So it depends on the sources of each precedence only, and not on how sources of
different precedences are listed (`inOrder_congr`), and a further source takes one place in it
(`inOrder_insert`).
-/

namespace AccessDecision

/-- The sources of a precedence, in the order in which they are listed. -/
def sourcesOf (precedence : Precedence) (sources : List Source) : List Source :=
  sources.filter (·.precedence == precedence)

/-- An order of sources by ascending precedence, in which those of one precedence stand as they are listed. -/
structure InPrecedenceOrder (sources order : List Source) : Prop where
  ascending : order.Pairwise fun source later => source.precedence.rank ≤ later.precedence.rank
  ties : ∀ precedence, sourcesOf precedence order = sourcesOf precedence sources

variable {source : Source} {sources order rest : List Source} {precedence : Precedence}

theorem sourcesOf_cons_of_eq (h : source.precedence = precedence) :
    sourcesOf precedence (source :: sources) = source :: sourcesOf precedence sources :=
  List.filter_cons_of_pos (by simp [h])

theorem sourcesOf_cons_of_ne (h : source.precedence ≠ precedence) :
    sourcesOf precedence (source :: sources) = sourcesOf precedence sources :=
  List.filter_cons_of_neg (by simp [h])

theorem sourcesOf_append : sourcesOf precedence (sources ++ rest) =
    sourcesOf precedence sources ++ sourcesOf precedence rest := List.filter_append _ _

theorem inOrder_eq (sources : List Source) : inOrder sources =
    sourcesOf .defaults sources ++ (sourcesOf .configFile sources ++ sourcesOf .environment sources) := by
  simp [inOrder, Precedence.ascending, sourcesOf]

/-- A further source stands at one place of the order and leaves the others where they are. -/
theorem inOrder_insert (before after : List Source) (source : Source) :
    ∃ below above, inOrder (before ++ source :: after) = below ++ source :: above ∧
      inOrder (before ++ after) = below ++ above := by
  simp only [inOrder_eq, sourcesOf_append]
  -- the source joins the others of its precedence, and the other two rows stay
  cases h : source.precedence with
  | defaults =>
    rw [sourcesOf_cons_of_eq h, sourcesOf_cons_of_ne (by simp [h]), sourcesOf_cons_of_ne (by simp [h])]
    exact ⟨sourcesOf .defaults before, _, List.append_assoc .., List.append_assoc ..⟩
  | configFile =>
    rw [sourcesOf_cons_of_ne (by simp [h]), sourcesOf_cons_of_eq h, sourcesOf_cons_of_ne (by simp [h])]
    refine ⟨sourcesOf .defaults before ++ sourcesOf .defaults after ++ sourcesOf .configFile before,
      sourcesOf .configFile after ++ (sourcesOf .environment before ++ sourcesOf .environment after), ?_, ?_⟩
    · simp only [List.append_assoc, List.cons_append]
    · simp only [List.append_assoc]
  | environment =>
    rw [sourcesOf_cons_of_ne (by simp [h]), sourcesOf_cons_of_ne (by simp [h]), sourcesOf_cons_of_eq h]
    refine ⟨sourcesOf .defaults before ++ sourcesOf .defaults after ++
      (sourcesOf .configFile before ++ sourcesOf .configFile after) ++ sourcesOf .environment before,
      sourcesOf .environment after, ?_, ?_⟩
    · simp only [List.append_assoc]
    · simp only [List.append_assoc]

theorem inOrder_perm (sources : List Source) : (inOrder sources).Perm sources := by
  induction sources with
  | nil => exact .nil
  | cons source sources ih =>
    obtain ⟨below, above, hwith, hwithout⟩ := inOrder_insert [] sources source
    rw [List.nil_append] at hwith hwithout
    rw [hwithout] at ih
    rw [hwith]
    exact List.perm_middle.trans (ih.cons source)

/-- In ascending order no source of a lower precedence comes later. -/
theorem sourcesOf_eq_nil (h : ∀ later ∈ rest, source.precedence.rank ≤ later.precedence.rank)
    (hlt : precedence.rank < source.precedence.rank) : sourcesOf precedence rest = [] := by
  refine List.filter_eq_nil_iff.mpr fun later hlater heq => ?_
  have hle := h later hlater
  rw [beq_iff_eq.mp heq] at hle
  omega

/-- Sources in ascending order are those of each precedence, one after another. -/
theorem inOrder_of_ascending
    (h : order.Pairwise fun source later => source.precedence.rank ≤ later.precedence.rank) :
    inOrder order = order := by
  rw [inOrder_eq]
  induction order with
  | nil => rfl
  | cons source rest ih =>
    obtain ⟨hsource, hrest⟩ := List.pairwise_cons.mp h
    cases hprecedence : source.precedence with
    | defaults =>
      rw [sourcesOf_cons_of_eq hprecedence, sourcesOf_cons_of_ne (by simp [hprecedence]),
        sourcesOf_cons_of_ne (by simp [hprecedence])]
      exact congrArg (source :: ·) (ih hrest)
    | configFile =>
      -- nothing that ranks below this source comes after it
      have hdefaults : sourcesOf .defaults rest = [] := sourcesOf_eq_nil hsource (by rw [hprecedence]; decide)
      have ih := ih hrest
      rw [hdefaults, List.nil_append] at ih
      rw [sourcesOf_cons_of_ne (by simp [hprecedence]), sourcesOf_cons_of_eq hprecedence,
        sourcesOf_cons_of_ne (by simp [hprecedence]), hdefaults, List.nil_append, List.cons_append, ih]
    | environment =>
      have hdefaults : sourcesOf .defaults rest = [] := sourcesOf_eq_nil hsource (by rw [hprecedence]; decide)
      have hfile : sourcesOf .configFile rest = [] := sourcesOf_eq_nil hsource (by rw [hprecedence]; decide)
      have ih := ih hrest
      rw [hdefaults, hfile, List.nil_append, List.nil_append] at ih
      rw [sourcesOf_cons_of_ne (by simp [hprecedence]), sourcesOf_cons_of_ne (by simp [hprecedence]),
        sourcesOf_cons_of_eq hprecedence, hdefaults, hfile, List.nil_append, List.nil_append, ih]

theorem inOrder_congr (h : ∀ precedence, sourcesOf precedence order = sourcesOf precedence sources) :
    inOrder order = inOrder sources := by
  rw [inOrder_eq, inOrder_eq, h, h, h]

theorem sourcesOf_sourcesOf_of_ne {precedence' : Precedence} (h : precedence' ≠ precedence) :
    sourcesOf precedence (sourcesOf precedence' sources) = [] := by
  refine List.filter_eq_nil_iff.mpr fun source hsource heq => h ?_
  rw [← beq_iff_eq.mp heq]
  exact (beq_iff_eq.mp (List.mem_filter.mp hsource).2).symm

theorem sourcesOf_inOrder (precedence : Precedence) (sources : List Source) :
    sourcesOf precedence (inOrder sources) = sourcesOf precedence sources := by
  have hsame : sourcesOf precedence (sourcesOf precedence sources) = sourcesOf precedence sources := by
    unfold sourcesOf
    rw [List.filter_filter]
    simp
  rw [inOrder_eq, sourcesOf_append, sourcesOf_append]
  cases precedence with
  | defaults => rw [hsame, sourcesOf_sourcesOf_of_ne (by simp), sourcesOf_sourcesOf_of_ne (by simp)]; simp
  | configFile => rw [hsame, sourcesOf_sourcesOf_of_ne (by simp), sourcesOf_sourcesOf_of_ne (by simp)]; simp
  | environment => rw [hsame, sourcesOf_sourcesOf_of_ne (by simp), sourcesOf_sourcesOf_of_ne (by simp)]; simp

theorem ascending_inOrder (sources : List Source) :
    (inOrder sources).Pairwise fun source later => source.precedence.rank ≤ later.precedence.rank := by
  have hrank : ∀ precedence, ∀ source ∈ sourcesOf precedence sources, source.precedence.rank = precedence.rank :=
    fun precedence source hsource => by rw [beq_iff_eq.mp (List.mem_filter.mp hsource).2]
  -- within a row all sources rank alike
  have hwithin : ∀ precedence, (sourcesOf precedence sources).Pairwise fun source later =>
      source.precedence.rank ≤ later.precedence.rank := by
    intro precedence
    refine List.pairwise_of_forall_mem_list fun source hsource later hlater => ?_
    exact Nat.le_of_eq ((hrank precedence source hsource).trans (hrank precedence later hlater).symm)
  rw [inOrder_eq, List.pairwise_append, List.pairwise_append]
  refine ⟨hwithin _, ⟨hwithin _, hwithin _, fun source hsource later hlater => ?_⟩,
    fun source hsource later hlater => ?_⟩
  · rw [hrank _ source hsource, hrank _ later hlater]
    decide
  · rw [hrank _ source hsource]
    rcases List.mem_append.mp hlater with hlater | hlater
    · rw [hrank _ later hlater]
      decide
    · rw [hrank _ later hlater]
      decide

/-- **There is one order by precedence**, and sources are taken in it. -/
theorem inPrecedenceOrder_iff : InPrecedenceOrder sources order ↔ order = inOrder sources := by
  constructor
  · intro h
    rw [← inOrder_of_ascending h.ascending, inOrder_congr h.ties]
  · rintro rfl
    exact ⟨ascending_inOrder sources, fun precedence => sourcesOf_inOrder precedence sources⟩

end AccessDecision
