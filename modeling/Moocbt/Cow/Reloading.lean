import Moocbt.Cow.Opening

/-! Which failures of a reload come before the header on file is made dirty. -/

namespace Moocbt.Cow

open Program

variable {state : CowState} {granted : Prop} {count : Nat}

/-- The next so many calls succeed. -/
def Granted (count : Nat) (outcomes : List Outcome) : Prop :=
  ∀ outcome ∈ outcomes.take count, outcome = .succeeds

instance (count : Nat) (outcomes : List Outcome) : Decidable (Granted count outcomes) :=
  inferInstanceAs (Decidable (∀ outcome ∈ _, _))

theorem Granted.nil (count : Nat) : Granted count [] := by simp [Granted]

theorem granted_cons {outcome : Outcome} {rest : List Outcome} :
    Granted (count + 1) (outcome :: rest) ↔ outcome = .succeeds ∧ Granted count rest := by
  simp [Granted]

/-- The next call, with what it means for all of them. -/
theorem wp_nextOutcome_granted {done : Outcome → CowState → Prop}
    {stopped : Stop → CowState → Prop} (left : granted ↔ Granted (count + 1) state.outcomes)
    (succeeds : ∀ rest, (granted ↔ Granted count rest) →
      done .succeeds { state with outcomes := rest })
    (fails : ∀ outcome rest, outcome ≠ .succeeds → ¬ granted →
      done outcome { state with outcomes := rest }) :
    wp nextOutcome done stopped state := by
  unfold wp nextOutcome
  cases queued : state.outcomes with
  | nil =>
      rw [queued] at left
      have same : (granted ↔ Granted count []) := left.trans ⟨fun _ => .nil _, fun _ => .nil _⟩
      have kept := succeeds [] same
      rw [← queued] at kept
      exact kept
  | cons outcome rest =>
      rw [queued, granted_cons] at left
      by_cases fine : outcome = .succeeds
      · subst fine
        exact succeeds rest (left.trans ⟨And.right, fun more => ⟨rfl, more⟩⟩)
      · exact fails outcome rest fine fun all => fine (left.mp all).1

/-- A file operation through an open handle. -/
theorem wp_fileIo_granted {α : Type} {transfer : CowFile → CowM α} {file : CowFile}
    {done : α → CowState → Prop} {stopped : Stop → CowState → Prop}
    (left : granted ↔ Granted (count + 1) state.outcomes) (opened : state.cm.dfilp = .opened)
    (stored : state.file = some file)
    (succeeds : ∀ rest, (granted ↔ Granted count rest) →
      wp (transfer file) done stopped { state with outcomes := rest })
    (fails : ∀ reason rest, ¬ granted → stopped reason { state with outcomes := rest }) :
    wp (fileIo (fun _ => pure ()) transfer) done stopped state := by
  unfold fileIo
  rw [wp_bind, wp_read, opened]
  simp only
  rw [wp_bind]
  apply wp_nextOutcome_granted left
  · intro rest more
    have served := succeeds rest more
    rw [stored] at served
    simp only [stored]
    exact served
  · intro outcome rest bad never
    cases outcome with
    | succeeds => exact absurd rfl bad
    | fails error written => exact fails _ rest never
    | crashes => exact fails _ rest never

/-- No header on file is clean. -/
def Unclean (file : Option CowFile) : Prop :=
  ∀ found, file = some found → hasFlag found.header.flags cowClean = false

theorem Unclean.none : Unclean none := nofun

/-- A reload went as far as the header, or left the file alone. -/
def Reloading (granted : Prop) (file : CowFile) (after : CowState) : Prop :=
  granted ∧ Unclean after.file ∨ ¬ granted ∧ after.file = some file

variable {file : CowFile}

theorem closeFile_reloading (before : Reloading granted file state) :
    wp closeAndDestroyMoocbtCowFile (fun _ => Reloading granted file)
      (fun _ => Reloading granted file) state := by
  refine wp_mono closeFile_spec ?_ ?_
  · intro _ after same
    subst same
    exact before
  · intro _ after stopped
    obtain ⟨_, _, same⟩ := stopped
    subst same
    exact before

theorem openFile_granted (left : granted ↔ Granted (count + 2) state.outcomes)
    (stored : state.file = some file) :
    wp (openMoocbtCowFile false)
      (fun _ after => (granted ↔ Granted count after.outcomes) ∧ after.file = some file ∧
        after.cm = { state.cm with dfilp := .opened })
      (fun _ after => ¬ granted ∧ after.file = some file) state := by
  unfold openMoocbtCowFile
  rw [wp_bind]
  apply wp_nextOutcome_granted left
  · intro rest more
    simp only [Bool.false_eq_true, if_false]
    rw [wp_bind, wp_read]
    simp only [stored, Option.isSome_some, if_true]
    rw [wp_bind]
    apply wp_nextOutcome_granted more
    · intro rest more
      exact ⟨more, rfl, rfl⟩
    · intro outcome rest bad never
      cases outcome with
      | succeeds => exact absurd rfl bad
      | fails error written => exact ⟨never, rfl⟩
      | crashes => exact ⟨never, rfl⟩
  · intro outcome rest bad never
    cases outcome with
    | succeeds => exact absurd rfl bad
    | fails error written => exact ⟨never, stored⟩
    | crashes => exact ⟨never, stored⟩

theorem cowOpenHeader_granted {indexOnly : Bool} (resetVmalloc : Bool)
    (left : granted ↔ Granted 2 state.outcomes) (opened : state.cm.dfilp = .opened)
    (stored : state.file = some file) (large : cowHeaderBytes ≤ file.size)
    (good : Acceptable file.header indexOnly) :
    wp (cowOpenHeader indexOnly resetVmalloc)
      (fun _ after => granted ∧ Unclean after.file ∧ after.cm.dfilp = .opened)
      (fun _ after => ¬ granted ∧ after.file = some file) state := by
  unfold cowOpenHeader
  rw [wp_bind]
  unfold fileReadHeader
  apply wp_fileIo_granted left opened stored
  · intro rest more
    rw [wp_ite, if_pos large, wp_pure]
    have accepted : ¬ ((hasFlag file.header.flags cowIndexOnly && !indexOnly ||
        !hasFlag file.header.flags cowIndexOnly && indexOnly) = true) := by
      rw [good.mode]
      cases indexOnly <;> simp
    rw [if_neg (not_not.mpr good.magic), good.clean]
    simp only [Bool.not_true, Bool.false_eq_true, if_false]
    rw [if_neg accepted, wp_bind, wp_updateCm]
    unfold cowWriteHeader fileWriteHeader
    rw [wp_bind, wp_updateCm, wp_bind, wp_getCm]
    refine wp_fileIo_granted more opened stored ?_ ?_
    · intro rest all
      refine ⟨all.mpr fun _ member => absurd member List.not_mem_nil, ?_, opened⟩
      intro found same
      simp only [stored, Option.map_some, Option.some.injEq] at same
      subst same
      exact hasFlag_clearFlag _ (by decide)
    · exact fun _ rest never => ⟨never, stored⟩
  · exact fun _ rest never => ⟨never, stored⟩

/-- Only a failure of the first five calls leaves the file as it was: the manager, the file
with its wrapper, and the header read and written. -/
theorem cowReload_granted (elements sectSize cacheSize : Nat) {indexOnly : Bool}
    (stored : state.file = some file) (large : cowHeaderBytes ≤ file.size)
    (good : Acceptable file.header indexOnly) :
    wp (cowReload elements sectSize cacheSize indexOnly)
      (fun _ after => Granted 5 state.outcomes ∧ Unclean after.file)
      (fun _ => Reloading (Granted 5 state.outcomes) file) state := by
  have close : ∀ {middle : CowState}, Reloading (Granted 5 state.outcomes) file middle →
      wp closeAndDestroyMoocbtCowFile (fun _ => Reloading (Granted 5 state.outcomes) file)
        (fun _ => Reloading (Granted 5 state.outcomes) file) middle := closeFile_reloading
  unfold cowReload cowAllocManager allocate
  rw [wp_bind, wp_bind, wp_onErrno, wp_bind]
  apply wp_nextOutcome_granted (Iff.rfl : Granted 5 state.outcomes ↔ Granted (4 + 1) state.outcomes)
  · intro rest more
    rw [wp_pure, wp_updateCm, wp_onErrno, wp_bind]
    have opens := @openFile_granted ⟨CowManager.zero, state.file, rest⟩ _ 2 file more stored
    apply wp_mono opens
    · intro _ middle ready
      obtain ⟨more, found, manager⟩ := ready
      rw [wp_bind, wp_updateCm, wp_bind]
      have opened : middle.cm.dfilp = .opened := by rw [manager]
      have header := @cowOpenHeader_granted
        ⟨middle.cm.layOut elements sectSize cacheSize, middle.file, middle.outcomes⟩ _ file
        indexOnly true more opened found large good
      apply wp_mono header
      · intro _ after header
        obtain ⟨all, unclean, _⟩ := header
        refine wp_mono (cowAllocSects_spec true) ?_ ?_
        · intro _ last sects
          obtain ⟨flags, rest, _, _, same⟩ := sects
          subst same
          exact ⟨all, unclean⟩
        · intro reason last failed
          obtain ⟨_, _, same, _⟩ := failed
          refine onErrno_keeps close (.inl ⟨all, ?_⟩)
          rw [same]
          exact unclean
      · exact fun _ _ failed => onErrno_keeps close (.inr failed)
    · exact fun _ _ failed => onErrno_keeps close (.inr failed)
  · intro outcome rest bad never
    cases outcome with
    | succeeds => exact absurd rfl bad
    | fails error written => exact .inr ⟨never, stored⟩
    | crashes => exact .inr ⟨never, stored⟩

end Moocbt.Cow
