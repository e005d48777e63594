import Moocbt.Cow.Reloading

/-! What becomes of a new COW file when its creation, or what comes after it, fails. -/

namespace Moocbt.Cow

open Program

variable {state : CowState}

/-- The next call fails. -/
def Denied : List Outcome → Bool
  | .fails _ _ :: _ => true
  | _ => false

theorem wp_nextOutcome_iff {done : Outcome → CowState → Prop} {stopped : Stop → CowState → Prop} :
    wp nextOutcome done stopped state ↔
      match state.outcomes with
      | [] => done .succeeds state
      | outcome :: rest => done outcome { state with outcomes := rest } := by
  unfold wp nextOutcome
  cases state.outcomes <;> rfl

/-- The error path of a manager that has its file open. -/
theorem unlinkAndClose_spec (opened : state.cm.dfilp = .opened) :
    wp (do
        fileUnlink
        closeAndDestroyMoocbtCowFile)
      (fun _ after => after.file = if Denied state.outcomes then state.file else none)
      (fun reason _ => ∀ error, reason ≠ .errno error) state := by
  have closes : ∀ {last : Option CowFile} {rest : List Outcome},
      last = (if Denied state.outcomes then state.file else none) →
      wp closeAndDestroyMoocbtCowFile
        (fun _ after => after.file = if Denied state.outcomes then state.file else none)
        (fun reason _ => ∀ error, reason ≠ .errno error) ⟨state.cm, last, rest⟩ := by
    intro last rest same
    apply wp_mono closeFile_spec
    · intro _ after shut
      rw [shut]
      exact same
    · intro reason after stopped
      exact absurd (opened.symm.trans stopped.2.1) (by simp)
  unfold fileUnlink
  rw [wp_bind, wp_bind, wp_getCm, opened]
  dsimp only
  rw [wp_bind, wp_nextOutcome_iff]
  cases queued : state.outcomes with
  | nil =>
      rw [queued] at closes
      exact closes rfl
  | cons outcome rest =>
      rw [queued] at closes
      cases outcome with
      | crashes =>
          intro error
          simp
      | fails error written => exact closes rfl
      | succeeds => exact closes rfl

/-- The file of an open manager is unlinked when the manager is freed. -/
theorem cowFreeMembers_unlinks (opened : state.cm.dfilp = .opened) :
    wp cowFreeMembers
      (fun _ after => after.file = if Denied state.outcomes then state.file else none)
      (fun reason _ => ∀ error, reason ≠ .errno error) state := by
  unfold cowFreeMembers
  rw [wp_bind, wp_updateCm, wp_bind, wp_getCm, wp_when, if_pos (by simp [opened])]
  exact @unlinkAndClose_spec ⟨{ state.cm with sects := none }, state.file, state.outcomes⟩ opened

/-- The manager has a new file open. -/
structure Created (state : CowState) : Prop where
  opened : state.cm.dfilp = .opened
  stored : state.file.isSome = true

/-- `cow_init` up to its error path. -/
def cowCreate (elements sectSize cacheSize fileMax : Nat) (uuid : BitVec 128) (seqid : Nat) :
    CowM Unit := do
  cowAllocManager
  openMoocbtCowFile true
  updateCm fun cm =>
    let cm := cm.layOut elements sectSize cacheSize
    { cm with
      version := cowVersionChangedBlocks
      nrChangedBlocks := 0
      flags := 0#32
      fileSize := fileMax
      seqid
      currPos := cm.dataOffset / cowBlockSize
      uuid }
  cowAllocSects false
  fileAllocate fileMax
  cowWriteHeader false

namespace Created

theorem nextOutcome : Maintains Created nextOutcome := by
  intro state created
  rw [wp_nextOutcome_iff]
  cases state.outcomes with
  | nil => exact created
  | cons outcome rest => exact ⟨created.opened, created.stored⟩

theorem getCm : Maintains Created getCm := fun _ => id

theorem updateCm {change : CowManager → CowManager}
    (keeps : ∀ cm, (change cm).dfilp = cm.dfilp) : Maintains Created (updateCm change) :=
  .update fun state created => ⟨(keeps state.cm).trans created.opened, created.stored⟩

theorem updateFile (change : CowFile → CowFile) : Maintains Created (updateFile change) := by
  apply Maintains.update
  intro state created
  exact ⟨created.opened, by simpa using created.stored⟩

theorem allocate : Maintains Created allocate := by
  apply Maintains.bind nextOutcome
  intro outcome
  cases outcome with
  | succeeds => exact .pure ()
  | fails error written => exact .stop _
  | crashes => exact .stop _

theorem fileIo {α : Type} {failed : Nat → CowM Unit} {transfer : CowFile → CowM α}
    (fails : ∀ written, Maintains Created (failed written))
    (transfers : ∀ file, Maintains Created (transfer file)) :
    Maintains Created (fileIo failed transfer) := by
  apply Maintains.bind .read
  intro state
  cases state.cm.dfilp with
  | null => exact .stop _
  | errPtr => exact .stop _
  | opened =>
      apply Maintains.bind nextOutcome
      intro outcome
      cases outcome with
      | crashes => exact .stop _
      | fails error written => exact .bind (fails written) fun _ => .stop _
      | succeeds =>
          cases state.file with
          | none => exact .stop _
          | some file => exact transfers file

theorem cowAllocSects (hasData : Bool) : Maintains Created (cowAllocSects hasData) := by
  apply Maintains.bind
  · apply allocate.handle
    intro reason
    cases reason with
    | errno error => exact .bind (updateCm fun _ => rfl) fun _ => allocate
    | oops => exact .stop _
    | crash => exact .stop _
  · exact fun _ => updateCm fun _ => rfl

theorem writeZeroPages (count page : Nat) : Maintains Created (writeZeroPages count page) := by
  induction count generalizing page with
  | zero => exact .pure ()
  | succ count ih =>
      apply Maintains.bind _ fun _ => ih _
      apply Maintains.bind
      · exact fileIo (fun _ => updateFile _) fun _ => updateFile _
      · exact fun _ => .ite (updateFile _) (.pure ())

theorem fileAllocate (length : Nat) : Maintains Created (fileAllocate length) := by
  apply Maintains.handle
  · apply Maintains.bind getCm
    intro cm
    cases cm.dfilp with
    | null => exact .stop _
    | errPtr => exact .stop _
    | opened =>
        apply Maintains.bind nextOutcome
        intro outcome
        cases outcome with
        | crashes => exact .stop _
        | fails error written => exact .stop _
        | succeeds => exact updateFile _
  · intro reason
    cases reason with
    | oops => exact .stop _
    | crash => exact .stop _
    | errno error =>
        cases error with
        | eopnotsupp => exact .bind allocate fun _ => writeZeroPages _ _
        | enomem => exact .stop _
        | einval => exact .stop _
        | eio => exact .stop _
        | efbig => exact .stop _
        | enoent => exact .stop _
        | other code => exact .stop _

theorem cowWriteHeader (isClean : Bool) : Maintains Created (cowWriteHeader isClean) := by
  have marks : Maintains Created (Cow.updateCm fun cm => cm.withClean isClean) :=
    updateCm fun _ => rfl
  apply marks.bind
  intro _
  apply Maintains.bind getCm
  intro cm
  exact fileIo (fun _ => .pure ()) fun _ => updateFile _

end Created

/-- What a creation that returned an error has before its error path: nothing is open, and the
file is as it was, where the manager was not allocated or the file not opened. -/
def Aborted (granted : Prop) (file : Option CowFile) (left : CowState) : Prop :=
  granted ∧ (Created left ∨ left.cm.dfilp = .errPtr) ∨
    ¬ granted ∧ left.cm.dfilp = .null ∧ left.file = file

theorem openFile_creates {granted : Prop} (left : granted ↔ Granted 1 state.outcomes)
    (closed : state.cm.dfilp = .null) :
    wp (openMoocbtCowFile true) (fun _ after => granted ∧ Created after)
      (fun reason after => ∀ error, reason = .errno error → Aborted granted state.file after)
      state := by
  unfold openMoocbtCowFile
  rw [wp_bind]
  apply wp_nextOutcome_granted left
  · intro rest more
    have all : granted := more.mpr fun _ member => absurd member List.not_mem_nil
    simp only [if_true]
    rw [wp_bind, wp_read, wp_bind, wp_update, wp_bind, wp_nextOutcome_iff]
    cases rest with
    | nil => exact ⟨all, rfl, rfl⟩
    | cons outcome rest =>
        cases outcome with
        | succeeds => exact ⟨all, rfl, rfl⟩
        | fails error written => exact fun _ _ => .inl ⟨all, .inr rfl⟩
        | crashes => exact fun _ same => nomatch same
  · intro outcome rest bad never
    cases outcome with
    | succeeds => exact absurd rfl bad
    | fails error written => exact fun _ _ => .inr ⟨never, closed, rfl⟩
    | crashes => exact fun _ same => nomatch same

theorem cowCreate_spec (elements sectSize cacheSize fileMax : Nat) (uuid : BitVec 128)
    (seqid : Nat) :
    wp (cowCreate elements sectSize cacheSize fileMax uuid seqid)
      (fun _ after => Granted 2 state.outcomes ∧ Created after)
      (fun reason after => ∀ error, reason = .errno error →
        Aborted (Granted 2 state.outcomes) state.file after) state := by
  have sized : Maintains Created (updateCm fun cm =>
      let cm := cm.layOut elements sectSize cacheSize
      { cm with
        version := cowVersionChangedBlocks
        nrChangedBlocks := 0
        flags := 0#32
        fileSize := fileMax
        seqid
        currPos := cm.dataOffset / cowBlockSize
        uuid }) := Created.updateCm fun _ => rfl
  have filled : Maintains Created (do
      cowAllocSects false
      fileAllocate fileMax
      cowWriteHeader false) := by
    apply Maintains.bind (Created.cowAllocSects false)
    intro _
    exact .bind (Created.fileAllocate _) fun _ => Created.cowWriteHeader false
  unfold cowCreate cowAllocManager allocate
  rw [wp_bind, wp_bind, wp_onErrno, wp_bind]
  apply wp_nextOutcome_granted (Iff.rfl : Granted 2 state.outcomes ↔ Granted (1 + 1) state.outcomes)
  · intro rest more
    rw [wp_pure, wp_updateCm, wp_bind]
    have opens := @openFile_creates ⟨CowManager.zero, state.file, rest⟩ _ more rfl
    apply wp_mono opens
    · intro _ middle ⟨all, created⟩
      apply wp_mono (sized.bind (fun _ => filled) middle created)
      · exact fun _ _ created => ⟨all, created⟩
      · exact fun _ _ created _ _ => .inl ⟨all, .inl created⟩
    · exact fun _ _ => id
  · intro outcome rest bad never
    cases outcome with
    | succeeds => exact absurd rfl bad
    | fails error written => exact fun _ same => nomatch same
    | crashes => exact fun _ same => nomatch same

/-- The file once the creation, or what comes after it, failed: where it was created it is
unlinked if it can be. -/
def unwoundFile (before left : CowState) : Option CowFile :=
  if Granted 2 before.outcomes then
    if Denied left.outcomes then left.file else none
  else before.file

theorem cowAllocManager_errno :
    wp cowAllocManager (fun _ _ => True)
      (fun reason _ => ∀ error, reason ≠ .errno error) state := by
  unfold cowAllocManager
  rw [wp_bind, wp_onErrno]
  apply wp_allocate
  · exact fun _ _ => trivial
  · intro reason rest _ _
    cases reason with
    | errno error => exact fun _ same => nomatch same
    | oops => exact fun _ same => nomatch same
    | crash => exact fun _ same => nomatch same

/-- What `cow_init` leaves, and what its error path does to the file. -/
theorem cowInit_unwinds (elements sectSize cacheSize fileMax : Nat) (uuid : BitVec 128)
    (seqid : Nat) :
    wp (cowInit elements sectSize cacheSize fileMax uuid seqid)
      (fun _ after =>
        cowCreate elements sectSize cacheSize fileMax uuid seqid state = (.ok (), after) ∧
        Granted 2 state.outcomes ∧ Created after)
      (fun reason after => ∀ error, reason = .errno error →
        ∃ left, cowCreate elements sectSize cacheSize fileMax uuid seqid state =
            (.error (.errno error), left) ∧
          after.file = unwoundFile state left ∧ (Granted 2 state.outcomes → Created left))
      state := by
  have created := wp_and (cowCreate_spec elements sectSize cacheSize fileMax uuid seqid)
    (wp_self (cowCreate elements sectSize cacheSize fileMax uuid seqid) state)
  generalize cowCreate elements sectSize cacheSize fileMax uuid seqid state = reply at created ⊢
  unfold cowCreate at created
  unfold cowInit
  rw [wp_bind] at created ⊢
  apply wp_mono (wp_and created cowAllocManager_errno)
  · intro _ middle ⟨body, _⟩
    rw [wp_onErrno]
    apply wp_mono body
    · intro _ after ⟨⟨all, created⟩, same⟩
      exact ⟨same, all, created⟩
    · intro reason left ⟨aborted, made⟩
      cases reason with
      | oops => exact fun _ same => nomatch same
      | crash => exact fun _ same => nomatch same
      | errno error =>
          dsimp only
          rw [wp_bind, wp_getCm, wp_when]
          rcases aborted error rfl with ⟨all, opened⟩ | ⟨never, closed, still⟩
          · have unwound : unwoundFile state left =
                if Denied left.outcomes then left.file else none := if_pos all
            rcases opened with created | bad
            · rw [if_pos (by simp [created.opened])]
              apply wp_mono (unlinkAndClose_spec created.opened)
              · intro _ after unlinked error same
                cases same
                exact ⟨left, made, unlinked.trans unwound.symm, fun _ => created⟩
              · exact fun _ _ never error same => absurd same (never error)
            · rw [if_pos (by simp [bad])]
              unfold fileUnlink
              rw [wp_bind, wp_bind, wp_getCm, bad]
              exact fun _ same => nomatch same
          · rw [if_neg (by simp [closed])]
            intro error same
            cases same
            exact ⟨left, made, still.trans (if_neg never).symm, fun all => absurd all never⟩
  · intro reason after ⟨_, never⟩ error same
    exact absurd same (never error)

end Moocbt.Cow
