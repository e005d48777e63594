import Moocbt.Cow.Rules

/-! The constructors of the manager on a kernel with pages of any size. The sizes of
the index depend on the page size, the size of a section does not. -/

namespace Moocbt.Cow

open Program

/-- `get_order` with pages of `2 ^ shift` bytes. -/
def getOrderAt (shift size : Nat) : Nat :=
  if (size - 1) / 2 ^ shift = 0 then 0 else Nat.log2 ((size - 1) / 2 ^ shift) + 1

/-- The sizes `cow_init` and `cow_reload` compute from their arguments. -/
def CowManager.layOutAt (shift : Nat) (cm : CowManager) (elements sectSize cacheSize : Nat) :
    CowManager :=
  let logSectPages := getOrderAt shift (sectSize * 8)
  let totalSects := numSegments elements (logSectPages + shift - 3)
  { cm with
    allocatedSects := 0
    sectSize
    logSectPages
    totalSects
    allowedSects := cowCalculateAllowedSects cacheSize totalSects
    dataOffset := cowHeaderSize + totalSects * (sectSize * 8) }

def writeZeroPageAt (shift page : Nat) : CowM Unit := do
  fileWrite (page * (2 ^ shift / 8)) (2 ^ shift / 8) fun _ => 0
  if page = 0 then updateFile fun file => { file with header := CowHeader.zero } else pure ()

def writeZeroPagesAt (shift : Nat) : Nat → Nat → CowM Unit
  | 0, _ => pure ()
  | count + 1, page => do
      writeZeroPageAt shift page
      writeZeroPagesAt shift count (page + 1)

def fileAllocateAt (shift length : Nat) : CowM Unit :=
  (tryRealFallocate length).handle fun reason =>
    match reason with
    | .errno .eopnotsupp => do
        allocate
        writeZeroPagesAt shift (numSegments length shift) 0
    | reason => .stop reason

def cowReloadAt (shift elements sectSize cacheSize : Nat) (indexOnly : Bool) : CowM Unit := do
  cowAllocManager
  onErrno
    (do
      openMoocbtCowFile false
      updateCm fun cm => cm.layOutAt shift elements sectSize cacheSize
      cowOpenHeader indexOnly true
      cowAllocSects true)
    closeAndDestroyMoocbtCowFile

def cowInitAt (shift elements sectSize cacheSize fileMax : Nat) (uuid : BitVec 128)
    (seqid : Nat) : CowM Unit := do
  cowAllocManager
  onErrno
    (do
      openMoocbtCowFile true
      updateCm fun cm =>
        let cm := cm.layOutAt shift elements sectSize cacheSize
        { cm with
          version := cowVersionChangedBlocks
          nrChangedBlocks := 0
          flags := 0#32
          fileSize := fileMax
          seqid
          currPos := cm.dataOffset / cowBlockSize
          uuid }
      cowAllocSects false
      fileAllocateAt shift fileMax
      cowWriteHeader false)
    (do
      let cm ← getCm
      when (cm.dfilp ≠ .null) do
        fileUnlink
        closeAndDestroyMoocbtCowFile)

theorem writeZeroPagesAt_pageShift (count page : Nat) :
    writeZeroPagesAt pageShift count page = writeZeroPages count page := by
  induction count generalizing page with
  | zero => rfl
  | succ count ih =>
      unfold writeZeroPagesAt writeZeroPages
      rw [ih]
      rfl

/-- With pages of 4096 bytes these are the constructors the other modules are about. -/
theorem cowReloadAt_pageShift : cowReloadAt pageShift = cowReload := rfl

theorem cowInitAt_pageShift : cowInitAt pageShift = cowInit := by
  have allocated : fileAllocateAt pageShift = fileAllocate := by
    funext length
    unfold fileAllocateAt
    simp only [writeZeroPagesAt_pageShift]
    rfl
  unfold cowInitAt
  rw [allocated]
  rfl

/-- The sizes that decide which block numbers the index holds. -/
def CowState.sizes (state : CowState) : Nat × Nat := (state.cm.sectSize, state.cm.totalSects)

section Sizes

theorem nextOutcome_sizes : Keeps CowState.sizes nextOutcome := by
  intro state
  unfold nextOutcome
  cases state.outcomes <;> rfl

theorem updateCm_sizes {change : CowManager → CowManager}
    (sectSize : ∀ cm, (change cm).sectSize = cm.sectSize)
    (totalSects : ∀ cm, (change cm).totalSects = cm.totalSects) :
    Keeps CowState.sizes (updateCm change) := by
  intro state
  exact Prod.ext (sectSize state.cm) (totalSects state.cm)

theorem getCm_sizes : Keeps CowState.sizes getCm := fun _ => rfl

theorem updateFile_sizes (change : CowFile → CowFile) :
    Keeps CowState.sizes (updateFile change) := fun _ => rfl

theorem allocate_sizes : Keeps CowState.sizes allocate := by
  refine .bind nextOutcome_sizes fun outcome => ?_
  cases outcome <;> exact fun _ => rfl

theorem fileIo_sizes {α : Type} {failed : Nat → CowM Unit} {transfer : CowFile → CowM α}
    (partly : ∀ written, Keeps CowState.sizes (failed written))
    (inner : ∀ file, Keeps CowState.sizes (transfer file)) :
    Keeps CowState.sizes (fileIo failed transfer) := by
  refine .bind .read fun state => ?_
  cases state.cm.dfilp with
  | null => exact .stop _
  | errPtr => exact .stop _
  | opened =>
      refine .bind nextOutcome_sizes fun outcome => ?_
      cases outcome with
      | succeeds =>
          cases state.file with
          | none => exact .stop _
          | some file => exact inner file
      | fails error written => exact .bind (partly written) fun _ => .stop _
      | crashes => exact .stop _

theorem fileWrite_sizes (start count : Nat) (data : Nat → Nat) :
    Keeps CowState.sizes (fileWrite start count data) :=
  fileIo_sizes (fun _ => updateFile_sizes _) fun _ => updateFile_sizes _

theorem writeZeroPagesAt_sizes (shift count page : Nat) :
    Keeps CowState.sizes (writeZeroPagesAt shift count page) := by
  induction count generalizing page with
  | zero => exact .pure ()
  | succ count ih =>
      have first : Keeps CowState.sizes (writeZeroPageAt shift page) :=
        .bind (fileWrite_sizes _ _ _) fun _ => .ite _ (updateFile_sizes _) (.pure ())
      exact .bind first fun _ => ih (page + 1)

theorem fileAllocateAt_sizes (shift length : Nat) :
    Keeps CowState.sizes (fileAllocateAt shift length) := by
  have fallocate : Keeps CowState.sizes (tryRealFallocate length) := by
    refine .bind getCm_sizes fun cm => ?_
    cases cm.dfilp with
    | null => exact .stop _
    | errPtr => exact .stop _
    | opened =>
        refine .bind nextOutcome_sizes fun outcome => ?_
        cases outcome with
        | succeeds => exact updateFile_sizes _
        | fails error written => exact .stop _
        | crashes => exact .stop _
  refine .handle fallocate fun reason => ?_
  cases reason with
  | errno error =>
      cases error <;>
        first
        | exact .stop _
        | exact .bind allocate_sizes fun _ => writeZeroPagesAt_sizes shift _ 0
  | oops => exact .stop _
  | crash => exact .stop _

theorem cowWriteHeader_sizes (isClean : Bool) : Keeps CowState.sizes (cowWriteHeader isClean) :=
  .bind (updateCm_sizes (fun _ => rfl) fun _ => rfl) fun _ =>
    .bind getCm_sizes fun _ =>
      fileIo_sizes (fun _ => .pure ()) fun _ => updateFile_sizes _

theorem cowAllocSects_sizes (hasData : Bool) : Keeps CowState.sizes (cowAllocSects hasData) := by
  refine .bind (.handle allocate_sizes fun reason => ?_) fun _ =>
    updateCm_sizes (fun _ => rfl) fun _ => rfl
  cases reason with
  | errno error => exact .bind (updateCm_sizes (fun _ => rfl) fun _ => rfl) fun _ => allocate_sizes
  | oops => exact .stop _
  | crash => exact .stop _

theorem cowOpenHeader_sizes (indexOnly resetVmalloc : Bool) :
    Keeps CowState.sizes (cowOpenHeader indexOnly resetVmalloc) := by
  have header : Keeps CowState.sizes fileReadHeader :=
    fileIo_sizes (fun _ => .pure ()) fun _ => .ite _ (.pure _) (.stop _)
  refine .bind header fun ch => .ite _ (.stop _) (.ite _ (.stop _) (.ite _ (.stop _) ?_))
  exact .bind (updateCm_sizes (fun _ => rfl) fun _ => rfl) fun _ => cowWriteHeader_sizes false

end Sizes

/-- The elements in one of the sections the array is sized for. -/
def sectionElements (shift : Nat) : Nat := 2 ^ (getOrderAt shift (cowSectionSize * 8) + shift - 3)

/-- The order of a section makes up for small pages, but not for large ones. -/
theorem sectionElements_eq {shift : Nat} (large : 12 ≤ shift) :
    sectionElements shift = if shift ≤ 15 then cowSectionSize else 2 ^ (shift - 3) := by
  unfold sectionElements
  by_cases small : shift ≤ 15
  · have each : shift = 12 ∨ shift = 13 ∨ shift = 14 ∨ shift = 15 := by omega
    rw [if_pos small]
    rcases each with rfl | rfl | rfl | rfl <;> decide
  · have whole : getOrderAt shift (cowSectionSize * 8) = 0 := by
      have wide : 2 ^ 16 ≤ 2 ^ shift := Nat.pow_le_pow_right (by decide) (by omega)
      unfold getOrderAt cowSectionSize
      rw [Nat.div_eq_of_lt (by omega)]
      rfl
    rw [if_neg small, whole, Nat.zero_add]

/-- What both constructors make of the sizes. -/
def LaidOut (shift elements : Nat) (state : CowState) : Prop :=
  state.sizes = (cowSectionSize, (elements + sectionElements shift - 1) / sectionElements shift)

theorem cowReloadAt_laidOut (shift elements cacheSize : Nat) (indexOnly : Bool)
    (state : CowState) :
    wp (cowReloadAt shift elements cowSectionSize cacheSize indexOnly)
      (fun _ after => LaidOut shift elements after) (fun _ _ => True) state := by
  unfold cowReloadAt
  rw [wp_bind]
  refine wp_mono (wp_true _ _) ?_ (fun _ _ _ => trivial)
  intro _ fresh _
  rw [wp_onErrno, wp_bind]
  refine wp_mono (wp_true _ _) ?_ ?_
  · intro _ opened _
    rw [wp_bind, wp_updateCm]
    have rest := (cowOpenHeader_sizes indexOnly true).bind fun _ => cowAllocSects_sizes true
    refine wp_mono (rest.wp _) (fun _ after same => same) ?_
    intro reason after _
    cases reason with
    | errno error => exact wp_true _ _
    | oops => trivial
    | crash => trivial
  · intro reason after _
    cases reason with
    | errno error => exact wp_true _ _
    | oops => trivial
    | crash => trivial

theorem cowInitAt_laidOut (shift elements cacheSize fileMax : Nat) (uuid : BitVec 128)
    (seqid : Nat) (state : CowState) :
    wp (cowInitAt shift elements cowSectionSize cacheSize fileMax uuid seqid)
      (fun _ after => LaidOut shift elements after) (fun _ _ => True) state := by
  unfold cowInitAt
  rw [wp_bind]
  refine wp_mono (wp_true _ _) ?_ (fun _ _ _ => trivial)
  intro _ fresh _
  rw [wp_onErrno, wp_bind]
  refine wp_mono (wp_true _ _) ?_ ?_
  · intro _ opened _
    rw [wp_bind, wp_updateCm]
    have rest := (cowAllocSects_sizes false).bind fun _ =>
      (fileAllocateAt_sizes shift fileMax).bind fun _ => cowWriteHeader_sizes false
    refine wp_mono (rest.wp _) (fun _ after same => same) ?_
    intro reason after _
    cases reason with
    | errno error => exact wp_true _ _
    | oops => trivial
    | crash => trivial
  · intro reason after _
    cases reason with
    | errno error => exact wp_true _ _
    | oops => trivial
    | crash => trivial

end Moocbt.Cow
