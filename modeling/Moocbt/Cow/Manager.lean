import Moocbt.Cow.File

/-! The functions of `cow_manager.c`. -/

namespace Moocbt.Cow

open Program (when)

def cowFreeSection (sectIdx : Nat) : CowM Unit := do
  updateSect sectIdx fun sect => { sect with mappings := none }
  updateCm fun cm => { cm with allocatedSects := cm.allocatedSects - 1 }

-- Pages that are not zeroed hold no value the program reads before it fills them.
def cowAllocSection (sectIdx : Nat) : CowM Unit := do
  let _ ← sectAt sectIdx
  allocate
  updateSect sectIdx fun sect => { sect with mappings := some fun _ => 0, hasData := true }
  updateCm fun cm => { cm with allocatedSects := cm.allocatedSects + 1 }

/-- First word of a section in the file. -/
def CowManager.sectWord (cm : CowManager) (sectIdx : Nat) : Nat :=
  cm.sectSize * sectIdx + headerWords

def cowLoadSection (sectIdx : Nat) : CowM Unit :=
  onErrno
    (do
      cowAllocSection sectIdx
      let cm ← getCm
      let words ← fileRead (cm.sectWord sectIdx) cm.sectSize
      updateSect sectIdx fun sect => { sect with mappings := some words })
    (do
      let sect ← sectAt sectIdx
      when sect.mappings.isSome (cowFreeSection sectIdx))

def cowWriteSection (sectIdx : Nat) : CowM Unit := do
  let cm ← getCm
  let mappings ← sectMappings sectIdx
  fileWrite (cm.sectWord sectIdx) cm.sectSize mappings

/-- One turn of the loop of `__cow_sync_and_free_sections`. -/
def cowSyncSection (thresh sectIdx : Nat) : CowM Unit := do
  let sect ← sectAt sectIdx
  when (sect.mappings.isSome && (thresh = 0 || sect.usage ≤ thresh)) do
    cowWriteSection sectIdx
    cowFreeSection sectIdx
  updateSect sectIdx fun sect => { sect with usage := 0 }

def cowSyncSections (thresh : Nat) : Nat → Nat → CowM Unit
  | 0, _ => pure ()
  | remaining + 1, sectIdx => do
      let cm ← getCm
      when (thresh = 0 || cm.allocatedSects > cm.allowedSects / 2) do
        cowSyncSection thresh sectIdx
        cowSyncSections thresh remaining (sectIdx + 1)

def cowSyncAndFreeSections (thresh : Nat) : CowM Unit := do
  let cm ← getCm
  cowSyncSections thresh cm.totalSects 0

def maxUsage (sects : Nat → CowSection) : Nat → Nat
  | 0 => 0
  | count + 1 =>
      let thresh := maxUsage sects count
      if (sects count).usage > thresh then (sects count).usage else thresh

def countAtMost (sects : Nat → CowSection) (thresh : Nat) : Nat → Nat
  | 0 => 0
  | count + 1 =>
      if (sects count).usage ≤ thresh then countAtMost sects thresh count + 1
      else countAtMost sects thresh count

/-- The bisection for the median usage. The step width halves every turn, so that
`rounds` of at least that width are never used up. -/
def medianUsage (sects : Nat → CowSection) (total : Nat) : Nat → Nat → Nat → Nat
  | 0, _, thresh => thresh
  | rounds + 1, granularity, thresh =>
      if granularity > 0 then
        let less := countAtMost sects thresh total
        let greater := total - less
        if greater > less then
          medianUsage sects total rounds (granularity / 2) (thresh + granularity / 2)
        else if greater < less then
          medianUsage sects total rounds (granularity / 2) (thresh - granularity / 2)
        else thresh
      else thresh

theorem medianUsage_rounds (sects : Nat → CowSection) (total : Nat)
    {rounds granularity : Nat} (enough : granularity ≤ rounds) (more thresh : Nat) :
    medianUsage sects total (rounds + more) granularity thresh =
      medianUsage sects total rounds granularity thresh := by
  induction rounds generalizing granularity thresh with
  | zero =>
      have done : granularity = 0 := by omega
      subst done
      cases more <;> simp [medianUsage]
  | succ rounds ih =>
      rw [Nat.succ_add]
      unfold medianUsage
      by_cases positive : granularity > 0
      · have smaller : granularity / 2 ≤ rounds := by omega
        simp only [if_pos positive, ih smaller]
      · simp only [if_neg positive]

def cowCleanupMappings : CowM Unit := do
  let cm ← getCm
  match cm.sects with
  | none => .stop .oops
  | some sects =>
      let thresh := maxUsage sects cm.totalSects / 2
      cowSyncAndFreeSections (medianUsage sects cm.totalSects thresh thresh thresh)

/-- The header `__cow_write_header` builds. -/
def CowManager.header (cm : CowManager) : CowHeader where
  magic := cowMagic
  flags := cm.flags
  fpos := cm.currPos
  fsize := cm.fileSize
  seqid := cm.seqid
  uuid := cm.uuid
  version := cm.version
  nrChangedBlocks := cm.nrChangedBlocks

def CowManager.withClean (cm : CowManager) (isClean : Bool) : CowManager :=
  { cm with flags := if isClean then setFlag cm.flags cowClean else clearFlag cm.flags cowClean }

def cowWriteHeader (isClean : Bool) : CowM Unit := do
  updateCm fun cm => cm.withClean isClean
  let cm ← getCm
  fileWriteHeader cm.header

/-- What `__cow_open_header` takes over from an accepted header. -/
def CowManager.restore (cm : CowManager) (ch : CowHeader) (resetVmalloc : Bool) : CowManager :=
  { cm with
    flags := if resetVmalloc then clearFlag ch.flags cowVmallocUpper else ch.flags
    currPos := ch.fpos
    fileSize := ch.fsize
    seqid := ch.seqid
    uuid := ch.uuid
    version := ch.version
    nrChangedBlocks := ch.nrChangedBlocks }

def cowOpenHeader (indexOnly resetVmalloc : Bool) : CowM Unit := do
  let ch ← fileReadHeader
  if ch.magic ≠ cowMagic then .stop (.errno .einval)
  else if !hasFlag ch.flags cowClean then .stop (.errno .einval)
  else if (hasFlag ch.flags cowIndexOnly && !indexOnly) ||
      (!hasFlag ch.flags cowIndexOnly && indexOnly) then .stop (.errno .einval)
  else do
    updateCm fun cm => cm.restore ch resetVmalloc
    cowWriteHeader false

def cowFreeMembers : CowM Unit := do
  updateCm fun cm => { cm with sects := none }
  let cm ← getCm
  when (cm.dfilp ≠ .null) do
    fileUnlink
    closeAndDestroyMoocbtCowFile

/-- What `cow_sync_and_free` and `cow_sync_and_close` share: flush, header, close,
with the members freed when a step returns an error. -/
def cowSyncAndCloseFile : CowM Unit :=
  onErrno
    (do
      cowSyncAndFreeSections 0
      cowWriteHeader true
      closeAndDestroyMoocbtCowFile)
    cowFreeMembers

-- `kfree(cm)` ends the manager's life; its callers drop the pointer.
def cowSyncAndFree : CowM Unit := cowSyncAndCloseFile

def cowSyncAndClose : CowM Unit := cowSyncAndCloseFile

def cowReopen : CowM Unit :=
  onErrno
    (do
      openMoocbtCowFile false
      let cm ← getCm
      cowOpenHeader (hasFlag cm.flags cowIndexOnly) false)
    closeAndDestroyMoocbtCowFile

def cowCalculateAllowedSects (cacheSize totalSects : Nat) : Nat :=
  if cacheSize ≤ totalSects * cowSectionBytes then 0
  else (cacheSize - totalSects * cowSectionBytes) / (cowSectionSize * 8)

/-- `get_order`: the least order whose pages hold `size` bytes. -/
def getOrder (size : Nat) : Nat :=
  if (size - 1) / pageSize = 0 then 0 else Nat.log2 ((size - 1) / pageSize) + 1

/-- The sizes `cow_init` and `cow_reload` compute from their arguments. -/
def CowManager.layOut (cm : CowManager) (elements sectSize cacheSize : Nat) : CowManager :=
  let logSectPages := getOrder (sectSize * 8)
  let totalSects := numSegments elements (logSectPages + pageShift - 3)
  { cm with
    allocatedSects := 0
    sectSize
    logSectPages
    totalSects
    allowedSects := cowCalculateAllowedSects cacheSize totalSects
    dataOffset := cowHeaderSize + totalSects * (sectSize * 8) }

/-- The array of sections, from `kzalloc` or else from `vzalloc`. -/
def cowAllocSects (hasData : Bool) : CowM Unit := do
  allocate.handle fun reason =>
    match reason with
    | .errno _ => do
        updateCm fun cm => { cm with flags := setFlag cm.flags cowVmallocUpper }
        allocate
    | reason => .stop reason
  updateCm fun cm => { cm with sects := some fun _ => ⟨hasData, 0, none⟩ }

-- The error path of both constructors reads `cm->dfilp`, also when `cm` is null.
def cowAllocManager : CowM Unit := do
  onErrno allocate (.stop .oops)
  updateCm fun _ => CowManager.zero

def cowReload (elements sectSize cacheSize : Nat) (indexOnly : Bool) : CowM Unit := do
  cowAllocManager
  onErrno
    (do
      openMoocbtCowFile false
      updateCm fun cm => cm.layOut elements sectSize cacheSize
      cowOpenHeader indexOnly true
      cowAllocSects true)
    closeAndDestroyMoocbtCowFile

def cowInit (elements sectSize cacheSize fileMax : Nat) (uuid : BitVec 128) (seqid : Nat) :
    CowM Unit := do
  cowAllocManager
  onErrno
    (do
      openMoocbtCowFile true
      updateCm fun cm =>
        let cm := cm.layOut elements sectSize cacheSize
        { cm with
          version := cowVersionChangedBlocks
          nrChangedBlocks := 0
          flags := 0#32
          fileSize := fileMax
          seqid
          currPos := cm.dataOffset / cowBlockSize
          uuid }
      cowAllocSects false
      fileAllocate fileMax
      cowWriteHeader false)
    (do
      let cm ← getCm
      when (cm.dfilp ≠ .null) do
        fileUnlink
        closeAndDestroyMoocbtCowFile)

def cowTruncateToIndex : CowM Unit := do
  updateCm fun cm => { cm with flags := setFlag cm.flags cowIndexOnly }
  let cm ← getCm
  fileTruncate cm.dataOffset
  updateCm fun cm => { cm with fileSize := cm.dataOffset }

def cowModifyCacheSize (cacheSize : Nat) : CowM Unit :=
  updateCm fun cm =>
    { cm with allowedSects := cowCalculateAllowedSects cacheSize cm.totalSects }

/-- The eviction that ends a mapping access. -/
def cowEvict : CowM Unit := do
  let cm ← getCm
  when (cm.allocatedSects > cm.allowedSects) cowCleanupMappings

def cowReadMapping (pos : Nat) : CowM Nat := do
  let cm ← getCm
  let sectIdx := pos / cm.sectSize
  let sectPos := pos % cm.sectSize
  let sect ← sectAt sectIdx
  updateSect sectIdx fun sect => { sect with usage := sect.usage + 1 }
  if sect.mappings.isNone && !sect.hasData then pure 0
  else do
    when sect.mappings.isNone (cowLoadSection sectIdx)
    let mappings ← sectMappings sectIdx
    cowEvict
    pure (mappings sectPos)

def cowWriteMapping (pos val : Nat) : CowM Unit := do
  let cm ← getCm
  let sectIdx := pos / cm.sectSize
  let sectPos := pos % cm.sectSize
  let sect ← sectAt sectIdx
  updateSect sectIdx fun sect => { sect with usage := sect.usage + 1 }
  when sect.mappings.isNone
    (if sect.hasData then cowLoadSection sectIdx else cowAllocSection sectIdx)
  let mappings ← sectMappings sectIdx
  updateCm fun cm =>
    { cm with
      nrChangedBlocks :=
        if cm.version ≥ cowVersionChangedBlocks ∧ mappings sectPos = 0 then cm.nrChangedBlocks + 1
        else cm.nrChangedBlocks }
  updateSect sectIdx fun sect =>
    { sect with mappings := some (Function.update mappings sectPos val) }
  cowEvict

def cowWriteFillerMapping (pos : Nat) : CowM Unit := cowWriteMapping pos 1

def cowWriteData (buf : Nat → Nat) : CowM Unit := do
  let cm ← getCm
  if cm.currPos * cowBlockSize ≥ cm.fileSize then .stop (.errno .efbig)
  else do
    fileWrite (cm.currPos * blockWords) blockWords buf
    updateCm fun cm => { cm with currPos := cm.currPos + 1 }

def cowWriteCurrent (block : Nat) (buf : Nat → Nat) : CowM Unit := do
  let blockMapping ← cowReadMapping block
  if blockMapping ≠ 0 then pure ()
  else do
    let cm ← getCm
    cowWriteMapping block cm.currPos
    cowWriteData buf

/-- `cow_read_data`, with the offset and the length in words. -/
def cowReadData (blockPos blockOff len : Nat) : CowM (Nat → Nat) :=
  if 8 * blockOff ≥ cowBlockSize then .stop (.errno .einval)
  else fileRead (blockPos * blockWords + blockOff) len

end Moocbt.Cow
