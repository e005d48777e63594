import Mathlib.Algebra.Group.Nat.Defs
import Mathlib.Logic.Function.Basic
import Moocbt.Logic.Program

/-! The data of the COW manager: the backing file with its header, the cached
sections of the index, the manager itself, and the machine its functions run
on. The file is addressed in 8-byte words: index entry `k` is the word after the
header's 512, and a COW block is 512 words. -/

namespace Moocbt.Cow

def cowHeaderSize : Nat := 4096
def cowBlockSize : Nat := 4096
def cowSectionSize : Nat := 4096
def cowMagic : Nat := 4776
def cowVersionChangedBlocks : Nat := 1
def pageShift : Nat := 12
def pageSize : Nat := 4096

/-- `sizeof(struct cow_section)` on a 64-bit kernel. -/
def cowSectionBytes : Nat := 24

/-- `sizeof(struct cow_header)`. -/
def cowHeaderBytes : Nat := 64

/-- Words of the file before the index, and words of one COW block. -/
def headerWords : Nat := 512
def blockWords : Nat := 512

def cowClean : Nat := 0
def cowIndexOnly : Nat := 1
def cowVmallocUpper : Nat := 2

def hasFlag (flags : BitVec 32) (bit : Nat) : Bool := flags &&& (1#32 <<< bit) != 0#32
def setFlag (flags : BitVec 32) (bit : Nat) : BitVec 32 := flags ||| (1#32 <<< bit)
def clearFlag (flags : BitVec 32) (bit : Nat) : BitVec 32 := flags &&& ~~~(1#32 <<< bit)

theorem hasFlag_eq (flags : BitVec 32) {bit : Nat} (small : bit < 32) :
    hasFlag flags bit = flags.getLsbD bit := by
  unfold hasFlag
  cases found : flags.getLsbD bit with
  | true =>
      have nonzero : flags &&& (1#32 <<< bit) ≠ 0#32 := by
        intro zero
        have same := congrArg (fun value => value.getLsbD bit) zero
        rw [BitVec.getLsbD_eq_getElem small] at found
        simp [small, found] at same
      simpa using nonzero
  | false =>
      have zero : flags &&& (1#32 <<< bit) = 0#32 := by
        apply BitVec.eq_of_getLsbD_eq
        intro other bounded
        by_cases same : other = bit
        · subst same
          simp [found]
        · have apart : ¬ (other - bit = 0 ∧ bit ≤ other) := by omega
          by_cases below : other < bit
          · simp [below]
          · have positive : other - bit ≠ 0 := by omega
            simp [positive]
      simpa using zero

@[simp] theorem hasFlag_setFlag (flags : BitVec 32) {bit : Nat} (small : bit < 32) :
    hasFlag (setFlag flags bit) bit = true := by
  rw [hasFlag_eq _ small]
  simp [setFlag, small]

@[simp] theorem hasFlag_clearFlag (flags : BitVec 32) {bit : Nat} (small : bit < 32) :
    hasFlag (clearFlag flags bit) bit = false := by
  rw [hasFlag_eq _ small]
  simp [clearFlag, small]

theorem hasFlag_setFlag_of_ne (flags : BitVec 32) {bit other : Nat} (small : other < 32)
    (apart : other ≠ bit) : hasFlag (setFlag flags bit) other = hasFlag flags other := by
  rw [hasFlag_eq _ small, hasFlag_eq _ small]
  have positive : ¬ (bit ≤ other ∧ other - bit = 0) := by omega
  by_cases below : other < bit
  · simp [setFlag, below]
  · have nonzero : other - bit ≠ 0 := by omega
    simp [setFlag, nonzero]

theorem cowSectionSize_pos : 0 < cowSectionSize := by decide

theorem cowSectionSize_aligned : 512 ∣ cowSectionSize := by decide

/-- `struct cow_header`. -/
structure CowHeader where
  magic : Nat
  flags : BitVec 32
  fpos : Nat
  fsize : Nat
  seqid : Nat
  uuid : BitVec 128
  version : Nat
  nrChangedBlocks : Nat
  deriving DecidableEq, Repr

/-- What a header that was never written reads as. -/
def CowHeader.zero : CowHeader := ⟨0, 0#32, 0, 0, 0, 0#128, 0, 0⟩

/-- The backing file. Words that were never written read as zero. -/
structure CowFile where
  header : CowHeader
  words : Nat → Nat
  size : Nat

/-- A file as `O_CREAT | O_TRUNC` leaves it. -/
def CowFile.empty : CowFile := ⟨CowHeader.zero, fun _ => 0, 0⟩

/-- Write `count` words from `start` on. -/
def CowFile.writeWords (file : CowFile) (start count : Nat) (data : Nat → Nat) : CowFile :=
  { file with
    words := fun word =>
      if start ≤ word ∧ word < start + count then data (word - start) else file.words word
    size := if count = 0 then file.size else max file.size (8 * (start + count)) }

def CowFile.writeHeader (file : CowFile) (header : CowHeader) : CowFile :=
  { file with header, size := max file.size cowHeaderBytes }

def CowFile.extend (file : CowFile) (length : Nat) : CowFile :=
  { file with size := max file.size length }

/-- Cut or extend the file; what is cut off reads as zero when it grows again. -/
def CowFile.truncate (file : CowFile) (length : Nat) : CowFile :=
  { file with
    words := fun word => if 8 * word < length then file.words word else 0
    size := length }

/-- `dfilp`: null, an `ERR_PTR`, or an open file. -/
inductive Handle where
  | null
  | errPtr
  | opened
  deriving DecidableEq, Repr

/-- `struct cow_section`. The flag is set when the section has mappings, on file
or in memory. -/
structure CowSection where
  hasData : Bool
  usage : Nat
  mappings : Option (Nat → Nat)

/-- `struct cow_manager`. -/
structure CowManager where
  dfilp : Handle
  flags : BitVec 32
  currPos : Nat
  dataOffset : Nat
  fileSize : Nat
  seqid : Nat
  version : Nat
  nrChangedBlocks : Nat
  uuid : BitVec 128
  logSectPages : Nat
  sectSize : Nat
  allocatedSects : Nat
  totalSects : Nat
  allowedSects : Nat
  sects : Option (Nat → CowSection)

/-- The manager `kzalloc` returns. -/
def CowManager.zero : CowManager :=
  ⟨.null, 0#32, 0, 0, 0, 0, 0, 0, 0#128, 0, 0, 0, 0, 0, none⟩

inductive Errno where
  | enomem
  | einval
  | eio
  | efbig
  | enoent
  | eopnotsupp
  | other (code : Nat)
  deriving DecidableEq, Repr

/-- What the environment does to the next fallible primitive: an allocation or a
file operation succeeds, fails after writing a prefix of its words, or the
machine crashes before it. -/
inductive Outcome where
  | succeeds
  | fails (error : Errno) (written : Nat)
  | crashes
  deriving DecidableEq, Repr

/-- How a function ends early: with an error code, with an invalid memory access,
or with the crash of the machine. -/
inductive Stop where
  | errno (error : Errno)
  | oops
  | crash
  deriving DecidableEq, Repr

/-- The manager passed to a function, the COW file at its path and the outcomes
still to come; when none is left, everything succeeds. -/
structure CowState where
  cm : CowManager
  file : Option CowFile
  outcomes : List Outcome

abbrev CowM (α : Type) := Program Stop CowState α

def nextOutcome : CowM Outcome := fun state =>
  match state.outcomes with
  | [] => (.ok .succeeds, state)
  | outcome :: rest => (.ok outcome, { state with outcomes := rest })

/-- An allocation: of zeroed pages, of uninitialised pages or of slab memory. -/
def allocate : CowM Unit := do
  match ← nextOutcome with
  | .succeeds => pure ()
  | .fails _ _ => .stop (.errno .enomem)
  | .crashes => .stop .crash

/-- Run `cleanup` when `program` returns an error code, and return that code. -/
def onErrno {α : Type} (program : CowM α) (cleanup : CowM Unit) : CowM α :=
  program.handle fun reason =>
    match reason with
    | .errno error => do
        cleanup
        .stop (.errno error)
    | reason => .stop reason

def getCm : CowM CowManager := do
  let state ← .read
  pure state.cm

def updateCm (change : CowManager → CowManager) : CowM Unit :=
  .update fun state => { state with cm := change state.cm }

def updateFile (change : CowFile → CowFile) : CowM Unit :=
  .update fun state => { state with file := state.file.map change }

/-- `cm->sects[idx]`: an access through a null pointer or past the array is an oops. -/
def sectAt (idx : Nat) : CowM CowSection := do
  let cm ← getCm
  match cm.sects with
  | none => .stop .oops
  | some sects => if idx < cm.totalSects then pure (sects idx) else .stop .oops

/-- `cm->sects[idx].mappings` where the code dereferences it. -/
def sectMappings (idx : Nat) : CowM (Nat → Nat) := do
  let sect ← sectAt idx
  match sect.mappings with
  | none => .stop .oops
  | some mappings => pure mappings

-- The new section is computed before it is stored, as an assignment does.
def CowManager.setSect (cm : CowManager) (idx : Nat) (change : CowSection → CowSection) :
    CowManager :=
  match cm.sects with
  | none => cm
  | some sects =>
      match change (sects idx) with
      | ⟨hasData, usage, mappings⟩ =>
          { cm with sects := some (Function.update sects idx ⟨hasData, usage, mappings⟩) }

theorem CowManager.setSect_some {cm : CowManager} {sects : Nat → CowSection}
    (found : cm.sects = some sects) (idx : Nat) (change : CowSection → CowSection) :
    cm.setSect idx change =
      { cm with sects := some (Function.update sects idx (change (sects idx))) } := by
  simp only [setSect, found]

def updateSect (idx : Nat) (change : CowSection → CowSection) : CowM Unit :=
  updateCm fun cm => cm.setSect idx change

end Moocbt.Cow
