import Moocbt.Cow.State

/-! `update-img`: it merges the blocks a COW file marks from the next snapshot into an
image. -/

namespace Moocbt.Tools

open Cow Program

def indexBufferSize : Nat := 8192
def einval : Nat := 22
def enomem : Nat := 12

/-- `sizeof(uint64_t)`. -/
def mappingBytes : Nat := 8

/-- What a library call that fails leaves in `errno`. -/
structure ErrorCode where
  value : Nat
  positive : 0 < value
  small : value < 256

/-- The answer of a library call. One that succeeds may leave a code in `errno` too, as
`realpath` does. -/
abbrev Answer := Except ErrorCode (Option ErrorCode)

/-- What becomes of a `pread` or `pwrite`: all the bytes that are there, at most some of
them, or `-1`. -/
inductive Transfer where
  | whole
  | short (bytes : Nat)
  | fails (error : ErrorCode)

def Transfer.result (transfer : Transfer) (available : Nat) : Except ErrorCode Nat :=
  match transfer with
  | .whole => .ok available
  | .short bytes => .ok (min bytes available)
  | .fails error => .error error

/-- The snapshot and the image by bytes, the COW file, and what becomes of the transfers:
those of data by blocks, those of the index by chunks. -/
structure Job where
  snap : Nat → Nat
  snapSize : Nat
  cow : CowFile
  image : Nat → Nat
  reads : Nat → Transfer
  writes : Nat → Transfer
  indexReads : Nat → Transfer

def Job.totalBlocks (job : Job) : Nat := (job.snapSize + cowBlockSize - 1) / cowBlockSize

def Job.totalChunks (job : Job) : Nat := (job.totalBlocks + indexBufferSize - 1) / indexBufferSize

/-- The entry of a block in the index. -/
def Job.mapping (job : Job) (block : Nat) : Nat := job.cow.words (headerWords + block)

/-- The variables of `main` that its loop changes. -/
structure Merge where
  errno : Nat
  image : Nat → Nat
  blocksDone : Nat
  count : Nat
  errCount : Nat

abbrev Tool := Program Nat Merge

/-- The bytes of a transfer, or nothing for `-1`. -/
def transfer (transfer : Transfer) (available : Nat) : Tool (Option Nat) :=
  match transfer.result available with
  | .ok bytes => pure (some bytes)
  | .error error => do
      update fun merge => { merge with errno := error.value }
      pure none

/-- `ret = errno; errno = 0`. -/
def takeErrno : Tool Nat := do
  let merge ← read
  update fun merge => { merge with errno := 0 }
  pure merge.errno

/-- `pwrite` of the first bytes of a block. -/
def Merge.write (merge : Merge) (job : Job) (block bytes : Nat) : Merge :=
  { merge with
    image := fun byte =>
      if byte / cowBlockSize = block ∧ byte % cowBlockSize < bytes then job.snap byte
      else merge.image byte }

/-- `copy_block`. -/
def copyBlock (job : Job) (block : Nat) : Tool Nat := do
  let bytes ← transfer (job.reads block) (min cowBlockSize (job.snapSize - block * cowBlockSize))
  if bytes = some cowBlockSize then
    let bytes ← transfer (job.writes block) cowBlockSize
    update fun merge => merge.write job block (bytes.getD 0)
    if bytes = some cowBlockSize then pure 0 else takeErrno
  else takeErrno

/-- The inner loop of `main`, for the blocks from one of them on. -/
def copyBlocks (job : Job) : Nat → Nat → Tool Unit
  | 0, _ => pure ()
  | left + 1, block => do
      if job.mapping block = 0 then copyBlocks job left (block + 1)
      else
        let ret ← copyBlock job block
        update fun merge =>
          { merge with
            errCount := if ret = 0 then merge.errCount else merge.errCount + 1
            count := merge.count + 1 }
        copyBlocks job left (block + 1)

/-- The bytes of a chunk of the index that the file has. -/
def Job.indexBytes (job : Job) (chunk blocks : Nat) : Nat :=
  min (blocks * mappingBytes)
    (job.cow.size - (cowHeaderSize + indexBufferSize * mappingBytes * chunk))

/-- The outer loop of `main`. -/
def mergeChunks (job : Job) : Nat → Nat → Tool Unit
  | 0, _ => pure ()
  | left + 1, chunk => do
      let merge ← read
      let blocksToRead := min indexBufferSize (job.totalBlocks - merge.blocksDone)
      let bytes ← transfer (job.indexReads chunk) (job.indexBytes chunk blocksToRead)
      if bytes = some (blocksToRead * mappingBytes) then
        copyBlocks job blocksToRead (indexBufferSize * chunk)
        update fun merge => { merge with blocksDone := merge.blocksDone + blocksToRead }
        mergeChunks job left (chunk + 1)
      else
        let ret ← takeErrno
        stop ret

/-- What `verify_files` reads of a `struct moocbt_info`. -/
structure MoocbtInfo where
  seqid : Nat
  uuid : BitVec 128
  deriving DecidableEq, Repr

/-- `update-img` with its arguments and the answers of the calls before the merge: the
files open or not, `sscanf` finds a minor in the path of the snapshot or not, and so on. -/
structure Invocation where
  argc : Nat
  snap : Answer
  cow : Answer
  img : Answer
  realpath : Answer
  minor : Option Nat
  infoBuffer : Bool
  info : Except ErrorCode MoocbtInfo
  header : Transfer
  mappings : Bool
  job : Job

/-- A call that may fail. -/
def attempt (answer : Answer) : Tool Unit :=
  match answer with
  | .ok none => pure ()
  | .ok (some code) => update fun merge => { merge with errno := code.value }
  | .error error => do
      update fun merge => { merge with errno := error.value }
      let ret ← takeErrno
      stop ret

/-- The last three checks of `verify_files`, with the subtraction of an
`unsigned long long`. -/
def MoocbtInfo.follows (info : MoocbtInfo) (header : CowHeader) : Bool :=
  decide (header.magic = cowMagic) && decide (header.uuid = info.uuid) &&
    decide (header.seqid = (info.seqid + (2 ^ 64 - 1)) % 2 ^ 64)

/-- `verify_files`. It answers zero for a header that is read in part while `errno` is
zero. -/
def verifyFiles (call : Invocation) : Tool Nat := do
  if call.infoBuffer then
    match call.info with
    | .error error =>
        update fun merge => { merge with errno := error.value }
        takeErrno
    | .ok info =>
        let bytes ← transfer call.header (min cowHeaderBytes call.job.cow.size)
        if bytes = some cowHeaderBytes then
          pure (if info.follows call.job.cow.header then 0 else einval)
        else takeErrno
  else
    update fun merge => { merge with errno := 0 }
    pure enomem

/-- `main` up to its loop. -/
def prepare (call : Invocation) : Tool Unit := do
  if call.argc = 4 then
    attempt call.snap
    attempt call.cow
    attempt call.img
    attempt call.realpath
    if call.minor.isSome then
      let ret ← verifyFiles call
      if ret = 0 then
        if call.mappings then pure () else stop enomem
      else stop ret
    else
      let ret ← takeErrno
      stop ret
  else stop einval

def main (call : Invocation) : Tool Unit := do
  prepare call
  mergeChunks call.job call.job.totalChunks 0

/-- The exit status, the numbers of blocks and of errors `main` prints when it is done, and
the image. -/
structure Run where
  status : Nat
  report : Option (Nat × Nat)
  image : Nat → Nat

/-- What `main` leaves for its caller; the kernel keeps eight bits of the status. -/
def ended : Except Nat Unit × Merge → Run
  | (.ok (), merge) => ⟨0, some (merge.count, merge.errCount), merge.image⟩
  | (.error ret, merge) => ⟨ret % 256, none, merge.image⟩

/-- The start of a program, with `errno` zero. -/
def Merge.start (job : Job) : Merge := ⟨0, job.image, 0, 0, 0⟩

def updateImg (call : Invocation) : Run := ended (main call (.start call.job))

end Moocbt.Tools
