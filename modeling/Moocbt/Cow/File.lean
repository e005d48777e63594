import Moocbt.Cow.State

/-! The file operations of `filesystem.c` on the COW file. Reads and writes go
through `file_io`; a failing write may leave a prefix of its words behind, the
64-byte header is written whole or not at all. -/

namespace Moocbt.Cow

/-- `file_io` around one transfer: `failed` is what a failing transfer of some
words leaves behind. -/
def fileIo {α : Type} (failed : Nat → CowM Unit) (transfer : CowFile → CowM α) : CowM α := do
  let state ← .read
  match state.cm.dfilp with
  | .null => .stop (.errno .einval)
  | .errPtr => .stop .oops
  | .opened =>
    match ← nextOutcome with
    | .crashes => .stop .crash
    | .fails error written => do
        failed written
        .stop (.errno error)
    | .succeeds =>
      match state.file with
      | none => .stop (.errno .eio)
      | some file => transfer file

/-- Read `count` words from `start` on; a short read is an error. -/
def fileRead (start count : Nat) : CowM (Nat → Nat) :=
  fileIo (fun _ => pure ()) fun file =>
    if count = 0 ∨ 8 * (start + count) ≤ file.size then
      pure fun word => file.words (start + word)
    else .stop (.errno .eio)

def fileReadHeader : CowM CowHeader :=
  fileIo (fun _ => pure ()) fun file =>
    if cowHeaderBytes ≤ file.size then pure file.header else .stop (.errno .eio)

def fileWrite (start count : Nat) (data : Nat → Nat) : CowM Unit :=
  fileIo (fun written => updateFile fun file => file.writeWords start (min written count) data)
    fun _ => updateFile fun file => file.writeWords start count data

def fileWriteHeader (header : CowHeader) : CowM Unit :=
  fileIo (fun _ => pure ()) fun _ => updateFile fun file => file.writeHeader header

/-- `file_truncate` dereferences the handle without a check. -/
def fileTruncate (length : Nat) : CowM Unit := do
  let cm ← getCm
  match cm.dfilp with
  | .opened =>
    match ← nextOutcome with
    | .crashes => .stop .crash
    | .fails error _ => .stop (.errno error)
    | .succeeds => updateFile fun file => file.truncate length
  | _ => .stop .oops

/-- `try_real_fallocate`; the bytes it allocates read as zero. -/
def tryRealFallocate (length : Nat) : CowM Unit := do
  let cm ← getCm
  match cm.dfilp with
  | .opened =>
    match ← nextOutcome with
    | .crashes => .stop .crash
    | .fails error _ => .stop (.errno error)
    | .succeeds => updateFile fun file => file.extend length
  | _ => .stop .oops

/-- One page of zeros. The first page of the file holds the header. -/
def writeZeroPage (page : Nat) : CowM Unit := do
  fileWrite (page * blockWords) blockWords fun _ => 0
  if page = 0 then updateFile fun file => { file with header := CowHeader.zero } else pure ()

def writeZeroPages : Nat → Nat → CowM Unit
  | 0, _ => pure ()
  | count + 1, page => do
      writeZeroPage page
      writeZeroPages count (page + 1)

/-- `NUM_SEGMENTS(x, log_size)`. -/
def numSegments (x logSize : Nat) : Nat := (x + 2 ^ logSize - 1) / 2 ^ logSize

/-- `file_allocate` from offset 0, as its only caller passes it: `fallocate`, or
pages of zeros where the file system does not support it. -/
def fileAllocate (length : Nat) : CowM Unit :=
  (tryRealFallocate length).handle fun reason =>
    match reason with
    | .errno .eopnotsupp => do
        allocate
        writeZeroPages (numSegments length pageShift) 0
    | reason => .stop reason

/-- `file_unlink`. Its callers ignore an error. -/
def fileUnlink : CowM Unit := do
  let cm ← getCm
  match cm.dfilp with
  | .opened =>
    match ← nextOutcome with
    | .crashes => .stop .crash
    | .fails _ _ => pure ()
    | .succeeds => .update fun state => { state with file := none }
  | _ => .stop .oops

/-- `__close_and_destroy_moocbt_cow_file` and the reset of the handle after it. -/
def closeAndDestroyMoocbtCowFile : CowM Unit := do
  let cm ← getCm
  if cm.dfilp = .errPtr then .stop .oops
  else updateCm fun cm => { cm with dfilp := .null }

/-- `__open_moocbt_cow_file`: `filp_open`, with `create` for `O_CREAT | O_TRUNC`,
then the wrapper, whose failure leaves an `ERR_PTR` in the handle. -/
def openMoocbtCowFile (create : Bool) : CowM Unit := do
  match ← nextOutcome with
  | .crashes => .stop .crash
  | .fails error _ => .stop (.errno error)
  | .succeeds => do
      let state ← .read
      if create then .update fun state => { state with file := some CowFile.empty }
      else if state.file.isSome then pure ()
      else .stop (.errno .enoent)
      match ← nextOutcome with
      | .crashes => .stop .crash
      | .fails _ _ => do
          updateCm fun cm => { cm with dfilp := .errPtr }
          .stop (.errno .enomem)
      | .succeeds => updateCm fun cm => { cm with dfilp := .opened }

end Moocbt.Cow
