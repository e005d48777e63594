import Moocbt.Cow.Manager

/-! What the control paths of the driver work on: the table of devices, the devices and COW
managers in memory, the disks, and the file systems with their COW files. -/

namespace Moocbt.Driver

open Cow (CowFile CowManager CowM CowState Errno Outcome Stop)

/-- An address `kmalloc` returned. -/
abbrev Address := Nat

/-- A COW file: the block device of its file system, and its path there. -/
structure CowPath where
  bdev : Nat
  relPath : Nat
  deriving DecidableEq, Repr

/-- Where the driver hooks in: at the `make_request_fn` of a queue, at the `submit_bio` of a
disk (`USE_BDOPS_SUBMIT_BIO`), or at a kernel function (`USE_HOOK_TRACER`). -/
inductive Build where
  | makeRequest
  | submitBio
  | hooked
  deriving DecidableEq, Repr

/-- A `make_request_fn` or `submit_bio`. -/
inductive RequestFn where
  | driver (fn : Nat)
  | tracingFn
  | nullMrf
  deriving DecidableEq, Repr

/-- `struct block_device_operations`; `rest` stands for all but `submit_bio`. -/
structure BlockDeviceOperations where
  submitBio : Option RequestFn
  rest : Nat
  deriving DecidableEq, Repr

/-- The table of a disk driver. -/
structure DriverOperations where
  submitBio : Option Nat
  rest : Nat

def DriverOperations.table (operations : DriverOperations) : BlockDeviceOperations :=
  ⟨operations.submitBio.map .driver, operations.rest⟩

inductive OpsPtr where
  | driver (table : Nat)
  | copy (address : Address)
  deriving DecidableEq, Repr

/-- `struct tracing_ops`. -/
structure TracingOps where
  bdOps : Address
  refs : Nat
  deriving DecidableEq, Repr

/-- `struct mrf_tracking_data` of a disk. -/
structure MrfTracking where
  orig : Option RequestFn
  count : Nat
  deriving DecidableEq, Repr

/-- A disk: its operations, the `make_request_fn` of its queue, and the entry of
`mrf_tracking_map`. -/
structure Gendisk where
  fops : OpsPtr
  makeRequestFn : Option RequestFn
  tracking : Option MrfTracking
  deriving DecidableEq, Repr

/-- What does not change: how the driver is built, its parameters, the block devices (by path,
with their disk and their size in sectors) and the disk drivers. `freezeSb` and
`blkMqMakeRequest` stand for `HAVE_FREEZE_SB` and `HAVE_BLK_MQ_MAKE_REQUEST`. -/
structure Machine where
  build : Build
  freezeSb : Bool
  blkMqMakeRequest : Bool
  maxSnapDevices : Nat
  cowMaxMemoryDefault : Nat
  cowFallocatePercentageDefault : Nat
  bdevAt : Nat → Nat
  bdDisk : Nat → Nat
  bdevSize : Nat → Nat
  makeRequestFn : Nat → Option Nat
  fops : Nat → Nat
  operations : Nat → DriverOperations

/-- A call that can fail. `strayCowPath` is none: it says that the stack has no null pointer where
a `cow_path` that is never set lies. -/
inductive Step where
  | kernPath
  | verifyBdev
  | tracerAlloc
  | baseBdev
  | bdDisk
  | absolutePath
  | concatPath
  | cowPath
  | mrfTracking
  | bioset
  | allocDisk
  | allocQueue
  | mrfThread
  | addDisk
  | cowThread
  | tracingOps
  | freeze
  | flushThread
  | copyBdevPath
  | copyCowPath
  | mountBdev (minor : Nat)
  | umountBdev
  | strayCowPath
  deriving DecidableEq, Repr

/-- What a queued bio or sector set has the COW thread do. -/
inductive Job where
  | mark (block : Nat)
  | capture (block : Nat) (data : Nat → Nat)

def Job.program : Job → CowM Unit
  | mark block => Cow.cowWriteFillerMapping block
  | capture block data => Cow.cowWriteCurrent block data

/-- `struct snap_device`. The bits of `sd_state` are fields. -/
structure SnapDevice where
  sdMinor : Nat
  snapshot : Bool
  active : Bool
  unverified : Bool
  sdFallocSize : Nat
  sdCacheSize : Nat
  sdRefs : Nat
  sdFailCode : Option Errno
  sdActive : Nat
  sdSize : Nat
  sdGd : Bool
  sdBaseDev : Option Nat
  sdBdevPath : Option Nat
  sdCow : Option Address
  sdCowPath : Option Nat
  sdOrigRequestFn : Option RequestFn
  sdCowThread : Bool
  sdMrfThread : Bool
  sdPending : List Job
  bdOps : Option OpsPtr
  sdTracingOps : Option Address

/-- A device as `kzalloc` and `__tracer_init` leave it. -/
def SnapDevice.zero : SnapDevice where
  sdMinor := 0
  snapshot := false
  active := false
  unverified := false
  sdFallocSize := 0
  sdCacheSize := 0
  sdRefs := 0
  sdFailCode := none
  sdActive := 0
  sdSize := 0
  sdGd := false
  sdBaseDev := none
  sdBdevPath := none
  sdCow := none
  sdCowPath := none
  sdOrigRequestFn := none
  sdCowThread := false
  sdMrfThread := false
  sdPending := []
  bdOps := none
  sdTracingOps := none

/-- A COW manager in memory, with the file it has open or had open last. -/
structure CowObject where
  cm : CowManager
  path : CowPath

/-- The file system on a block device. -/
inductive Mounted where
  | unmounted
  | readOnly
  | writable
  deriving DecidableEq, Repr

/-- The machine while it runs. `cowDev` is the device a COW manager points back to. `immutable`
is the inode flag that is set while a manager has the file open; `faults` and `outcomes` are
what becomes of the calls of the current event. -/
structure Kernel where
  snapDevices : Nat → Option Address
  lowestMinor : Nat
  highestMinor : Nat
  devices : Address → Option SnapDevice
  cows : Address → Option CowObject
  cowDev : Address → Option Address
  files : CowPath → Option CowFile
  immutable : CowPath → Bool
  disks : Nat → Gendisk
  copies : Address → Option BlockDeviceOperations
  tracingOps : Address → Option TracingOps
  mounted : Nat → Mounted
  fresh : Address
  faults : Step → Option Errno
  outcomes : List Outcome

/-- A disk as its driver sets it up. -/
def Machine.gendisk (machine : Machine) (disk : Nat) : Gendisk :=
  ⟨.driver (machine.fops disk), (machine.makeRequestFn disk).map .driver, none⟩

/-- The machine after it was started: the driver has no devices and nothing is mounted. -/
def Machine.boot (machine : Machine) (files : CowPath → Option CowFile) : Kernel where
  snapDevices := fun _ => none
  lowestMinor := machine.maxSnapDevices - 1
  highestMinor := 0
  devices := fun _ => none
  cows := fun _ => none
  cowDev := fun _ => none
  files
  immutable := fun _ => false
  disks := machine.gendisk
  copies := fun _ => none
  tracingOps := fun _ => none
  mounted := fun _ => .unmounted
  fresh := 0
  faults := fun _ => none
  outcomes := []

abbrev KernelM (α : Type) := Program Stop Kernel α

/-- `-EBUSY`, `-EFAULT`, `-ENODEV` and `-EPERM`. -/
def ebusy : Errno := .other 16
def efault : Errno := .other 14
def enodev : Errno := .other 19
def eperm : Errno := .other 1

def attempt (step : Step) : KernelM Unit := do
  let kernel ← .read
  match kernel.faults step with
  | none => pure ()
  | some error => .stop (.errno error)

/-- Run `cleanup` when `program` returns an error code, and return that code. -/
def unwinding {α : Type} (program : KernelM α) (cleanup : Errno → KernelM Unit) : KernelM α :=
  program.handle fun reason =>
    match reason with
    | .errno error => do
        cleanup error
        .stop (.errno error)
    | reason => .stop reason

/-- Run `program` and go on with `handler` when it returns an error code. -/
def catching (program : KernelM Unit) (handler : Errno → KernelM Unit) : KernelM Unit :=
  program.handle fun reason =>
    match reason with
    | .errno error => handler error
    | reason => .stop reason

/-- Run `program`, whatever it returns. -/
def ignoring (program : KernelM Unit) : KernelM Unit := catching program fun _ => pure ()

/-- Run `program` and tell the error code it returns. -/
def returned (program : KernelM Unit) : KernelM (Option Errno) :=
  (do
    program
    pure none).handle fun reason =>
      match reason with
      | .errno error => pure (some error)
      | reason => .stop reason

/-- A device behind a pointer: an access to one that was freed is an oops. -/
def getDev (dev : Address) : KernelM SnapDevice := do
  let kernel ← .read
  match kernel.devices dev with
  | none => .stop .oops
  | some device => pure device

def Kernel.setDev (kernel : Kernel) (dev : Address) (device : SnapDevice) : Kernel :=
  { kernel with devices := Function.update kernel.devices dev (some device) }

def setDev (dev : Address) (change : SnapDevice → SnapDevice) : KernelM Unit := do
  let device ← getDev dev
  .update fun kernel => kernel.setDev dev (change device)

def kfreeDev (dev : Address) : KernelM Unit :=
  .update fun kernel => { kernel with devices := Function.update kernel.devices dev none }

/-- The next address. -/
def kzalloc : KernelM Address := do
  let kernel ← .read
  .update fun kernel => { kernel with fresh := kernel.fresh + 1 }
  pure kernel.fresh

/-- What is behind a pointer the code dereferences without a check. -/
def deref {α : Type} : Option α → KernelM α
  | none => .stop .oops
  | some value => pure value

/-- The state after a program of a manager: the inode of its file is immutable while the
manager has it open. -/
def Kernel.putCow (kernel : Kernel) (cow : Address) (object : CowObject) (after : CowState) :
    Kernel :=
  { kernel with
    cows := Function.update kernel.cows cow (some ⟨after.cm, object.path⟩)
    files := Function.update kernel.files object.path after.file
    immutable := Function.update kernel.immutable object.path
      (decide (after.cm.dfilp = .opened) ||
        (kernel.immutable object.path && decide (object.cm.dfilp ≠ .opened)))
    outcomes := after.outcomes }

/-- Run a program of the COW manager. -/
def runCow {α : Type} (cow : Address) (program : CowM α) : KernelM α := fun kernel =>
  match kernel.cows cow with
  | none => (.error .oops, kernel)
  | some object =>
      match program ⟨object.cm, kernel.files object.path, kernel.outcomes⟩ with
      | (result, after) => (result, kernel.putCow cow object after)

def kfreeCow (cow : Address) : KernelM Unit :=
  .update fun kernel => { kernel with cows := Function.update kernel.cows cow none }

def setCow (cow : Address) (object : CowObject) : KernelM Unit :=
  .update fun kernel => { kernel with cows := Function.update kernel.cows cow (some object) }

/-- `cm->dev`. -/
def setCowDev (cow : Address) (dev : Option Address) : KernelM Unit :=
  .update fun kernel => { kernel with cowDev := Function.update kernel.cowDev cow dev }

/-- `filp_open` for writing refuses an immutable inode, before it truncates it. -/
def opening (path : CowPath) (refused opened : KernelM Unit) : KernelM Unit := do
  let kernel ← .read
  if kernel.immutable path then refused else opened

/-- The minors `tracer_for_each` goes through. -/
def Kernel.minors (kernel : Kernel) : List Nat :=
  List.range' kernel.lowestMinor (kernel.highestMinor + 1 - kernel.lowestMinor)

/-- A walk over the devices of the table that ends at the first one the test accepts. -/
def findDev (test : Nat → SnapDevice → KernelM Bool) : List Nat → KernelM (Option (Nat × Address))
  | [] => pure none
  | minor :: rest => do
      let kernel ← .read
      match kernel.snapDevices minor with
      | none => findDev test rest
      | some dev => do
          let device ← getDev dev
          if ← test minor device then pure (some (minor, dev)) else findDev test rest

def tracerForEach (test : Nat → SnapDevice → KernelM Bool) : KernelM (Option (Nat × Address)) := do
  let kernel ← .read
  findDev test kernel.minors

/-- `tracer_set_fail_state`: the first code stays. -/
def tracerSetFailState (dev : Address) (error : Errno) : KernelM Unit :=
  setDev dev fun device => { device with sdFailCode := device.sdFailCode.orElse fun _ => some error }

end Moocbt.Driver
