import Moocbt.Driver.Hooks

/-! Setting up, tearing down and changing the mode and the state of a device: the rest of
`tracer.c`. -/

namespace Moocbt.Driver

open Cow (Errno Stop)
open Program (when)

/-- `sizeof(1 MB)` and what a 64-bit product keeps. -/
def megabyte : Nat := 1024 * 1024
def word64 : Nat := 2 ^ 64

def sectorSize : Nat := 512
def sectorsPerBlock : Nat := 8

/-- How `__tracer_destroy_cow` closes the file. -/
inductive CloseMethod where
  | free
  | syncAndFree
  | syncAndClose
  deriving DecidableEq, Repr

/-- How `__tracer_setup_cow` opens it. -/
inductive OpenMethod where
  | new (size fallocatedSpace cacheSize : Nat) (uuid : BitVec 128) (seqid : Nat)
  | reload (size cacheSize : Nat) (indexOnly : Bool)
  | reopen

def tracerAlloc : KernelM Address := do
  attempt .tracerAlloc
  let dev ← kzalloc
  .update fun kernel => kernel.setDev dev SnapDevice.zero
  pure dev

def cowFree (cow : Address) : KernelM Unit := do
  runCow cow Cow.cowFreeMembers
  kfreeCow cow

def cowSyncAndFree (cow : Address) : KernelM Unit := do
  unwinding (runCow cow Cow.cowSyncAndFree) fun _ => kfreeCow cow
  kfreeCow cow

/-- `__tracer_destroy_cow` where there is a manager. -/
def closeCow (dev : Address) (method : CloseMethod) : KernelM Unit := do
  let device ← getDev dev
  match device.sdCow with
  | none => pure ()
  | some cow =>
      match method with
      | .free => do
          cowFree cow
          setDev dev fun device => { device with sdCow := none }
      | .syncAndFree => do
          unwinding (cowSyncAndFree cow) fun _ =>
            setDev dev fun device => { device with sdCow := none }
          setDev dev fun device => { device with sdCow := none }
      | .syncAndClose => runCow cow Cow.cowSyncAndClose

def tracerDestroyCow (dev : Address) (method : CloseMethod) : KernelM Unit := do
  setDev dev fun device => { device with sdFallocSize := 0, sdCacheSize := 0 }
  closeCow dev method

/-- A manager for a file that is created or reloaded, and the device it points back to. A
failed one is freed. -/
def newCow (dev : Address) (path : CowPath) (owner : Option Address)
    (refused opened : Cow.CowM Unit) : KernelM Unit := do
  let cow ← kzalloc
  setCow cow ⟨Cow.CowManager.zero, path⟩
  setCowDev cow owner
  unwinding (opening path (runCow cow refused) (runCow cow opened)) fun _ => do
    kfreeCow cow
    setDev dev fun device => { device with sdCow := none }
  setDev dev fun device => { device with sdCow := some cow }

/-- A manager whose file cannot be opened. -/
def refusedCow : Cow.CowM Unit := do
  Cow.cowAllocManager
  .stop (.errno eperm)

def cowInit (dev : Address) (path : CowPath) (size cacheSize fileMax : Nat)
    (uuid : BitVec 128) (seqid : Nat) : KernelM Unit :=
  newCow dev path (some dev) refusedCow
    (Cow.cowInit (size / sectorsPerBlock) Cow.cowSectionSize cacheSize fileMax uuid seqid)

/-- `cow_reload`, which is not told the device. -/
def cowReload (dev : Address) (path : CowPath) (size cacheSize : Nat) (indexOnly : Bool) :
    KernelM Unit :=
  newCow dev path none refusedCow
    (Cow.cowReload (size / sectorsPerBlock) Cow.cowSectionSize cacheSize indexOnly)

/-- `cow_reopen`: its error path closes whatever the manager has open. -/
def cowReopen (cow : Address) (path : CowPath) : KernelM Unit := do
  let kernel ← .read
  let object ← deref (kernel.cows cow)
  opening path
    (runCow cow (Cow.onErrno (.stop (.errno eperm)) Cow.closeAndDestroyMoocbtCowFile))
    (do
      setCow cow ⟨object.cm, path⟩
      runCow cow Cow.cowReopen)

/-- The size of the file `__tracer_setup_cow` creates, in bytes. -/
def Machine.maxFileSize (machine : Machine) (size fallocatedSpace : Nat) : Nat :=
  if fallocatedSpace = 0 then
    size * sectorSize * machine.cowFallocatePercentageDefault % word64 / 100
  else fallocatedSpace * megabyte % word64

def Machine.cacheSize (machine : Machine) (cacheSize : Nat) : Nat :=
  if cacheSize = 0 then machine.cowMaxMemoryDefault else cacheSize

def openCow (machine : Machine) (dev : Address) (path : CowPath) : OpenMethod → KernelM Unit
  | .reopen => do
      let device ← getDev dev
      let cow ← deref device.sdCow
      cowReopen cow path
  | .new size fallocatedSpace cacheSize uuid seqid => do
      let fileMax := machine.maxFileSize size fallocatedSpace
      setDev dev fun device =>
        { device with
          sdCacheSize := machine.cacheSize cacheSize
          sdFallocSize := if fallocatedSpace = 0 then fileMax / megabyte else fallocatedSpace }
      cowInit dev path size (machine.cacheSize cacheSize) fileMax uuid seqid
  | .reload size cacheSize indexOnly => do
      setDev dev fun device => { device with sdCacheSize := machine.cacheSize cacheSize }
      cowReload dev path size (machine.cacheSize cacheSize) indexOnly
      let kernel ← .read
      let device ← getDev dev
      let cow ← deref device.sdCow
      let object ← deref (kernel.cows cow)
      setDev dev fun device => { device with sdFallocSize := object.cm.fileSize / megabyte }

/-- `file_is_on_bdev`. -/
def fileIsOnBdev (path : CowPath) (bdev : Nat) : KernelM Bool := do
  let kernel ← .read
  pure (decide (kernel.mounted bdev ≠ .unmounted) && decide (path.bdev = bdev))

/-- `__tracer_setup_cow`. -/
def tracerSetupCow (machine : Machine) (dev : Address) (bdev : Nat) (path : CowPath)
    (method : OpenMethod) : KernelM Unit :=
  unwinding
    (do
      openCow machine dev path method
      let onBdev ← fileIsOnBdev path bdev
      when (!onBdev) (.stop (.errno .einval)))
    fun _ =>
      match method with
      | .reopen => pure ()
      | _ => tracerDestroyCow dev .free

def tracerDestroyBaseDev (dev : Address) : KernelM Unit :=
  setDev dev fun device =>
    { device with sdSize := 0, sdBdevPath := none, sdBaseDev := none }

def tracerSetupBaseDev (machine : Machine) (dev : Address) (bdevPath : Nat) : KernelM Unit :=
  unwinding
    (do
      attempt .baseBdev
      let bdev := machine.bdevAt bdevPath
      setDev dev fun device => { device with sdBaseDev := some bdev }
      attempt .bdDisk
      let traced ← bdevIsAlreadyTraced bdev
      when traced (.stop (.errno .einval))
      attempt .absolutePath
      setDev dev fun device =>
        { device with sdBdevPath := some bdevPath, sdSize := machine.bdevSize bdev })
    fun _ => tracerDestroyBaseDev dev

def tracerCopyBaseDev (src : SnapDevice) (dest : Address) : KernelM Unit :=
  setDev dest fun device =>
    { device with sdSize := src.sdSize, sdBaseDev := src.sdBaseDev, sdBdevPath := src.sdBdevPath }

/-- `__tracer_copy_cow`: the manager, which both devices have then, points to the new one. -/
def tracerCopyCow (src : SnapDevice) (dest : Address) : KernelM Unit := do
  let cow ← deref src.sdCow
  setCowDev cow (some dest)
  setDev dest fun device =>
    { device with
      sdCow := src.sdCow
      sdCacheSize := src.sdCacheSize
      sdFallocSize := src.sdFallocSize }

def tracerDestroyCowPath (dev : Address) : KernelM Unit :=
  setDev dev fun device => { device with sdCowPath := none }

/-- `__tracer_setup_cow_path`: the path of the file relative to its mount point. -/
def tracerSetupCowPath (dev : Address) : KernelM Unit := do
  let kernel ← .read
  let device ← getDev dev
  let cow ← deref device.sdCow
  let object ← deref (kernel.cows cow)
  unwinding (attempt .cowPath) fun _ => tracerDestroyCowPath dev
  setDev dev fun device => { device with sdCowPath := some object.path.relPath }

def tracerCopyCowPath (src : SnapDevice) (dest : Address) : KernelM Unit :=
  setDev dest fun device => { device with sdCowPath := src.sdCowPath }

def tracerDestroySnap (dev : Address) : KernelM Unit :=
  setDev dev fun device => { device with sdMrfThread := false, sdGd := false }

/-- `__tracer_setup_snap`. -/
def tracerSetupSnap (dev : Address) : KernelM Unit :=
  unwinding
    (do
      attempt .bioset
      attempt .allocDisk
      setDev dev fun device => { device with sdGd := true }
      attempt .allocQueue
      attempt .mrfThread
      setDev dev fun device => { device with sdMrfThread := true }
      attempt .addDisk)
    fun _ => tracerDestroySnap dev

def tracerDestroy (machine : Machine) (dev : Address) : KernelM Unit := do
  tracerDestroyTracing machine dev
  tracerDestroyCowThread dev
  tracerDestroySnap dev
  tracerDestroyCowPath dev
  tracerDestroyCow dev .free
  tracerDestroyBaseDev dev

/-- `__tracer_setup_unverified`. -/
def tracerSetupUnverified (machine : Machine) (dev : Address) (minor bdevPath relPath : Nat)
    (cacheSize : Nat) (isSnap : Bool) : KernelM Unit := do
  setDev dev fun device =>
    { device with snapshot := isSnap, active := false, unverified := true, sdCacheSize := cacheSize }
  unwinding
    (do
      attempt .copyBdevPath
      setDev dev fun device => { device with sdBdevPath := some bdevPath }
      attempt .copyCowPath
      setDev dev fun device => { device with sdCowPath := some relPath })
    fun _ => do
      tracerDestroy machine dev
      .stop (.errno .enomem)
  tracerSetupTracingUnverified dev minor

/-- The legacy build keeps a reference to the original `make_request_fn`. -/
def retainMrf (machine : Machine) (dev : Address) : KernelM Unit :=
  when (machine.build = .makeRequest) do
    let kernel ← .read
    let device ← getDev dev
    let bdev ← deref device.sdBaseDev
    mrfGet (machine.bdDisk bdev) (kernel.disk machine bdev).makeRequestFn

/-- The end of the setup of a device that traces from then on. -/
def activate (machine : Machine) (dev : Address) (minor : Nat) (isSnap : Bool) : KernelM Unit := do
  tracerSetupCowPath dev
  retainMrf machine dev
  when isSnap (tracerSetupSnap dev)
  tracerSetupCowThread .cowThread dev
  wakeUpCowThread dev
  tracerSetupTracing machine dev minor

def tracerSetupActiveSnap (machine : Machine) (dev : Address) (minor bdevPath : Nat)
    (cowPath : CowPath) (fallocatedSpace cacheSize : Nat) (uuid : BitVec 128) : KernelM Unit := do
  setDev dev fun device => { device with snapshot := true, active := true, unverified := false }
  unwinding
    (do
      tracerSetupBaseDev machine dev bdevPath
      let device ← getDev dev
      let bdev ← deref device.sdBaseDev
      tracerSetupCow machine dev bdev cowPath
        (.new device.sdSize fallocatedSpace cacheSize uuid 1)
      activate machine dev minor true)
    fun _ => tracerDestroy machine dev

def tracerActiveSnapToInc (machine : Machine) (oldDev : Address) : KernelM Unit := do
  let dev ← tracerAlloc
  setDev dev fun device => { device with snapshot := false, active := true, unverified := false }
  let old ← getDev oldDev
  tracerCopyBaseDev old dev
  tracerCopyCowPath old dev
  tracerCopyCow old dev
  unwinding
    (do
      tracerSetupCowThread .cowThread dev
      setDev dev fun device => { device with sdOrigRequestFn := old.sdOrigRequestFn }
      tracerSetupTracing machine dev old.sdMinor)
    fun _ => do
      tracerDestroyCowThread dev
      kfreeDev dev
  tracerDestroyCowThread oldDev
  let stopped ← getDev oldDev
  match stopped.sdFailCode with
  | some error => do
      tracerSetFailState dev error
      wakeUpCowThread dev
      tracerDestroySnap oldDev
      kfreeDev oldDev
      .stop (.errno error)
  | none => do
      wakeUpCowThread dev
      let device ← getDev dev
      let cow ← deref device.sdCow
      ignoring (runCow cow Cow.cowTruncateToIndex)
      tracerDestroySnap oldDev
      kfreeDev oldDev

def tracerActiveIncToSnap (machine : Machine) (oldDev : Address) (cowPath : CowPath)
    (fallocatedSpace : Nat) : KernelM Unit := do
  let dev ← tracerAlloc
  setDev dev fun device => { device with snapshot := true, active := true, unverified := false }
  let kernel ← .read
  let old ← getDev oldDev
  let oldCow ← deref old.sdCow
  let oldObject ← deref (kernel.cows oldCow)
  tracerCopyBaseDev old dev
  unwinding
    (do
      let device ← getDev dev
      let bdev ← deref device.sdBaseDev
      tracerSetupCow machine dev bdev cowPath
        (.new device.sdSize (if fallocatedSpace = 0 then old.sdFallocSize else fallocatedSpace)
          device.sdCacheSize oldObject.cm.uuid ((oldObject.cm.seqid + 1) % word64))
      tracerSetupCowPath dev
      tracerSetupSnap dev
      tracerSetupCowThread .cowThread dev
      setDev dev fun device => { device with sdOrigRequestFn := old.sdOrigRequestFn }
      tracerSetupTracing machine dev old.sdMinor)
    fun _ => do
      tracerDestroyCowThread dev
      tracerDestroySnap dev
      tracerDestroyCowPath dev
      tracerDestroyCow dev .free
      kfreeDev dev
  tracerDestroyCowThread oldDev
  wakeUpCowThread dev
  tracerDestroyCowPath oldDev
  ignoring (tracerDestroyCow oldDev .syncAndFree)
  kfreeDev oldDev

def tracerReconfigure (machine : Machine) (dev : Address) (cacheSize : Nat) : KernelM Unit := do
  setDev dev fun device => { device with sdCacheSize := cacheSize }
  let device ← getDev dev
  when device.active do
    let cow ← deref device.sdCow
    runCow cow (Cow.cowModifyCacheSize (machine.cacheSize cacheSize))

/-- `struct moocbt_info`. -/
structure MoocbtInfo where
  minor : Nat
  snapshot : Bool
  active : Bool
  unverified : Bool
  error : Option Errno
  cacheSize : Nat
  fallocSize : Nat
  seqid : Nat
  uuid : BitVec 128
  version : Nat
  nrChangedBlocks : Nat

def tracerMoocbtInfo (machine : Machine) (dev : Address) : KernelM MoocbtInfo := do
  let kernel ← .read
  let device ← getDev dev
  let info : MoocbtInfo :=
    ⟨device.sdMinor, device.snapshot, device.active, device.unverified, device.sdFailCode,
      machine.cacheSize device.sdCacheSize, 0, 0, 0#128, 0, 0⟩
  if device.unverified then pure info
  else do
    let cow ← deref device.sdCow
    let object ← deref (kernel.cows cow)
    pure
      { info with
        fallocSize := object.cm.fileSize
        seqid := object.cm.seqid
        uuid := object.cm.uuid
        version := object.cm.version
        nrChangedBlocks := object.cm.nrChangedBlocks }

/-- `__tracer_active_to_dormant`. -/
def tracerActiveToDormant (dev : Address) : KernelM Unit := do
  tracerDestroyCowThread dev
  catching
    (do
      tracerDestroyCow dev .syncAndClose
      setDev dev fun device => { device with active := false })
    (tracerSetFailState dev)

/-- The error path of `__tracer_unverified_snap_to_active` and `__tracer_unverified_inc_to_active`
up to its `kfree`s. -/
def unverify (machine : Machine) (dev : Address) (minor bdevPath relPath cacheSize : Nat)
    (isSnap : Bool) (error : Errno) : KernelM Unit := do
  tracerDestroy machine dev
  ignoring (tracerSetupUnverified machine dev minor bdevPath relPath cacheSize isSnap)
  tracerSetFailState dev error

/-- What they do once the base device is set up. -/
def verify (machine : Machine) (dev : Address) (minor mountBdev relPath : Nat) (isSnap : Bool) :
    KernelM Unit := do
  attempt .concatPath
  let device ← getDev dev
  let bdev ← deref device.sdBaseDev
  tracerSetupCow machine dev bdev ⟨mountBdev, relPath⟩
    (.reload device.sdSize device.sdCacheSize (!isSnap))
  activate machine dev minor isSnap

/-- `__tracer_unverified_snap_to_active` and `__tracer_unverified_inc_to_active`, for a mount
of `mountBdev`. Where the base device cannot be set up `cow_path` was not set yet, and the error
path frees what the stack had there when the function was entered. -/
def tracerUnverifiedToActive (machine : Machine) (dev : Address) (mountBdev : Nat)
    (isSnap : Bool) : KernelM Unit := do
  let entered ← .read
  let given ← getDev dev
  tracerDestroyTracing machine dev
  setDev dev fun device =>
    { device with active := true, unverified := false, sdBdevPath := none, sdCowPath := none }
  let bdevPath ← deref given.sdBdevPath
  let relPath ← deref given.sdCowPath
  let unbased ← returned (tracerSetupBaseDev machine dev bdevPath)
  match unbased with
  | some error => do
      unverify machine dev given.sdMinor bdevPath relPath given.sdCacheSize isSnap error
      when (entered.faults .strayCowPath).isSome (.stop .oops)
  | none =>
      catching (verify machine dev given.sdMinor mountBdev relPath isSnap)
        (unverify machine dev given.sdMinor bdevPath relPath given.sdCacheSize isSnap)

/-- `__tracer_dormant_to_active`, for a mount of `mountBdev`. -/
def tracerDormantToActive (machine : Machine) (dev : Address) (mountBdev : Nat) :
    KernelM Unit :=
  catching
    (do
      attempt .concatPath
      let device ← getDev dev
      let relPath ← deref device.sdCowPath
      let bdev ← deref device.sdBaseDev
      tracerSetupCow machine dev bdev ⟨mountBdev, relPath⟩ .reopen
      tracerSetupCowThread .cowThread dev
      wakeUpCowThread dev
      setDev dev fun device => { device with active := true, unverified := false })
    (tracerSetFailState dev)

end Moocbt.Driver
