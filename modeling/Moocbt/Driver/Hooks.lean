import Moocbt.Driver.Kernel

/-! How a device starts and stops tracing: `callback_refs.c` and the part of `tracer.c` that
changes the table of devices and the entry points of the disks. -/

namespace Moocbt.Driver

open Cow (Errno Stop)
open Program (when)

def Kernel.disk (kernel : Kernel) (machine : Machine) (bdev : Nat) : Gendisk :=
  kernel.disks (machine.bdDisk bdev)

def setDisk (disk : Nat) (change : Gendisk → Gendisk) : KernelM Unit :=
  .update fun kernel =>
    { kernel with disks := Function.update kernel.disks disk (change (kernel.disks disk)) }

def setSlot (minor : Nat) (dev : Option Address) : KernelM Unit :=
  .update fun kernel => { kernel with snapDevices := Function.update kernel.snapDevices minor dev }

/-- Minors in use among the first `count`, from the lowest on. -/
def Kernel.used (kernel : Kernel) (count : Nat) : List Nat :=
  (List.range count).filter fun minor => (kernel.snapDevices minor).isSome

def minorRangeRecalculate (machine : Machine) : KernelM Unit :=
  .update fun kernel =>
    let used := kernel.used machine.maxSnapDevices
    { kernel with
      lowestMinor := min (used.headD (machine.maxSnapDevices - 1)) (machine.maxSnapDevices - 1)
      highestMinor := used.getLastD 0 }

def minorRangeInclude (minor : Nat) : KernelM Unit :=
  .update fun kernel =>
    { kernel with
      lowestMinor := min minor kernel.lowestMinor
      highestMinor := max minor kernel.highestMinor }

def mrfGet (disk : Nat) (fn : Option RequestFn) : KernelM Unit := do
  let kernel ← .read
  match (kernel.disks disk).tracking with
  | none => do
      attempt .mrfTracking
      setDisk disk fun gendisk => { gendisk with tracking := some ⟨fn, 1⟩ }
  | some tracking =>
      setDisk disk fun gendisk =>
        { gendisk with tracking := some { tracking with count := tracking.count + 1 } }

/-- The `make_request_fn` to set, null for none. -/
def mrfPut (disk : Nat) : KernelM (Option RequestFn) := do
  let kernel ← .read
  match (kernel.disks disk).tracking with
  | none => pure none
  | some tracking =>
      if tracking.count - 1 = 0 then do
        setDisk disk fun gendisk => { gendisk with tracking := none }
        pure tracking.orig
      else do
        setDisk disk fun gendisk =>
          { gendisk with tracking := some { tracking with count := tracking.count - 1 } }
        pure (kernel.disks disk).makeRequestFn

def tracingOpsGet (trops : Option Address) : KernelM (Option Address) :=
  match trops with
  | none => pure none
  | some address => do
      let kernel ← .read
      let ops ← deref (kernel.tracingOps address)
      .update fun kernel =>
        { kernel with
          tracingOps :=
            Function.update kernel.tracingOps address (some { ops with refs := ops.refs + 1 }) }
      pure (some address)

def tracingOpsPut (address : Address) : KernelM Unit := do
  let kernel ← .read
  let ops ← deref (kernel.tracingOps address)
  if ops.refs - 1 = 0 then
    .update fun kernel =>
      { kernel with
        copies := Function.update kernel.copies ops.bdOps none
        tracingOps := Function.update kernel.tracingOps address none }
  else
    .update fun kernel =>
      { kernel with
        tracingOps :=
          Function.update kernel.tracingOps address (some { ops with refs := ops.refs - 1 }) }

def moocbtFreeRequestTrackingPtr (machine : Machine) (dev : Address) : KernelM Unit :=
  if machine.build = .makeRequest then setDev dev fun device => { device with sdOrigRequestFn := none }
  else do
    let device ← getDev dev
    match device.sdTracingOps with
    | none => pure ()
    | some trops => do
        tracingOpsPut trops
        setDev dev fun device => { device with sdTracingOps := none }

/-- `bdev_is_already_traced`. -/
def bdevIsAlreadyTraced (bdev : Nat) : KernelM Bool := do
  let found ← tracerForEach fun _ device =>
    if device.unverified then pure false
    else do
      let base ← deref device.sdBaseDev
      pure (decide (base = bdev))
  pure found.isSome

/-- `__try_freeze_bdev`. With `HAVE_FREEZE_SB` it tests the place of the answer instead of the
answer, and an error of the freeze is not seen. -/
def tryFreezeBdev (machine : Machine) (bdev : Nat) : KernelM Unit := do
  let kernel ← .read
  if kernel.mounted bdev = .unmounted then .stop (.errno .enoent)
  else if machine.freezeSb then pure ()
  else attempt .freeze

/-- Set the entry point of a disk; a null pointer leaves it. -/
def setRequestFn (machine : Machine) (bdev : Nat) (fn : Option RequestFn) : KernelM Unit :=
  when fn.isSome
    (setDisk (machine.bdDisk bdev) fun gendisk => { gendisk with makeRequestFn := fn })

def setFops (machine : Machine) (bdev : Nat) (bdOps : Option OpsPtr) : KernelM Unit :=
  match bdOps with
  | none => pure ()
  | some ops => setDisk (machine.bdDisk bdev) fun gendisk => { gendisk with fops := ops }

def hookDisk (machine : Machine) (bdev : Nat) (fn : Option RequestFn) (bdOps : Option OpsPtr) :
    KernelM Unit :=
  match machine.build with
  | .hooked => pure ()
  | .makeRequest => setRequestFn machine bdev fn
  | .submitBio => setFops machine bdev bdOps

def unhookDisk (machine : Machine) (bdev : Nat) (bdOps : Option OpsPtr) : KernelM Unit :=
  match machine.build with
  | .hooked => pure ()
  | .makeRequest => do
      let fn ← mrfPut (machine.bdDisk bdev)
      setRequestFn machine bdev fn
  | .submitBio => setFops machine bdev bdOps

/-- The first branch of `__tracer_transition_tracing`, after the freeze. -/
def startTracing (machine : Machine) (dev : Address) (bdev : Nat) (fn : Option RequestFn)
    (bdOps : Option OpsPtr) (minor : Nat) : KernelM Unit := do
  setSlot minor (some dev)
  hookDisk machine bdev fn bdOps
  setDev dev fun device => { device with sdActive := device.sdActive + 1 }

/-- The second branch; it reads the device from its slot. -/
def stopTracing (machine : Machine) (bdev : Nat) (bdOps : Option OpsPtr) (minor : Nat) :
    KernelM Unit := do
  let kernel ← .read
  let slot ← deref (kernel.snapDevices minor)
  setDev slot fun device => { device with sdActive := device.sdActive - 1 }
  unhookDisk machine bdev bdOps
  setSlot minor none

/-- `__tracer_transition_tracing`. An error of the thaw is ignored. -/
def tracerTransitionTracing (machine : Machine) (dev : Address) (bdev : Nat)
    (fn : Option RequestFn) (bdOps : Option OpsPtr) (minor : Nat) (start : Bool) :
    KernelM Unit := do
  catching (tryFreezeBdev machine bdev) fun error =>
    if start then .stop (.errno error)
    else do
      let device ← getDev dev
      when (error ≠ .enoent ∧ device.sdFailCode = none) (.stop (.errno error))
  if start then startTracing machine dev bdev fn bdOps minor
  else stopTracing machine bdev bdOps minor

/-- What `moocbt_find_orig_mrf` takes from a queue that is not traced. -/
def Machine.origMrf (machine : Machine) (fn : Option RequestFn) : Option RequestFn :=
  if machine.blkMqMakeRequest then some (fn.getD .nullMrf) else fn

def moocbtFindOrigMrf (machine : Machine) (dev : Address) : KernelM Unit := do
  let kernel ← .read
  let device ← getDev dev
  let bdev ← deref device.sdBaseDev
  let fn := (kernel.disk machine bdev).makeRequestFn
  if fn ≠ some .tracingFn then
    setDev dev fun device => { device with sdOrigRequestFn := machine.origMrf fn }
  else do
    let found ← tracerForEach fun _ device =>
      if device.unverified then pure false
      else do
        let base ← deref device.sdBaseDev
        pure (decide (machine.bdDisk base = machine.bdDisk bdev))
    match found with
    | some (_, other) => do
        let traced ← getDev other
        setDev dev fun device => { device with sdOrigRequestFn := traced.sdOrigRequestFn }
    | none => do
        setDev dev fun device => { device with sdOrigRequestFn := none }
        .stop (.errno efault)

/-- The operations behind a pointer. -/
def Kernel.opsAt (kernel : Kernel) (machine : Machine) : OpsPtr → Option BlockDeviceOperations
  | .driver table => some (machine.operations table).table
  | .copy address => kernel.copies address

def findOrigBdops (machine : Machine) (dev : Address) : KernelM Unit := do
  let kernel ← .read
  let device ← getDev dev
  let bdev ← deref device.sdBaseDev
  let origOps := (kernel.disk machine bdev).fops
  let ops ← deref (kernel.opsAt machine origOps)
  setDev dev fun device => { device with sdTracingOps := none }
  if ops.submitBio ≠ some .tracingFn then
    setDev dev fun device =>
      { device with
        bdOps := some origOps
        sdOrigRequestFn := some (ops.submitBio.getD .nullMrf) }
  else do
    let found ← tracerForEach fun _ device =>
      if device.unverified then pure false
      else do
        let base ← deref device.sdBaseDev
        pure (decide ((kernel.disk machine base).fops = origOps))
    match found with
    | some (_, other) => do
        let traced ← getDev other
        let trops ← tracingOpsGet traced.sdTracingOps
        setDev dev fun device =>
          { device with
            bdOps := traced.bdOps
            sdOrigRequestFn := traced.sdOrigRequestFn
            sdTracingOps := trops }
    | none => do
        setDev dev fun device => { device with bdOps := none, sdOrigRequestFn := none }
        .stop (.errno efault)

def tracerAllocOps (machine : Machine) (dev : Address) : KernelM Unit := do
  attempt .tracingOps
  let trops ← kzalloc
  let copy ← kzalloc
  let kernel ← .read
  let device ← getDev dev
  let bdev ← deref device.sdBaseDev
  let ops ← deref (kernel.opsAt machine (kernel.disk machine bdev).fops)
  .update fun kernel =>
    { kernel with
      copies := Function.update kernel.copies copy
        (some (if machine.build = .submitBio then { ops with submitBio := some .tracingFn } else ops))
      tracingOps := Function.update kernel.tracingOps trops (some ⟨copy, 1⟩) }
  setDev dev fun device => { device with sdTracingOps := some trops }

/-- `__tracer_should_reset_mrf`. -/
def tracerShouldResetMrf (machine : Machine) (dev : Address) : KernelM Bool := do
  let kernel ← .read
  let device ← getDev dev
  let bdev ← deref device.sdBaseDev
  if machine.build = .makeRequest ∧
      (kernel.disk machine bdev).makeRequestFn ≠ some .tracingFn then pure false
  else do
    let found ← tracerForEach fun minor device =>
      if device.unverified || decide (kernel.snapDevices minor = some dev) then pure false
      else do
        let base ← deref device.sdBaseDev
        if machine.build = .makeRequest then
          pure (decide (machine.bdDisk base = machine.bdDisk bdev))
        else pure (decide ((kernel.disk machine base).fops = (kernel.disk machine bdev).fops))
    pure found.isNone

/-- A COW thread that finds the device failed frees the members of its manager. That they are
freed at each look, not at the first, makes no difference: the second time there are none. -/
def cleanUpCow (dev : Address) : KernelM Unit := do
  let device ← getDev dev
  when device.sdFailCode.isSome do
    match device.sdCow with
    | none => pure ()
    | some cow => runCow cow Cow.cowFreeMembers

/-- The bios and sector sets still queued when a COW thread is stopped. One that finds the
device failed drops them. -/
def drain (dev : Address) : List Job → KernelM Unit
  | [] => pure ()
  | job :: rest => do
      cleanUpCow dev
      let device ← getDev dev
      when (device.sdFailCode = none) do
        let cow ← deref device.sdCow
        catching (runCow cow job.program) (tracerSetFailState dev)
      drain dev rest

/-- What a COW thread does that is told to stop: one that waits looks at the fail state once more,
also when there is nothing queued. -/
def finishCow (dev : Address) : List Job → KernelM Unit
  | [] => cleanUpCow dev
  | jobs => drain dev jobs

def tracerDestroyCowThread (dev : Address) : KernelM Unit := do
  let device ← getDev dev
  when device.sdCowThread do
    finishCow dev device.sdPending
    setDev dev fun device => { device with sdPending := [], sdCowThread := false }

def tracerSetupCowThread (step : Step) (dev : Address) : KernelM Unit := do
  attempt step
  setDev dev fun device => { device with sdCowThread := true }

def wakeUpCowThread (dev : Address) : KernelM Unit := do
  let device ← getDev dev
  if device.sdCowThread then pure () else .stop .oops

/-- The first branch of `__tracer_destroy_tracing`. -/
def stopDevice (machine : Machine) (dev : Address) (device : SnapDevice) : KernelM Unit := do
  let bdev ← deref device.sdBaseDev
  let reset ← tracerShouldResetMrf machine dev
  when (reset && !device.active) do
    ignoring (tracerSetupCowThread .flushThread dev)
    wakeUpCowThread dev
    tracerDestroyCowThread dev
  ignoring (tracerTransitionTracing machine dev bdev
    (if reset then device.sdOrigRequestFn else none) (if reset then device.bdOps else none)
    device.sdMinor false)
  moocbtFreeRequestTrackingPtr machine dev

/-- The second one, for a device that does not trace. -/
def vacateSlot (dev : Address) (device : SnapDevice) : KernelM Unit := do
  let kernel ← .read
  when (kernel.snapDevices device.sdMinor = some dev) (setSlot device.sdMinor none)

def leaveTable (machine : Machine) (dev : Address) (device : SnapDevice) : KernelM Unit :=
  if device.sdOrigRequestFn.isSome then stopDevice machine dev device else vacateSlot dev device

/-- `__tracer_destroy_tracing`. -/
def tracerDestroyTracing (machine : Machine) (dev : Address) : KernelM Unit := do
  let device ← getDev dev
  leaveTable machine dev device
  setDev dev fun device => { device with sdMinor := 0 }
  minorRangeRecalculate machine

def tracerSetupTracingUnverified (dev : Address) (minor : Nat) : KernelM Unit := do
  minorRangeInclude minor
  setDev dev fun device => { device with sdMinor := minor }
  setSlot minor (some dev)

/-- `__tracer_setup_tracing` between its first lines and its error path. -/
def injectTracing (machine : Machine) (dev : Address) (minor : Nat) : KernelM Unit := do
  let device ← getDev dev
  let bdev ← deref device.sdBaseDev
  if machine.build = .makeRequest then do
    moocbtFindOrigMrf machine dev
    tracerTransitionTracing machine dev bdev (some .tracingFn) none minor true
  else if device.sdTracingOps.isNone then do
    findOrigBdops machine dev
    let found ← getDev dev
    when found.sdTracingOps.isNone (tracerAllocOps machine dev)
    let kernel ← .read
    let device ← getDev dev
    let trops ← deref device.sdTracingOps
    let ops ← deref (kernel.tracingOps trops)
    tracerTransitionTracing machine dev bdev none (some (.copy ops.bdOps)) minor true
  else pure ()

def tracerSetupTracing (machine : Machine) (dev : Address) (minor : Nat) : KernelM Unit := do
  setDev dev fun device => { device with sdMinor := minor }
  minorRangeInclude minor
  unwinding (injectTracing machine dev minor) fun _ => do
    setDev dev fun device => { device with sdMinor := 0, sdOrigRequestFn := none }
    minorRangeRecalculate machine

end Moocbt.Driver
