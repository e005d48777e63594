import Moocbt.Driver.Tracer

/-! The handlers of `ioctl_handlers.c`, the mount hooks of `bdev_state_handler.c` and
`ftrace_hooking.c`, and the events that reach the driver one after the other. -/

namespace Moocbt.Driver

open Cow (CowFile Errno Outcome Stop)
open Program (when)

/-- The three modes of `__verify_minor`. -/
inductive MinorCheck where
  | available
  | inUseNotBusy
  | inUse
  deriving DecidableEq, Repr

def verifyMinor (machine : Machine) (minor : Nat) (check : MinorCheck) : KernelM Unit := do
  let kernel ← .read
  if machine.maxSnapDevices ≤ minor then .stop (.errno .einval)
  else
    match kernel.snapDevices minor with
    | none => if check = .available then pure () else .stop (.errno .enoent)
    | some dev =>
        match check with
        | .available => .stop (.errno ebusy)
        | .inUse => pure ()
        | .inUseNotBusy => do
            let device ← getDev dev
            if device.sdRefs ≠ 0 then .stop (.errno ebusy) else pure ()

/-- `__verify_bdev_writable`. -/
def verifyBdevWritable (machine : Machine) (bdevPath : Nat) : KernelM Bool := do
  attempt .verifyBdev
  let kernel ← .read
  pure (decide (kernel.mounted (machine.bdevAt bdevPath) = .writable))

/-- The device in the slot of a minor that was verified to be in use. -/
def slotDev (minor : Nat) : KernelM Address := do
  let kernel ← .read
  deref (kernel.snapDevices minor)

def ioctlSetupSnap (machine : Machine) (minor bdevPath : Nat) (cowPath : CowPath)
    (fallocatedSpace cacheSize : Nat) (uuid : BitVec 128) : KernelM Unit := do
  verifyMinor machine minor .available
  let isMounted ← verifyBdevWritable machine bdevPath
  when (!isMounted) (.stop (.errno .einval))
  let dev ← tracerAlloc
  unwinding
    (tracerSetupActiveSnap machine dev minor bdevPath cowPath fallocatedSpace cacheSize uuid)
    fun _ => kfreeDev dev

/-- `ioctl_reload_snap` and `ioctl_reload_inc`. -/
def ioctlReload (machine : Machine) (minor bdevPath relPath cacheSize : Nat) (isSnap : Bool) :
    KernelM Unit := do
  verifyMinor machine minor .available
  let isMounted ← verifyBdevWritable machine bdevPath
  when isMounted (.stop (.errno .einval))
  let dev ← tracerAlloc
  unwinding (tracerSetupUnverified machine dev minor bdevPath relPath cacheSize isSnap) fun _ =>
    kfreeDev dev

def ioctlDestroy (machine : Machine) (minor : Nat) : KernelM Unit := do
  verifyMinor machine minor .inUseNotBusy
  let dev ← slotDev minor
  tracerDestroy machine dev
  kfreeDev dev

/-- What both transitions check of a device: no fail code, active, and in this mode. -/
def verifyActive (dev : Address) (isSnap : Bool) : KernelM Unit := do
  let device ← getDev dev
  if device.sdFailCode.isSome then .stop (.errno .einval)
  else if device.snapshot ≠ isSnap ∨ device.active = false then .stop (.errno .einval)
  else pure ()

def ioctlTransitionInc (machine : Machine) (minor : Nat) : KernelM Unit := do
  verifyMinor machine minor .inUseNotBusy
  let dev ← slotDev minor
  verifyActive dev true
  tracerActiveSnapToInc machine dev

def ioctlTransitionSnap (machine : Machine) (minor : Nat) (cowPath : CowPath)
    (fallocatedSpace : Nat) : KernelM Unit := do
  verifyMinor machine minor .inUseNotBusy
  let dev ← slotDev minor
  verifyActive dev false
  tracerActiveIncToSnap machine dev cowPath fallocatedSpace

def ioctlReconfigure (machine : Machine) (minor cacheSize : Nat) : KernelM Unit := do
  verifyMinor machine minor .inUseNotBusy
  let dev ← slotDev minor
  let device ← getDev dev
  if device.sdFailCode.isSome then .stop (.errno .einval)
  else tracerReconfigure machine dev cacheSize

def ioctlMoocbtInfo (machine : Machine) (minor : Nat) : KernelM MoocbtInfo := do
  verifyMinor machine minor .inUse
  let dev ← slotDev minor
  tracerMoocbtInfo machine dev

/-- `snap_open` and `snap_release`, for a device with a snapshot disk. -/
def snapRefs (minor : Nat) (change : Nat → Nat) : KernelM Unit := do
  let dev ← slotDev minor
  let device ← getDev dev
  if device.sdGd then setDev dev fun device => { device with sdRefs := change device.sdRefs }
  else .stop (.errno .enoent)

def autoTransitionDormant (minor : Nat) : KernelM Unit := do
  let dev ← slotDev minor
  tracerActiveToDormant dev

def autoTransitionActive (machine : Machine) (minor mountBdev : Nat) : KernelM Unit := do
  let dev ← slotDev minor
  let device ← getDev dev
  if device.unverified then tracerUnverifiedToActive machine dev mountBdev device.snapshot
  else tracerDormantToActive machine dev mountBdev

/-- `__handle_bdev_mount_nowrite`, for a mount of `bdev`; `throughMount` says whether the COW
file of the device on it was opened through that mount. The result is the minor it moved. -/
def handleBdevMountNowrite (bdev : Nat) (throughMount : Bool) : KernelM (Option Nat) := do
  attempt .kernPath
  let kernel ← .read
  let found ← tracerForEach fun _ device =>
    if !device.active || device.sdFailCode.isSome || decide (device.sdBaseDev ≠ some bdev) then
      pure false
    else
      match device.sdCow with
      | none => pure false
      | some cow => do
          let object ← deref (kernel.cows cow)
          pure (decide (object.cm.dfilp = .opened) && throughMount)
  match found with
  | none => pure none
  | some (minor, _) => do
      autoTransitionDormant minor
      pure (some minor)

/-- `__handle_bdev_mount_writable`, after a mount of `bdev`. -/
def handleBdevMountWritable (machine : Machine) (bdev : Nat) : KernelM Unit := do
  attempt .kernPath
  let kernel ← .read
  let found ← tracerForEach fun minor device =>
    if device.active || device.sdFailCode.isSome then pure false
    else if device.unverified then
      match kernel.faults (.mountBdev minor) with
      | some _ => pure false
      | none => do
          let bdevPath ← deref device.sdBdevPath
          pure (decide (machine.bdevAt bdevPath = bdev))
    else pure (decide (device.sdBaseDev = some bdev))
  match found with
  | none => pure ()
  | some (minor, _) => autoTransitionActive machine minor bdev

/-- `post_umount_check` where the system call failed. -/
def postUmountFailed (machine : Machine) (minor mountBdev : Nat) : KernelM Unit := do
  let dev ← slotDev minor
  let device ← getDev dev
  let _ ← deref device.sdBdevPath
  let kernel ← .read
  match kernel.faults .umountBdev with
  | some _ => tracerSetFailState dev enodev
  | none => autoTransitionActive machine minor mountBdev

/-- `post_umount_check` where it succeeded, after it gave the table back. -/
def postUmountUnlocked (dev : Option Address) : KernelM Unit := do
  let dev ← deref dev
  let device ← getDev dev
  let bdev ← deref device.sdBaseDev
  let kernel ← .read
  when (kernel.mounted bdev = .writable) (tracerSetFailState dev .eio)

/-- `post_umount_check`; there is nothing to do when no device was moved. -/
def postUmountCheck (machine : Machine) (moved : Option Nat) (mountBdev : Nat)
    (umountFailed : Bool) : KernelM Unit :=
  match moved with
  | none => pure ()
  | some minor =>
      if umountFailed then postUmountFailed machine minor mountBdev
      else do
        let kernel ← .read
        postUmountUnlocked (kernel.snapDevices minor)

/-- What the original system call does: it fails, or leaves this much mounted. -/
abbrev SysResult := Option Mounted

def SysResult.apply (result : SysResult) (bdev : Nat) : KernelM Unit :=
  match result with
  | none => pure ()
  | some mounted =>
      .update fun kernel => { kernel with mounted := Function.update kernel.mounted bdev mounted }

/-- `ftrace_path_umount`, and a read-only remount. An error of the hook leaves nothing moved. -/
def umount (machine : Machine) (bdev : Nat) (throughMount : Bool) (result : SysResult) :
    KernelM Unit := do
  let moved ← (handleBdevMountNowrite bdev throughMount).handle fun reason =>
    match reason with
    | .errno _ => pure none
    | reason => .stop reason
  result.apply bdev
  postUmountCheck machine moved bdev result.isNone

/-- A mount or remount for writing. -/
def mount (machine : Machine) (bdev : Nat) (result : SysResult) : KernelM Unit := do
  result.apply bdev
  when result.isSome (ignoring (handleBdevMountWritable machine bdev))

/-- The COW thread of a device takes the next bio or sector set. -/
def cowThreadStep (minor : Nat) : KernelM Unit := do
  let dev ← slotDev minor
  let device ← getDev dev
  match device.sdPending with
  | [] => pure ()
  | job :: rest =>
      when device.sdCowThread do
        setDev dev fun device => { device with sdPending := rest }
        drain dev [job]

/-- A write to `bdev` that a device traces queues its jobs. -/
def traceWrite (bdev : Nat) (jobs : List Job) : KernelM Unit := do
  let found ← tracerForEach fun _ device =>
    if device.unverified || device.sdActive = 0 || decide (device.sdBaseDev ≠ some bdev) then pure false
    else pure device.sdFailCode.isNone
  match found with
  | none => pure ()
  | some (_, dev) => setDev dev fun device => { device with sdPending := device.sdPending ++ jobs }

inductive Event where
  | setupSnap (minor bdevPath : Nat) (cowPath : CowPath) (fallocatedSpace cacheSize : Nat)
      (uuid : BitVec 128)
  | reload (minor bdevPath relPath cacheSize : Nat) (isSnap : Bool)
  | destroy (minor : Nat)
  | transitionInc (minor : Nat)
  | transitionSnap (minor : Nat) (cowPath : CowPath) (fallocatedSpace : Nat)
  | reconfigure (minor cacheSize : Nat)
  | openSnap (minor : Nat)
  | releaseSnap (minor : Nat)
  | umount (bdev : Nat) (throughMount : Bool) (result : SysResult)
  | mount (bdev : Nat) (result : SysResult)
  | mountReadOnly (bdev : Nat)
  | write (bdev : Nat) (jobs : List Job)
  | work (minor : Nat)
  | reboot

/-- A read-only mount is none of the driver's business; it takes a block device that is not
mounted. -/
def mountReadOnly (bdev : Nat) : KernelM Unit := do
  let kernel ← .read
  when (kernel.mounted bdev = .unmounted) (SysResult.apply (some .readOnly) bdev)

def Event.program (machine : Machine) : Event → KernelM Unit
  | setupSnap minor bdevPath cowPath fallocatedSpace cacheSize uuid =>
      ioctlSetupSnap machine minor bdevPath cowPath fallocatedSpace cacheSize uuid
  | reload minor bdevPath relPath cacheSize isSnap =>
      ioctlReload machine minor bdevPath relPath cacheSize isSnap
  | destroy minor => ioctlDestroy machine minor
  | transitionInc minor => ioctlTransitionInc machine minor
  | transitionSnap minor cowPath fallocatedSpace =>
      ioctlTransitionSnap machine minor cowPath fallocatedSpace
  | reconfigure minor cacheSize => ioctlReconfigure machine minor cacheSize
  | openSnap minor => snapRefs minor (· + 1)
  | releaseSnap minor => snapRefs minor (· - 1)
  | umount bdev throughMount result => Driver.umount machine bdev throughMount result
  | mount bdev result => Driver.mount machine bdev result
  | mountReadOnly bdev => Driver.mountReadOnly bdev
  | write bdev jobs => traceWrite bdev jobs
  | work minor => cowThreadStep minor
  | reboot => .stop .crash

/-- An event with what becomes of the calls it makes. -/
structure Call where
  event : Event
  faults : Step → Option Errno
  outcomes : List Outcome

/-- What is left when the machine goes down: the files. -/
def Kernel.reboot (kernel : Kernel) (machine : Machine) : Kernel := machine.boot kernel.files

/-- The state a program leaves; after an oops or a crash the machine starts again. -/
def Kernel.settle (machine : Machine) : Except Stop Unit × Kernel → Kernel
  | (.ok (), after) => after
  | (.error (.errno _), after) => after
  | (.error _, after) => after.reboot machine

def Kernel.prepare (kernel : Kernel) (call : Call) : Kernel :=
  { kernel with faults := call.faults, outcomes := call.outcomes }

def Kernel.step (machine : Machine) (kernel : Kernel) (call : Call) : Option Kernel :=
  some (Kernel.settle machine (call.event.program machine (kernel.prepare call)))

end Moocbt.Driver
