import Moocbt.Driver.Frame

/-! What the steps by which a device starts and stops tracing leave alone. -/

namespace Moocbt.Driver

open Cow (CowFile Errno Outcome Stop)
open Program

theorem wp_unwinding_of {α : Type} {inv : Kernel → Prop} {program : KernelM α}
    {cleanup : Errno → KernelM Unit} {done : α → Kernel → Prop} {kernel : Kernel}
    (inner : wp program done (fun _ => inv) kernel)
    (cleans : ∀ error, Maintains inv (cleanup error)) :
    wp (unwinding program cleanup) done (fun _ => inv) kernel := by
  rw [wp_unwinding]
  apply wp_mono inner
  · exact fun _ _ => id
  · intro reason after holds
    cases reason with
    | errno error => exact cleans error after holds
    | oops => exact holds
    | crash => exact holds

theorem maintains_unwinding {α : Type} {inv : Kernel → Prop} {program : KernelM α}
    {cleanup : Errno → KernelM Unit} (inner : Maintains inv program)
    (cleans : ∀ error, Maintains inv (cleanup error)) :
    Maintains inv (unwinding program cleanup) :=
  fun kernel holds => wp_unwinding_of (inner kernel holds) cleans

theorem maintains_catching {inv : Kernel → Prop} {program : KernelM Unit}
    {handler : Errno → KernelM Unit} (inner : Maintains inv program)
    (handles : ∀ error, Maintains inv (handler error)) :
    Maintains inv (catching program handler) := by
  apply inner.handle
  intro reason
  cases reason with
  | errno error => exact handles error
  | oops => exact .stop _
  | crash => exact .stop _

/-- The part of the machine that tracing has nothing to do with. -/
structure Side where
  cows : Address → Option CowObject
  cowDev : Address → Option Address
  files : CowPath → Option CowFile
  immutable : CowPath → Bool
  mounted : Nat → Mounted
  faults : Step → Option Errno
  outcomes : List Outcome

def Kernel.side (kernel : Kernel) : Side :=
  ⟨kernel.cows, kernel.cowDev, kernel.files, kernel.immutable, kernel.mounted, kernel.faults,
    kernel.outcomes⟩

/-- A property that does not depend on the table, the disks and the copies of operations, nor on
more of the devices than their work, their managers, their fail codes and whether they are
verified. -/
structure Stable (inv : Kernel → Prop) : Prop where
  update : ∀ {before after : Kernel}, inv before → after.side = before.side →
    after.devices = before.devices → before.fresh ≤ after.fresh → inv after
  setDev : ∀ {kernel : Kernel} {dev : Address} {device device' : SnapDevice}, inv kernel →
    kernel.devices dev = some device → device'.sdPending = device.sdPending →
    device'.unverified = device.unverified → device'.sdCow = device.sdCow →
    device'.sdFailCode = device.sdFailCode → inv (kernel.setDev dev device')

variable {machine : Machine} {dev other : Address} {α : Type} {bdev minor : Nat}
  {inv : Kernel → Prop}

namespace Stable

theorem read : Maintains inv (Program.read : KernelM Kernel) := .read

theorem attempt (step : Step) : Maintains inv (Driver.attempt step) := by
  apply Maintains.bind .read
  intro kernel
  cases kernel.faults step with
  | none => exact .pure ()
  | some error => exact .stop _

theorem deref (pointer : Option α) : Maintains inv (Driver.deref pointer) := by
  cases pointer with
  | none => exact .stop _
  | some value => exact .pure value

theorem getDev (other : Address) : Maintains inv (Driver.getDev other) := by
  apply Maintains.bind .read
  intro kernel
  cases kernel.devices other with
  | none => exact .stop _
  | some device => exact .pure device

theorem findDev {test : Nat → SnapDevice → KernelM Bool}
    (looks : ∀ minor device, Maintains inv (test minor device))
    (minors : List Nat) : Maintains inv (Driver.findDev test minors) := by
  induction minors with
  | nil => exact .pure none
  | cons minor rest ih =>
      apply Maintains.bind .read
      intro kernel
      cases kernel.snapDevices minor with
      | none => exact ih
      | some other =>
          apply Maintains.bind (getDev other)
          intro device
          apply Maintains.bind (looks minor device)
          intro accepted
          exact .ite (.pure _) ih

theorem tracerForEach {test : Nat → SnapDevice → KernelM Bool}
    (looks : ∀ minor device, Maintains inv (test minor device)) :
    Maintains inv (Driver.tracerForEach test) :=
  .bind .read fun _ => findDev looks _

/-- A test of the base device of the verified devices. -/
theorem baseTest {test : Nat → Bool} (_ : Nat) (device : SnapDevice) :
    Maintains inv
      (if device.unverified then Pure.pure false
        else do
          let base ← Driver.deref device.sdBaseDev
          Pure.pure (test base)) :=
  .ite (.pure false) (.bind (deref _) fun _ => .pure _)

theorem tryFreezeBdev : Maintains inv (Driver.tryFreezeBdev machine bdev) := by
  apply Maintains.bind .read
  intro kernel
  exact .ite (.stop _) (.ite (.pure ()) (attempt _))

theorem bdevIsAlreadyTraced : Maintains inv (Driver.bdevIsAlreadyTraced bdev) :=
  .bind (tracerForEach baseTest) fun _ => .pure _

theorem tracerShouldResetMrf : Maintains inv (Driver.tracerShouldResetMrf machine other) := by
  apply Maintains.bind .read
  intro kernel
  apply Maintains.bind (getDev other)
  intro device
  apply Maintains.bind (deref _)
  intro bdev
  apply Maintains.ite (.pure false)
  apply Maintains.bind _ fun _ => .pure _
  apply tracerForEach
  intro minor device
  apply Maintains.ite (.pure false)
  exact .bind (deref _) fun _ => .ite (.pure _) (.pure _)

theorem wakeUpCowThread : Maintains inv (Driver.wakeUpCowThread dev) :=
  .bind (getDev dev) fun _ => .ite (.pure ()) (.stop _)

section changes

variable (stable : Stable inv)

include stable

/-- A change of a device that keeps these fields. -/
theorem sets {change : SnapDevice → SnapDevice}
    (same : ∀ device, (change device).sdPending = device.sdPending ∧
      (change device).unverified = device.unverified ∧ (change device).sdCow = device.sdCow ∧
      (change device).sdFailCode = device.sdFailCode) :
    Maintains inv (Driver.setDev other change) := by
  intro kernel holds
  cases found : kernel.devices other with
  | none =>
      rw [wp_setDev_freed found]
      exact holds
  | some device =>
      rw [wp_setDev found]
      obtain ⟨pending, unverified, cow, code⟩ := same device
      exact stable.setDev holds found pending unverified cow code

theorem kzalloc : Maintains inv Driver.kzalloc := by
  apply Maintains.bind .read
  intro kernel
  apply Maintains.bind _ fun _ => .pure _
  exact .update fun _ holds => stable.update holds rfl rfl (Nat.le_succ _)

theorem setSlot (minor : Nat) (slot : Option Address) :
    Maintains inv (Driver.setSlot minor slot) :=
  .update fun _ holds => stable.update holds rfl rfl (Nat.le_refl _)

theorem setDisk (disk : Nat) (change : Gendisk → Gendisk) :
    Maintains inv (Driver.setDisk disk change) :=
  .update fun _ holds => stable.update holds rfl rfl (Nat.le_refl _)

theorem minorRangeRecalculate : Maintains inv (Driver.minorRangeRecalculate machine) :=
  .update fun _ holds => stable.update holds rfl rfl (Nat.le_refl _)

theorem minorRangeInclude (minor : Nat) :
    Maintains inv (Driver.minorRangeInclude minor) :=
  .update fun _ holds => stable.update holds rfl rfl (Nat.le_refl _)

theorem mrfGet (disk : Nat) (fn : Option RequestFn) :
    Maintains inv (Driver.mrfGet disk fn) := by
  apply Maintains.bind .read
  intro kernel
  cases (kernel.disks disk).tracking with
  | none => exact .bind (attempt _) fun _ => stable.setDisk _ _
  | some tracking => exact stable.setDisk _ _

theorem mrfPut (disk : Nat) : Maintains inv (Driver.mrfPut disk) := by
  apply Maintains.bind .read
  intro kernel
  cases (kernel.disks disk).tracking with
  | none => exact .pure none
  | some tracking =>
      apply Maintains.ite
      · exact .bind (stable.setDisk _ _) fun _ => .pure _
      · exact .bind (stable.setDisk _ _) fun _ => .pure _

theorem tracingOpsGet (trops : Option Address) :
    Maintains inv (Driver.tracingOpsGet trops) := by
  cases trops with
  | none => exact .pure none
  | some address =>
      apply Maintains.bind .read
      intro kernel
      apply Maintains.bind (deref _)
      intro ops
      apply Maintains.bind _ fun _ => .pure _
      exact .update fun _ holds => stable.update holds rfl rfl (Nat.le_refl _)

theorem tracingOpsPut (address : Address) :
    Maintains inv (Driver.tracingOpsPut address) := by
  apply Maintains.bind .read
  intro kernel
  apply Maintains.bind (deref _)
  intro ops
  apply Maintains.ite
  · exact .update fun _ holds => stable.update holds rfl rfl (Nat.le_refl _)
  · exact .update fun _ holds => stable.update holds rfl rfl (Nat.le_refl _)

theorem moocbtFreeRequestTrackingPtr :
    Maintains inv (Driver.moocbtFreeRequestTrackingPtr machine other) := by
  apply Maintains.ite (stable.sets (by simp))
  apply Maintains.bind (getDev other)
  intro device
  cases device.sdTracingOps with
  | none => exact .pure ()
  | some trops => exact .bind (stable.tracingOpsPut trops) fun _ => stable.sets (by simp)

theorem setFops (bdOps : Option OpsPtr) :
    Maintains inv (Driver.setFops machine bdev bdOps) := by
  cases bdOps with
  | none => exact .pure ()
  | some ops => exact stable.setDisk _ fun gendisk => { gendisk with fops := ops }

theorem hookDisk (fn : Option RequestFn) (bdOps : Option OpsPtr) :
    Maintains inv (Driver.hookDisk machine bdev fn bdOps) := by
  unfold Driver.hookDisk
  cases machine.build with
  | hooked => exact .pure ()
  | makeRequest => exact .when (stable.setDisk _ _)
  | submitBio => exact stable.setFops bdOps

theorem unhookDisk (bdOps : Option OpsPtr) :
    Maintains inv (Driver.unhookDisk machine bdev bdOps) := by
  unfold Driver.unhookDisk
  cases machine.build with
  | hooked => exact .pure ()
  | makeRequest => exact .bind (stable.mrfPut _) fun _ => .when (stable.setDisk _ _)
  | submitBio => exact stable.setFops bdOps

theorem tracerTransitionTracing (fn : Option RequestFn) (bdOps : Option OpsPtr) (start : Bool) :
    Maintains inv
      (Driver.tracerTransitionTracing machine other bdev fn bdOps minor start) := by
  apply Maintains.bind
  · apply maintains_catching tryFreezeBdev
    intro error
    apply Maintains.ite (.stop _)
    apply Maintains.bind (getDev other)
    intro device
    exact .when (.stop _)
  · intro _
    apply Maintains.ite
    · apply Maintains.bind (stable.setSlot _ _)
      intro _
      exact .bind (stable.hookDisk _ _) fun _ => stable.sets (by simp)
    · apply Maintains.bind .read
      intro kernel
      apply Maintains.bind (deref _)
      intro slot
      apply Maintains.bind (stable.sets (by simp))
      intro _
      exact .bind (stable.unhookDisk _) fun _ => stable.setSlot _ _

theorem moocbtFindOrigMrf :
    Maintains inv (Driver.moocbtFindOrigMrf machine other) := by
  apply Maintains.bind .read
  intro kernel
  apply Maintains.bind (getDev other)
  intro device
  apply Maintains.bind (deref _)
  intro bdev
  apply Maintains.ite (stable.sets (by simp))
  apply Maintains.bind (tracerForEach baseTest)
  intro found
  cases found with
  | none => exact .bind (stable.sets (by simp)) fun _ => .stop _
  | some pair => exact .bind (getDev _) fun _ => stable.sets (by simp)

theorem findOrigBdops : Maintains inv (Driver.findOrigBdops machine other) := by
  apply Maintains.bind .read
  intro kernel
  apply Maintains.bind (getDev other)
  intro device
  apply Maintains.bind (deref _)
  intro bdev
  apply Maintains.bind (deref _)
  intro ops
  apply Maintains.bind (stable.sets (by simp))
  intro _
  apply Maintains.ite (stable.sets (by simp))
  apply Maintains.bind (tracerForEach baseTest)
  intro found
  cases found with
  | none => exact .bind (stable.sets (by simp)) fun _ => .stop _
  | some pair =>
      apply Maintains.bind (getDev _)
      intro traced
      exact .bind (stable.tracingOpsGet _) fun _ => stable.sets (by simp)

theorem tracerAllocOps : Maintains inv (Driver.tracerAllocOps machine other) := by
  apply Maintains.bind (attempt _)
  intro _
  apply Maintains.bind stable.kzalloc
  intro trops
  apply Maintains.bind stable.kzalloc
  intro copy
  apply Maintains.bind .read
  intro kernel
  apply Maintains.bind (getDev other)
  intro device
  apply Maintains.bind (deref _)
  intro bdev
  apply Maintains.bind (deref _)
  intro ops
  apply Maintains.bind _ fun _ => stable.sets (by simp)
  exact .update fun _ holds => stable.update holds rfl rfl (Nat.le_refl _)

theorem injectTracing :
    Maintains inv (Driver.injectTracing machine other minor) := by
  apply Maintains.bind (getDev other)
  intro device
  apply Maintains.bind (deref _)
  intro bdev
  apply Maintains.ite
  · exact .bind stable.moocbtFindOrigMrf fun _ => stable.tracerTransitionTracing _ _ _
  apply Maintains.ite _ (.pure ())
  apply Maintains.bind stable.findOrigBdops
  intro _
  apply Maintains.bind (getDev other)
  intro found
  apply Maintains.bind (.when stable.tracerAllocOps)
  intro _
  apply Maintains.bind .read
  intro kernel
  apply Maintains.bind (getDev other)
  intro device
  apply Maintains.bind (deref _)
  intro trops
  exact .bind (deref _) fun _ => stable.tracerTransitionTracing _ _ _

theorem tracerSetupTracing :
    Maintains inv (Driver.tracerSetupTracing machine other minor) := by
  apply Maintains.bind (stable.sets (by simp))
  intro _
  apply Maintains.bind (stable.minorRangeInclude minor)
  intro _
  apply maintains_unwinding stable.injectTracing
  intro _
  exact .bind (stable.sets (by simp)) fun _ => stable.minorRangeRecalculate

theorem tracerSetupCowThread (step : Step) :
    Maintains inv (Driver.tracerSetupCowThread step dev) :=
  .bind (attempt step) fun _ => stable.sets (by simp)

theorem tracerDestroyTracing (drains : Maintains inv (Driver.tracerDestroyCowThread dev)) :
    Maintains inv (Driver.tracerDestroyTracing machine dev) := by
  apply Maintains.bind (getDev dev)
  intro device
  apply Maintains.bind
  · apply Maintains.ite
    · apply Maintains.bind (deref _)
      intro bdev
      apply Maintains.bind tracerShouldResetMrf
      intro reset
      apply Maintains.bind
      · apply Maintains.when
        apply Maintains.bind (maintains_catching (stable.tracerSetupCowThread _) fun _ => .pure ())
        intro _
        exact .bind wakeUpCowThread fun _ => drains
      · intro _
        apply Maintains.bind _ fun _ => stable.moocbtFreeRequestTrackingPtr
        exact maintains_catching (stable.tracerTransitionTracing _ _ _) fun _ => .pure ()
    · exact .bind .read fun _ => .when (stable.setSlot _ _)
  · intro _
    exact .bind (stable.sets (by simp)) fun _ => stable.minorRangeRecalculate

theorem tracerSetupSnap : Maintains inv (Driver.tracerSetupSnap dev) := by
  apply maintains_unwinding _ fun _ => stable.sets (by simp)
  apply Maintains.bind (attempt _)
  intro _
  apply Maintains.bind (attempt _)
  intro _
  apply Maintains.bind (stable.sets (by simp))
  intro _
  apply Maintains.bind (attempt _)
  intro _
  apply Maintains.bind (attempt _)
  intro _
  exact .bind (stable.sets (by simp)) fun _ => attempt _

theorem tracerSetupCowPath : Maintains inv (Driver.tracerSetupCowPath dev) := by
  apply Maintains.bind .read
  intro kernel
  apply Maintains.bind (getDev dev)
  intro device
  apply Maintains.bind (deref _)
  intro cow
  apply Maintains.bind (deref _)
  intro object
  apply Maintains.bind _ fun _ => stable.sets (by simp)
  exact maintains_unwinding (attempt _) fun _ => stable.sets (by simp)

theorem activate (isSnap : Bool) :
    Maintains inv (Driver.activate machine dev minor isSnap) := by
  apply Maintains.bind stable.tracerSetupCowPath
  intro _
  apply Maintains.bind
  · apply Maintains.when
    apply Maintains.bind .read
    intro kernel
    apply Maintains.bind (getDev dev)
    intro device
    exact .bind (deref _) fun _ => stable.mrfGet _ _
  · intro _
    apply Maintains.bind (.when stable.tracerSetupSnap)
    intro _
    apply Maintains.bind (stable.tracerSetupCowThread _)
    intro _
    exact .bind wakeUpCowThread fun _ => stable.tracerSetupTracing

end changes

end Stable

end Moocbt.Driver
