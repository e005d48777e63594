import Moocbt.Driver.CowFileFate
import Moocbt.Driver.Setup

/-! A change of the mode of a device: what is done once the new device traces, and what a change
to incremental mode that fails leaves. -/

namespace Moocbt.Driver

open Cow (Errno Stop)
open Program

variable {α : Type} {machine : Machine} {kernel : Kernel} {dev oldDev cow : Address}
  {device old : SnapDevice} {bdev minor : Nat}

/-- The machine after a device was allocated. -/
def Kernel.begun (kernel : Kernel) (device : SnapDevice) : Kernel :=
  Kernel.setDev { kernel with fresh := kernel.fresh + 1 } kernel.fresh device

theorem wp_tracerAlloc {done : Address → Kernel → Prop} {stopped : Stop → Kernel → Prop} :
    wp tracerAlloc done stopped kernel ↔
      match kernel.faults .tracerAlloc with
      | none => done kernel.fresh (kernel.begun .zero)
      | some error => stopped (.errno error) kernel := by
  unfold tracerAlloc
  rw [wp_bind, wp_attempt]
  cases kernel.faults .tracerAlloc <;> rfl

theorem Kernel.begun_setDev (kernel : Kernel) (device device' : SnapDevice) :
    (kernel.begun device).setDev kernel.fresh device' = kernel.begun device' :=
  Kernel.setDev_setDev _ _ _ _

theorem Kernel.begun_same (kernel : Kernel) (device : SnapDevice) :
    (kernel.begun device).devices kernel.fresh = some device := Kernel.setDev_same _ _ _

theorem Kernel.begun_other (differs : dev ≠ kernel.fresh) (device : SnapDevice) :
    (kernel.begun device).devices dev = kernel.devices dev := Function.update_of_ne differs _ _

section commit

/-- What is done once the new device traces leaves the table alone. -/
abbrev KeepsTable (program : KernelM α) : Prop := Keeps Kernel.snapDevices program

namespace KeepsTable

theorem getDev (dev : Address) : KeepsTable (Driver.getDev dev) := by
  apply Keeps.bind .read
  intro kernel
  cases kernel.devices dev with
  | none => exact .stop _
  | some device => exact .pure device

theorem setDev (dev : Address) (change : SnapDevice → SnapDevice) :
    KeepsTable (Driver.setDev dev change) :=
  .bind (getDev dev) fun _ _ => rfl

theorem deref (pointer : Option α) : KeepsTable (Driver.deref pointer) := by
  cases pointer with
  | none => exact .stop _
  | some value => exact .pure value

theorem catching {program : KernelM Unit} {handler : Errno → KernelM Unit}
    (inner : KeepsTable program) (handles : ∀ error, KeepsTable (handler error)) :
    KeepsTable (Driver.catching program handler) := by
  apply inner.handle
  intro reason
  cases reason with
  | errno error => exact handles error
  | oops => exact .stop _
  | crash => exact .stop _

theorem unwinding {program : KernelM α} {cleanup : Errno → KernelM Unit}
    (inner : KeepsTable program) (cleans : ∀ error, KeepsTable (cleanup error)) :
    KeepsTable (Driver.unwinding program cleanup) := by
  apply inner.handle
  intro reason
  cases reason with
  | errno error => exact .bind (cleans error) fun _ => .stop _
  | oops => exact .stop _
  | crash => exact .stop _

theorem runCow (cow : Address) (program : Cow.CowM α) : KeepsTable (Driver.runCow cow program) := by
  intro kernel
  unfold Driver.runCow
  cases kernel.cows cow with
  | none => rfl
  | some object => rfl

theorem cleanUpCow (dev : Address) : KeepsTable (Driver.cleanUpCow dev) := by
  apply Keeps.bind (getDev dev)
  intro device
  apply Keeps.ite
  · cases device.sdCow with
    | none => exact .pure ()
    | some cow => exact runCow cow _
  · exact .pure ()

theorem drain (dev : Address) (jobs : List Job) : KeepsTable (Driver.drain dev jobs) := by
  induction jobs with
  | nil => exact .pure ()
  | cons job rest ih =>
      apply Keeps.bind (cleanUpCow dev)
      intro _
      apply Keeps.bind (getDev dev)
      intro device
      apply Keeps.bind _ fun _ => ih
      apply Keeps.ite
      · apply Keeps.bind (deref _)
        intro cow
        exact catching (runCow cow _) fun _ => setDev dev _
      · exact .pure ()

theorem finishCow (dev : Address) (jobs : List Job) : KeepsTable (Driver.finishCow dev jobs) := by
  cases jobs with
  | nil => exact cleanUpCow dev
  | cons job rest => exact drain dev _

theorem tracerDestroyCowThread : KeepsTable (Driver.tracerDestroyCowThread dev) := by
  apply Keeps.bind (getDev dev)
  intro device
  apply Keeps.ite
  · exact .bind (finishCow dev _) fun _ => setDev dev _
  · exact .pure ()

theorem wakeUpCowThread : KeepsTable (Driver.wakeUpCowThread dev) :=
  .bind (getDev dev) fun _ => .ite _ (.pure ()) (.stop _)

theorem kfreeDev : KeepsTable (Driver.kfreeDev dev) := fun _ => rfl

theorem closeCow : KeepsTable (Driver.tracerDestroyCow dev .syncAndFree) := by
  apply Keeps.bind (setDev dev _)
  intro _
  apply Keeps.bind (getDev dev)
  intro device
  cases device.sdCow with
  | none => exact .pure ()
  | some cow =>
      apply Keeps.bind _ fun _ => setDev dev _
      apply unwinding _ fun _ => setDev dev _
      have frees : KeepsTable (kfreeCow cow) := fun _ => rfl
      exact .bind (unwinding (runCow cow _) fun _ => frees) fun _ => frees

/-- `tracer_active_snap_to_inc` from its commit point on. -/
theorem snapToInc : KeepsTable (do
    Driver.tracerDestroyCowThread oldDev
    let stopped ← Driver.getDev oldDev
    match stopped.sdFailCode with
    | some error => do
        tracerSetFailState dev error
        Driver.wakeUpCowThread dev
        tracerDestroySnap oldDev
        Driver.kfreeDev oldDev
        .stop (.errno error)
    | none => do
        Driver.wakeUpCowThread dev
        let device ← Driver.getDev dev
        let cow ← Driver.deref device.sdCow
        ignoring (Driver.runCow cow Cow.cowTruncateToIndex)
        tracerDestroySnap oldDev
        Driver.kfreeDev oldDev) := by
  apply Keeps.bind tracerDestroyCowThread
  intro _
  apply Keeps.bind (getDev oldDev)
  intro stopped
  cases stopped.sdFailCode with
  | some error =>
      apply Keeps.bind (setDev dev _)
      intro _
      apply Keeps.bind wakeUpCowThread
      intro _
      apply Keeps.bind (setDev oldDev _)
      intro _
      exact .bind kfreeDev fun _ => .stop _
  | none =>
      apply Keeps.bind wakeUpCowThread
      intro _
      apply Keeps.bind (getDev dev)
      intro device
      apply Keeps.bind (deref _)
      intro cow
      apply Keeps.bind (catching (runCow cow _) fun _ => .pure ())
      intro _
      exact .bind (setDev oldDev _) fun _ => kfreeDev

/-- `tracer_active_inc_to_snap` from there on. -/
theorem incToSnap : KeepsTable (do
    Driver.tracerDestroyCowThread oldDev
    Driver.wakeUpCowThread dev
    tracerDestroyCowPath oldDev
    ignoring (tracerDestroyCow oldDev .syncAndFree)
    Driver.kfreeDev oldDev) := by
  apply Keeps.bind tracerDestroyCowThread
  intro _
  apply Keeps.bind wakeUpCowThread
  intro _
  apply Keeps.bind (setDev oldDev _)
  intro _
  exact .bind (catching closeCow fun _ => .pure ()) fun _ => kfreeDev

end KeepsTable

theorem tracerTransitionTracing_slots (fn : Option RequestFn) (bdOps : Option OpsPtr) :
    wp (tracerTransitionTracing machine dev bdev fn bdOps minor true)
      (fun _ after => after.snapDevices minor = some dev) (fun _ _ => True) kernel := by
  unfold tracerTransitionTracing
  rw [wp_bind]
  apply wp_mono (wp_true _ _) _ fun _ _ _ => trivial
  intro _ middle _
  unfold startTracing
  rw [if_pos rfl, wp_bind, wp_setSlot, wp_bind, wp_hookDisk]
  apply wp_mono ((KeepsTable.setDev dev _).wp _)
  · intro _ after same
    rw [same]
    exact Function.update_self _ _ _
  · exact fun _ _ _ => trivial

/-- A device that traces has its slot. -/
theorem tracerSetupTracing_slots (found : kernel.devices dev = some device)
    (without : device.sdTracingOps = none) :
    wp (tracerSetupTracing machine dev minor)
      (fun _ after => after.snapDevices minor = some dev) (fun _ _ => True) kernel := by
  unfold tracerSetupTracing
  rw [wp_bind, wp_setDev found, wp_bind, wp_minorRangeInclude, wp_unwinding]
  have injects : wp (injectTracing machine dev minor)
      (fun _ after => after.snapDevices minor = some dev) (fun _ _ => True)
      ((kernel.setDev dev { device with sdMinor := minor }).included minor) := by
    have found' : ((kernel.setDev dev { device with sdMinor := minor }).included minor).devices
        dev = some { device with sdMinor := minor } := Kernel.setDev_same _ _ _
    unfold injectTracing
    rw [wp_bind, wp_getDev found', wp_bind]
    apply wp_mono (wp_true _ _) _ fun _ _ _ => trivial
    intro bdev middle _
    rw [wp_ite]
    split
    · rw [wp_bind]
      apply wp_mono (wp_true _ _) _ fun _ _ _ => trivial
      exact fun _ _ _ => tracerTransitionTracing_slots _ _
    · rw [wp_ite, if_pos (by simp [without])]
      repeat
        rw [wp_bind]
        apply wp_mono (wp_true _ _) _ fun _ _ _ => trivial
        intro _ _ _
      exact tracerTransitionTracing_slots _ _
  apply wp_mono injects
  · exact fun _ _ => id
  · intro reason after _
    cases reason with
    | errno error => exact wp_true _ _
    | oops => trivial
    | crash => trivial

end commit

/-- The incremental device that is to take the place of a device. -/
def SnapDevice.newInc (old : SnapDevice) : SnapDevice :=
  { SnapDevice.zero with
    snapshot := false
    active := true
    unverified := false
    sdSize := old.sdSize
    sdBaseDev := old.sdBaseDev
    sdBdevPath := old.sdBdevPath
    sdCowPath := old.sdCowPath
    sdCow := old.sdCow
    sdCacheSize := old.sdCacheSize
    sdFallocSize := old.sdFallocSize }

/-- A program of a manager does not change the device it points to. -/
theorem runCow_owner {owner : Address} {unverified : Bool}
    {cows : Option Address → Option Errno → Prop} (cow' : Address) (program : Cow.CowM Unit) :
    Quiet.Kept dev (fun side => side.cowDev cow = some owner) unverified cows
      (runCow cow' program) := by
  intro kernel quiet
  cases found : kernel.cows cow' with
  | none =>
      rw [wp_runCow_freed found]
      exact quiet
  | some object =>
      rw [wp_runCow found]
      apply wp_mono (wp_true program _)
      · exact fun _ _ _ => ⟨quiet.side, quiet.device⟩
      · exact fun _ _ _ => ⟨quiet.side, quiet.device⟩

/-- A new incremental device starts to trace, or its manager points to it. -/
theorem incTraces_spec {orig : Option RequestFn} {cows : Option Address → Option Errno → Prop}
    (quiet : Quiet dev (fun side => side.cowDev cow = some dev) false cows kernel)
    (found : kernel.devices dev = some device) (without : device.sdTracingOps = none) :
    wp (do
        tracerSetupCowThread .cowThread dev
        setDev dev fun device => { device with sdOrigRequestFn := orig }
        tracerSetupTracing machine dev minor)
      (fun _ after => after.snapDevices minor = some dev)
      (fun _ => Quiet dev (fun side => side.cowDev cow = some dev) false cows) kernel := by
  have keeps : Quiet.Kept dev (fun side => side.cowDev cow = some dev) false cows (do
      tracerSetupCowThread .cowThread dev
      setDev dev fun device => { device with sdOrigRequestFn := orig }
      tracerSetupTracing machine dev minor) := by
    apply Maintains.bind (Quiet.stable.tracerSetupCowThread _)
    intro _
    exact .bind (Quiet.stable.sets (by simp)) fun _ => Quiet.stable.tracerSetupTracing
  have slots : wp (do
      tracerSetupCowThread .cowThread dev
      setDev dev fun device => { device with sdOrigRequestFn := orig }
      tracerSetupTracing machine dev minor)
      (fun _ after => after.snapDevices minor = some dev) (fun _ _ => True) kernel := by
    unfold tracerSetupCowThread
    rw [wp_bind, wp_bind, wp_attempt]
    split
    · rw [wp_setDev found, wp_bind, wp_setDev (Kernel.setDev_same _ _ _)]
      exact tracerSetupTracing_slots (Kernel.setDev_same _ _ _) without
    · trivial
  apply wp_mono (wp_and (keeps kernel quiet) slots)
  · exact fun _ _ both => both.2
  · exact fun _ _ both => both.1

/-- What an error of `tracer_active_snap_to_inc` leaves: the machine as it was, where no device
was allocated; else the new device in the table, or the manager with a pointer to it. -/
theorem tracerActiveSnapToInc_fails (found : kernel.devices oldDev = some old)
    (has : old.sdCow = some cow) (differs : oldDev ≠ kernel.fresh) :
    wp (tracerActiveSnapToInc machine oldDev) (fun _ _ => True)
      (OnError fun after =>
        kernel.faults .tracerAlloc ≠ none ∧ after = kernel ∨
        kernel.faults .tracerAlloc = none ∧
          (after.snapDevices old.sdMinor = some kernel.fresh ∨
            after.cowDev cow = some kernel.fresh)) kernel := by
  unfold tracerActiveSnapToInc
  rw [wp_bind, wp_tracerAlloc]
  cases fault : kernel.faults .tracerAlloc with
  | some error => exact fun _ _ => .inl ⟨by simp, rfl⟩
  | none =>
      dsimp only
      rw [wp_bind, wp_setDev (kernel.begun_same _), kernel.begun_setDev, wp_bind,
        wp_getDev ((kernel.begun_other differs _).trans found)]
      unfold tracerCopyBaseDev tracerCopyCowPath tracerCopyCow setCowDev
      rw [wp_bind, wp_setDev (kernel.begun_same _), kernel.begun_setDev, wp_bind,
        wp_setDev (kernel.begun_same _), kernel.begun_setDev, wp_bind, wp_bind,
        wp_deref_some has, wp_bind, wp_update]
      generalize kept : Kernel.begun kernel _ = begun
      let handed : Kernel :=
        { begun with cowDev := Function.update begun.cowDev cow (some kernel.fresh) }
      have found' : handed.devices kernel.fresh = some _ := kept ▸ kernel.begun_same _
      change wp (setDev kernel.fresh _) _ _ handed
      rw [wp_setDev found', wp_bind, wp_unwinding]
      change wp _ _ _ (handed.setDev kernel.fresh old.newInc)
      have started := Kernel.setDev_same handed kernel.fresh old.newInc
      have quiet : Quiet kernel.fresh (fun side => side.cowDev cow = some kernel.fresh) false
          (fun _ _ => True) (handed.setDev kernel.fresh old.newInc) :=
        ⟨Function.update_self _ _ _, old.newInc, started, rfl, rfl, trivial⟩
      apply wp_mono (incTraces_spec quiet started rfl)
      · intro _ middle slot
        apply wp_mono (KeepsTable.snapToInc.wp middle)
        · exact fun _ _ _ => trivial
        · intro _ after same _ _
          rw [same]
          exact .inr ⟨rfl, .inl slot⟩
      · intro reason middle quiet
        cases reason with
        | oops => exact OnError.oops _
        | crash => exact OnError.crash _
        | errno error =>
            have frees : ∀ device cow', device.sdCow = some cow' →
                Idle false (fun _ _ => True) device →
                Quiet.Kept kernel.fresh (fun side => side.cowDev cow = some kernel.fresh) false
                  (fun _ _ => True) (runCow cow' Cow.cowFreeMembers) :=
              fun _ cow' _ _ => runCow_owner cow' _
            dsimp only
            rw [wp_bind]
            apply wp_mono (Quiet.tracerDestroyCowThread (Quiet.cleanUpCow frees) middle quiet)
            · exact fun _ _ quiet _ _ => .inr ⟨rfl, .inr quiet.side⟩
            · exact fun _ _ quiet _ _ => .inr ⟨rfl, .inr quiet.side⟩

end Moocbt.Driver
