import Moocbt.Cow.FileLimit
import Moocbt.Driver.Unwinding

/-! The limit `__tracer_setup_cow` gives a new COW file, and whether all data that is captured
afterwards is written within it. -/

namespace Moocbt.Driver

open Cow (CowState Errno KeepsLimit LimitFits WithinLimit)
open Program Transition

variable {machine : Machine} {kernel after : Kernel} {dev : Address} {device : SnapDevice}
  {bdev : Nat} {path : CowPath} {size fallocatedSpace cacheSize seqid : Nat} {uuid : BitVec 128}
  {failed : Option Errno}

/-- The manager of a device, with its file and what becomes of its operations. -/
def Kernel.manager (kernel : Kernel) (dev : Address) : Option CowState := do
  let device ← kernel.devices dev
  let cow ← device.sdCow
  let object ← kernel.cows cow
  some ⟨object.cm, kernel.files object.path, kernel.outcomes⟩

theorem Opened.manager {reply : Except Cow.Stop Unit × CowState} {cow : Address}
    (opened : Opened failed kernel dev path reply cow after) :
    after.manager dev = some reply.2 := by
  obtain ⟨device, found, idle⟩ := opened.quiet.device
  have made := opened.quiet.side
  have stored : after.cows cow = some ⟨reply.2.cm, path⟩ := made.stored
  have file : after.files path = reply.2.file := made.file
  have outcomes : after.outcomes = reply.2.outcomes := made.outcomes
  unfold Kernel.manager
  rw [found]
  change (device.sdCow.bind fun cow => _) = _
  rw [idle.sdCow.1]
  change ((after.cows cow).bind fun object => _) = _
  rw [stored]
  change some (CowState.mk reply.2.cm (after.files path) after.outcomes) = _
  rw [file, outcomes]

/-- A limit that was asked for is in whole blocks. -/
theorem limitFits_of_space (elements : Nat) (explicit : fallocatedSpace ≠ 0) :
    LimitFits elements (machine.maxFileSize size fallocatedSpace) := by
  left
  unfold Machine.maxFileSize
  rw [if_neg explicit]
  have blocks : Cow.cowBlockSize ∣ fallocatedSpace * megabyte := Dvd.dvd.mul_left (by decide) _
  exact (Nat.dvd_mod_iff (by decide)).mpr blocks

/-- Data is written within the limit of a new COW file exactly when the limit fits. -/
theorem file_limit_kept_iff (found : kernel.devices dev = some device)
    (idle : Idle false (Holding failed none) device)
    (setup : tracerSetupCow machine dev bdev path
      (.new size fallocatedSpace cacheSize uuid seqid) kernel = (.ok (), after)) :
    ∃ manager, after.manager dev = some manager ∧
      (KeepsLimit manager ↔
        LimitFits (size / sectorsPerBlock) (machine.maxFileSize size fallocatedSpace)) := by
  have left := wp_done (tracerSetupCow_creates found idle fallocatedSpace) setup
  have opened := left.2
  refine ⟨_, opened.manager, ?_⟩
  apply Cow.cowInit_keeps_limit_iff
  exact Cow.cowInit_of_create (Prod.ext opened.ok rfl)

/-- A machine with one block device, mounted. -/
def Machine.mounted : Kernel :=
  { Machine.small.boot (fun _ => none) with
    mounted := Function.update (fun _ => .unmounted) 1 .writable }

/-- A machine with a mounted block device and a snapshot device of it without a manager. -/
def Machine.allotted : Kernel :=
  { Machine.mounted with
    devices := Function.update Machine.mounted.devices 0 (some .zero)
    fresh := 1 }

/-- The manager of a block device with so many sectors and a limit of so many megabytes. -/
def Machine.created (size fallocatedSpace : Nat) : CowState :=
  ((tracerSetupCow .small 0 1 ⟨1, 7⟩ (.new size fallocatedSpace 0 0#128 1)
    Machine.allotted).2.manager 0).getD ⟨Cow.CowManager.zero, none, []⟩

/-- A tenth of a small device ends one and a half kilobytes behind the index. -/
theorem file_limit_kept_overshot :
    let after := (tracerSetupCow .small 0 1 ⟨1, 7⟩ (.new 750 0 0 0#128 1) Machine.allotted).2
    let manager := Machine.created 750 0
    let middle := (Cow.cowMapCurrent 3 { manager with outcomes := [] }).2
    tracerSetupCow .small 0 1 ⟨1, 7⟩ (.new 750 0 0 0#128 1) Machine.allotted = (.ok (), after) ∧
      after.manager 0 = some manager ∧
      Cow.cowMapCurrent 3 { manager with outcomes := [] } = (.ok true, middle) ∧
      middle.dataWrite = some 36864 ∧ middle.cm.fileSize = 38400 ∧ ¬ KeepsLimit manager := by
  intro after manager middle
  have mapped : Cow.cowMapCurrent 3 { manager with outcomes := [] } = (.ok true, middle) :=
    Cow.ran_of_reply (by decide +kernel)
  have written : middle.dataWrite = some 36864 := by decide +kernel
  have limit : middle.cm.fileSize = 38400 := by decide +kernel
  refine ⟨rfl, rfl, mapped, written, limit, ?_⟩
  intro keeps
  have bound := ((keeps manager .refl 3 [] middle mapped).inside 36864 written).2
  rw [limit] at bound
  exact absurd bound (by decide)

/-- One megabyte of the same device. -/
theorem file_limit_kept_explicit : KeepsLimit (Machine.created 750 1) := by
  have kept := @file_limit_kept_iff .small Machine.allotted
    (tracerSetupCow .small 0 1 ⟨1, 7⟩ (.new 750 1 0 0#128 1) Machine.allotted).2 0 .zero 1 ⟨1, 7⟩
    750 1 0 1 0#128 none rfl ⟨rfl, rfl, rfl, rfl⟩ rfl
  obtain ⟨manager, found, keeps⟩ := kept
  have same : manager = Machine.created 750 1 := by
    unfold Machine.created
    rw [found]
    rfl
  rw [← same]
  exact keeps.mpr (by decide)

end Moocbt.Driver
