import Moocbt.Driver.Restoring

/-! A change of the mode of a device that fails before its commit point. -/

namespace Moocbt.Driver

open Cow (CowManager Denied Errno)
open Program
open TraceTable (Shared)

variable {machine : Machine} {kernel : Kernel} {dev oldDev cow : Address}
  {device old : SnapDevice} {bdev minor : Nat} {path : CowPath}

/-- A change of the mode of an active device. -/
inductive Change where
  | snapToInc
  | incToSnap (cowPath : CowPath) (fallocatedSpace : Nat)

def Change.program (machine : Machine) (dev : Address) : Change → KernelM Unit
  | snapToInc => tracerActiveSnapToInc machine dev
  | incToSnap cowPath fallocatedSpace => tracerActiveIncToSnap machine dev cowPath fallocatedSpace

/-- The table, its devices, the manager of one of them with its file, and the references to the
copies of operations are as they were. -/
structure Unchanged (cow : Address) (object : CowObject) (before after : Kernel) : Prop where
  table : after.snapDevices = before.snapDevices
  lowest : after.lowestMinor = before.lowestMinor
  highest : after.highestMinor = before.highestMinor
  devices : ∀ minor dev, before.snapDevices minor = some dev →
    after.devices dev = before.devices dev
  manager : after.cows cow = before.cows cow
  owner : after.cowDev cow = before.cowDev cow
  file : after.files object.path = before.files object.path
  immutable : after.immutable object.path = before.immutable object.path
  tracingOps : ∀ address ops, before.tracingOps address = some ops →
    after.tracingOps address = some ops

/-- A new COW file is gone if it was created. -/
def Change.Unlinks (before after : Kernel) : Change → Prop
  | snapToInc => True
  | incToSnap path _ => after.files path =
      if before.faults .tracerAlloc = none ∧ before.Creates path then none else before.files path

/-- The device is not allocated, or it is one for a snapshot whose file can be unlinked, and it
does not get as far as a freeze that keeps it from sharing the copy of operations. -/
def Change.Spares (machine : Machine) (kernel : Kernel) (bdev : Nat) (device : SnapDevice)
    (object : CowObject) : Change → Prop
  | snapToInc => kernel.faults .tracerAlloc ≠ none
  | incToSnap path fallocatedSpace => kernel.faults .tracerAlloc ≠ none ∨
      let reply := kernel.nextCreation machine device object path fallocatedSpace
      (kernel.Creates path → Denied reply.2.outcomes = false) ∧
        ¬ (machine.build = .submitBio ∧ Reaches kernel bdev path reply)

theorem Unchanged.refl (cow : Address) (object : CowObject) (kernel : Kernel) :
    Unchanged cow object kernel kernel :=
  ⟨rfl, rfl, rfl, fun _ _ _ => rfl, rfl, rfl, rfl, rfl, fun _ _ => id⟩

theorem Backed.unchanged {object : CowObject} {after : Kernel}
    (active : Active machine kernel minor bdev oldDev old cow object)
    (backed : Backed kernel.fresh (fun other => other = path ∧ kernel.immutable path = false)
      kernel after)
    (tracingOps : ∀ address ops, kernel.tracingOps address = some ops →
      after.tracingOps address = some ops) : Unchanged cow object kernel after := by
  have outside : ¬ (object.path = path ∧ kernel.immutable path = false) := by
    intro ⟨same, free⟩
    rw [← same, active.immutable] at free
    contradiction
  constructor
  · exact backed.table
  · exact backed.lowest
  · exact backed.highest
  · intro minor dev held
    exact backed.apart.devices dev (Nat.ne_of_lt (active.wired.allocated minor dev held))
  · rw [active.stored]
    exact backed.apart.cows cow object active.allocated active.stored outside
  · exact backed.apart.cowDev cow active.allocated
  · exact backed.apart.files object.path outside
  · exact backed.apart.immutable object.path outside
  · exact tracingOps

/-- A change that fails before the new device is in the table leaves all as it was exactly in
these cases: in the others the manager keeps a pointer to a device that was freed, a reference
is never given back, or the file stays. -/
theorem failed_change_restores_iff {change : Change} {object : CowObject} {error : Errno}
    {after : Kernel} (active : Active machine kernel minor bdev oldDev old cow object)
    (ran : change.program machine oldDev kernel = (.error (.errno error), after))
    (uncommitted : after.snapDevices minor = some oldDev) :
    Unchanged cow object kernel after ∧ change.Unlinks kernel after ↔
      change.Spares machine kernel bdev old object := by
  have differs : oldDev ≠ kernel.fresh := Nat.ne_of_lt (active.wired.allocated _ _ active.held.1)
  have never : after.snapDevices minor ≠ some kernel.fresh := by
    rw [uncommitted]
    exact fun same => differs (Option.some.inj same)
  cases change with
  | snapToInc =>
      have fails := @tracerActiveSnapToInc_fails machine kernel _ _ _ active.held.2 active.sdCow
        differs
      have left := wp_stopped fails ran error rfl
      rw [active.sdMinor] at left
      rcases left with ⟨fault, same⟩ | ⟨fine, slot | owner⟩
      · subst same
        exact ⟨fun _ => fault, fun _ => ⟨.refl _ _ _, trivial⟩⟩
      · exact absurd slot never
      · refine ⟨fun both => ?_, fun fault => absurd fine fault⟩
        have kept := active.owner kernel.fresh (both.1.owner.symm.trans owner)
        exact absurd kept (Nat.lt_irrefl _)
  | incToSnap path fallocatedSpace =>
      have fails := tracerActiveIncToSnap_fails active path fallocatedSpace
      have left := wp_stopped fails ran error rfl
      rcases left with ⟨fault, same⟩ | ⟨fine, slot | failed⟩
      · subst same
        refine ⟨fun _ => .inl fault, fun _ => ⟨.refl _ _ _, ?_⟩⟩
        simp only [Change.Unlinks]
        rw [if_neg fun creates => fault creates.1]
      · exact absurd slot never
      · have unwound := failed.file
        unfold Kernel.unwound at unwound
        constructor
        · intro ⟨unchanged, unlinked⟩
          refine .inr ⟨fun creates => ?_, failed.tracingOps.mp unchanged.tracingOps⟩
          simp only [Change.Unlinks] at unlinked
          rw [if_pos ⟨fine, creates⟩, unwound, if_pos creates] at unlinked
          cases denied : Denied
            (kernel.nextCreation machine old object path fallocatedSpace).2.outcomes with
          | false => rfl
          | true =>
              have stored := (failed.created creates).stored
              rw [if_pos denied] at unlinked
              rw [unlinked] at stored
              contradiction
        · intro spares
          obtain ⟨unlinks, spared⟩ := spares.resolve_left (not_not.mpr fine)
          refine ⟨failed.backed.unchanged active (failed.tracingOps.mpr spared), ?_⟩
          simp only [Change.Unlinks]
          rw [unwound]
          by_cases creates : kernel.Creates path
          · have allocated : kernel.faults .tracerAlloc = none ∧ kernel.Creates path :=
              ⟨fine, creates⟩
            have denied := unlinks creates
            rw [if_pos allocated, if_pos creates, if_neg (by rw [denied]; decide)]
          · rw [if_neg creates, if_neg fun both => creates both.2]

/-- What a device is like that has a manager, in a state of a run. -/
theorem Active.reached {files : CowPath → Option Cow.CowFile} {object : CowObject}
    (reached : Transition.Reaches (Kernel.step machine)
      (fun kernel call => call.Releases machine kernel) (machine.boot files) kernel)
    (held : kernel.Holds minor dev device) (verified : device.unverified = false)
    (based : device.sdBaseDev = some bdev) (sdCow : device.sdCow = some cow)
    (stored : kernel.cows cow = some object) (allocated : cow < kernel.fresh)
    (owner : kernel.cowDev cow = some dev) (immutable : kernel.immutable object.path = true)
    (faults : Step → Option Errno) :
    Active machine { kernel with faults } minor bdev dev device cow object := by
  let terms : Terms := ⟨False, False⟩
  have order : kernel.InOrder machine terms := .reached False.elim False.elim reached
  have table := Operating.reached (fun _ _ releases => releases) (fun _ => trivial)
    (fun _ _ _ _ => trivial) reached
  obtain ⟨wired, formed, _⟩ := table
  have shared : machine.build = .submitBio → Shared machine kernel.tracing := by
    intro modern
    have shared := Operating.reached (fun _ _ releases => releases) (Shared.boot machine)
      (fun _ formed operation shared => operation.shared modern formed shared) reached
    exact shared.2.2
  have tight : (kernel.recalculated machine).RangeExact machine := by
    apply Occupancy.Bounds.recalculated
    exact order.range.within
  obtain ⟨lowest, highest⟩ := order.range.unique tight
  constructor
  · exact { wired with }
  · exact lowest
  · exact highest
  · exact ⟨shared, order.drivers⟩
  · exact held
  · exact (formed.slotted minor device held.slot).sdMinor
  · exact verified
  · exact based
  · exact sdCow
  · exact stored
  · exact allocated
  · intro other same
    cases owner.symm.trans same
    exact wired.allocated minor dev held.1
  · exact immutable

/-- A device that is there after these calls. -/
theorem Active.evaluated {calls : List Call} {goal : Kernel → SnapDevice → CowObject → Bool}
    (ran : ((Transition.run
      (Transition.checked (Kernel.step .small) fun kernel call => call.Releases .small kernel)
      (Machine.small.boot fun _ => none) calls).any fun kernel =>
      decide (kernel.snapDevices 0 = some dev ∧ cow < kernel.fresh ∧
        kernel.cowDev cow = some dev) &&
      (kernel.devices dev).any fun device => (kernel.cows cow).any fun object =>
        decide (device.unverified = false ∧ device.sdBaseDev = some 1 ∧ device.sdCow = some cow ∧
          kernel.immutable object.path = true) && goal kernel device object) = true) :
    ∃ kernel device object, goal kernel device object = true ∧
      ∀ faults, Active .small { kernel with faults } 0 1 dev device cow object := by
  obtain ⟨kernel, reached, holds⟩ := Transition.Reaches.of_evaluated ran
  obtain ⟨slots, there⟩ := (Bool.and_eq_true _ _).mp holds
  obtain ⟨slot, allocated, owner⟩ := of_decide_eq_true slots
  obtain ⟨device, found, there⟩ := (Option.any_eq_true _ _).mp there
  obtain ⟨object, stored, both⟩ := (Option.any_eq_true _ _).mp there
  obtain ⟨traces, goes⟩ := (Bool.and_eq_true _ _).mp both
  obtain ⟨verified, based, sdCow, immutable⟩ := of_decide_eq_true traces
  have held : kernel.Holds 0 dev device := ⟨slot, found⟩
  exact ⟨kernel, device, object, goes,
    .reached reached held verified based sdCow stored allocated owner immutable⟩

/-- The bio set of the new snapshot of an incremental device cannot be allocated. -/
theorem failed_change_restores_iff_bioset :
    ∃ kernel after : Kernel, ∃ device : SnapDevice, ∃ object : CowObject,
      Active .small kernel 0 1 4 device 1 object ∧ device.snapshot = false ∧
      kernel.faults .bioset = some .enomem ∧
      (Change.incToSnap ⟨1, 8⟩ 1).program .small 4 kernel = (.error (.errno .enomem), after) ∧
      after.snapDevices 0 = some 4 ∧
      Unchanged 1 object kernel after ∧ (Change.incToSnap ⟨1, 8⟩ 1).Unlinks kernel after := by
  let faults : Step → Option Errno := Function.update (fun _ => none) .bioset (some .enomem)
  let fails := fun kernel : Kernel =>
    (Change.incToSnap ⟨1, 8⟩ 1).program .small 4 { kernel with faults }
  have ran : ((Transition.run
      (Transition.checked (Kernel.step .small) fun kernel call => call.Releases .small kernel)
      (Machine.small.boot fun _ => none)
      [(Event.mount 1 (some .writable)).fine, (Event.setupSnap 0 1 ⟨1, 7⟩ 1 0 0#128).fine,
        (Event.transitionInc 0).fine]).any fun kernel =>
      decide (kernel.snapDevices 0 = some 4 ∧ 1 < kernel.fresh ∧ kernel.cowDev 1 = some 4) &&
      (kernel.devices 4).any fun device => (kernel.cows 1).any fun object =>
        decide (device.unverified = false ∧ device.sdBaseDev = some 1 ∧ device.sdCow = some 1 ∧
          kernel.immutable object.path = true) &&
        decide (device.snapshot = false ∧ (fails kernel).1 = .error (.errno .enomem) ∧
          (fails kernel).2.snapDevices 0 = some 4 ∧
          Denied (Kernel.nextCreation { kernel with faults } .small device object
            ⟨1, 8⟩ 1).2.outcomes = false)) = true := by
    decide +kernel
  obtain ⟨kernel, device, object, goes, active⟩ := Active.evaluated ran
  obtain ⟨incremental, failed, uncommitted, unlinks⟩ := of_decide_eq_true goes
  have stopped : (Change.incToSnap ⟨1, 8⟩ 1).program .small 4 { kernel with faults } =
      (.error (.errno .enomem), (fails kernel).2) := Prod.ext failed rfl
  have short : ¬ Reaches { kernel with faults } 1 ⟨1, 8⟩
      (Kernel.nextCreation { kernel with faults } .small device object ⟨1, 8⟩ 1) := by
    intro reaches
    have fault : faults .bioset = some .enomem := rfl
    exact absurd ((reaches.steps .bioset (by decide)).symm.trans fault) (by simp)
  have restores := failed_change_restores_iff (active faults) stopped uncommitted
  refine ⟨{ kernel with faults }, (fails kernel).2, device, object, active faults, incremental, rfl,
    stopped, uncommitted, restores.mpr (.inr ⟨fun _ => unlinks, fun both => short both.2⟩)⟩

/-- The COW thread of the new incremental device cannot be created: the manager of the old one
points to a device that was freed. -/
theorem failed_change_leaves_pointer :
    ∃ kernel after : Kernel, ∃ device : SnapDevice, ∃ object : CowObject,
      Active .small kernel 0 1 0 device 1 object ∧ device.snapshot = true ∧
      kernel.faults .cowThread = some .enomem ∧
      Change.snapToInc.program .small 0 kernel = (.error (.errno .enomem), after) ∧
      after.snapDevices 0 = some 0 ∧ kernel.cowDev 1 = some 0 ∧ after.cowDev 1 = some 4 ∧
      after.devices 4 = none ∧
      ¬ (Unchanged 1 object kernel after ∧ Change.snapToInc.Unlinks kernel after) := by
  let faults : Step → Option Errno := Function.update (fun _ => none) .cowThread (some .enomem)
  let fails := fun kernel : Kernel => Change.snapToInc.program .small 0 { kernel with faults }
  have ran : ((Transition.run
      (Transition.checked (Kernel.step .small) fun kernel call => call.Releases .small kernel)
      (Machine.small.boot fun _ => none)
      [(Event.mount 1 (some .writable)).fine,
        (Event.setupSnap 0 1 ⟨1, 7⟩ 1 0 0#128).fine]).any fun kernel =>
      decide (kernel.snapDevices 0 = some 0 ∧ 1 < kernel.fresh ∧ kernel.cowDev 1 = some 0) &&
      (kernel.devices 0).any fun device => (kernel.cows 1).any fun object =>
        decide (device.unverified = false ∧ device.sdBaseDev = some 1 ∧ device.sdCow = some 1 ∧
          kernel.immutable object.path = true) &&
        decide (device.snapshot = true ∧ kernel.cowDev 1 = some 0 ∧
          (fails kernel).1 = .error (.errno .enomem) ∧ (fails kernel).2.snapDevices 0 = some 0 ∧
          (fails kernel).2.cowDev 1 = some 4 ∧ ((fails kernel).2.devices 4).isNone)) = true := by
    decide +kernel
  obtain ⟨kernel, device, object, goes, active⟩ := Active.evaluated ran
  obtain ⟨snapshot, before, failed, uncommitted, moved, freed⟩ := of_decide_eq_true goes
  have stopped : Change.snapToInc.program .small 0 { kernel with faults } =
      (.error (.errno .enomem), (fails kernel).2) := Prod.ext failed rfl
  refine ⟨{ kernel with faults }, (fails kernel).2, device, object, active faults, snapshot, rfl,
    stopped, uncommitted, before, moved, Option.isNone_iff_eq_none.mp freed, ?_⟩
  intro both
  have same := both.1.owner.symm.trans moved
  rw [show Kernel.cowDev { kernel with faults } 1 = some 0 from before] at same
  contradiction

end Moocbt.Driver
