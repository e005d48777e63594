import Moocbt.Driver.Removal
import Moocbt.Driver.NoErrorCode

/-! How the setup of a device ends: it traces from then on, or something is left behind. -/

namespace Moocbt.Driver

open Cow (Errno Stop)
open Program
open TraceTable (Operation OrigMrf Residue)

variable {machine : Machine} {kernel : Kernel} {dev : Address} {device : SnapDevice}
  {bdev minor : Nat} {paths : CowPath → Prop} {leaky : Prop} {isSnap : Bool}
  {done : Unit → Kernel → Prop} {stopped : Stop → Kernel → Prop}

/-- The calls a setup makes after it took a reference to the original `make_request_fn`. -/
def lateSteps : List Step :=
  [.bioset, .allocDisk, .allocQueue, .mrfThread, .addDisk, .cowThread]

/-- None of them fails, nor the freeze. -/
def Late (machine : Machine) (faults : Step → Option Errno) : Prop :=
  (∀ step ∈ lateSteps, faults step = none) ∧ machine.freezing faults = none

/-- A setup may fail after it took its reference. -/
def Leaky (machine : Machine) (faults : Step → Option Errno) : Prop :=
  machine.build = .makeRequest → ¬ Late machine faults

theorem tracerSetupSnap_late (late : Late machine kernel.faults)
    (found : kernel.devices dev = some device) :
    wp (tracerSetupSnap dev) (fun _ _ => True) (fun _ _ => False) kernel := by
  have fine : ∀ step ∈ lateSteps, kernel.faults step = none := late.1
  unfold tracerSetupSnap
  rw [wp_unwinding, wp_bind, wp_attempt, fine _ (by decide)]
  dsimp only
  rw [wp_bind, wp_attempt, fine _ (by decide)]
  dsimp only
  rw [wp_bind, wp_setDev found, wp_bind, wp_attempt, Kernel.setDev_faults, fine _ (by decide)]
  dsimp only
  rw [wp_bind, wp_attempt, Kernel.setDev_faults, fine _ (by decide)]
  dsimp only
  rw [wp_bind, wp_setDev (Kernel.setDev_same _ _ _), wp_attempt, Kernel.setDev_faults,
    Kernel.setDev_faults, fine _ (by decide)]
  trivial

theorem tracerSetupCowThread_late (fine : kernel.faults .cowThread = none)
    (found : kernel.devices dev = some device) :
    wp (tracerSetupCowThread .cowThread dev) (fun _ _ => True) (fun _ _ => False) kernel := by
  unfold tracerSetupCowThread
  rw [wp_bind, wp_attempt, fine]
  dsimp only
  rw [wp_setDev found]
  trivial

/-- The machine after the reference to the original `make_request_fn` was taken. -/
def Kernel.retained (kernel : Kernel) (machine : Machine) (bdev : Nat) : Kernel :=
  if machine.build = .makeRequest then
    kernel.setDisk (machine.bdDisk bdev) (kernel.disk machine bdev).get
  else kernel

theorem retainMrf_spec (found : kernel.devices dev = some device)
    (based : device.sdBaseDev = some bdev) :
    wp (retainMrf machine dev) (fun _ after => after = kernel.retained machine bdev)
      (OnError fun after => after = kernel) kernel := by
  unfold retainMrf Kernel.retained
  rw [wp_when]
  by_cases legacy : machine.build = .makeRequest
  · rw [if_pos (decide_eq_true legacy), if_pos legacy, wp_bind, wp_read, wp_bind, wp_getDev found,
      wp_bind, wp_deref_some based]
    unfold mrfGet Gendisk.get Kernel.disk
    rw [wp_bind, wp_read]
    cases tracked : (kernel.disks (machine.bdDisk bdev)).tracking with
    | none =>
        dsimp only
        rw [wp_bind, wp_attempt]
        split
        · rw [wp_setDisk]
          rfl
        · exact fun _ _ => rfl
    | some tracking => rfl
  · rw [if_neg (by simpa using legacy), if_neg legacy]

theorem Kernel.retained_tracing (kernel : Kernel) (machine : Machine) (bdev : Nat) :
    (kernel.retained machine bdev).tracing = kernel.tracing.retained machine bdev := by
  unfold Kernel.retained TraceTable.retained
  split <;> rfl

theorem Kernel.retained_residue (kernel : Kernel) (machine : Machine) (bdev : Nat) :
    Residue machine kernel.tracing (kernel.retained machine bdev).tracing := by
  rw [Kernel.retained_tracing]
  unfold TraceTable.retained
  split
  · rename_i legacy
    exact { Residue.refl machine kernel.tracing with
      disks := fun modern => absurd legacy modern
      queues := fun _ => TraceTable.setDisk_queue id }
  · exact Residue.refl machine _

theorem Kernel.retained_beside {good : SnapDevice → Prop} {before : Kernel}
    (here : Beside machine dev paths before good kernel) :
    Apart dev paths before (kernel.retained machine bdev) ∧
      Beside machine dev paths (kernel.retained machine bdev) good
        (kernel.retained machine bdev) := by
  obtain ⟨apart, allocated, table, tracing, wired, device⟩ := here
  have refl : ∀ kernel : Kernel, Apart dev paths kernel kernel :=
    fun kernel => (Aside.refl dev kernel).apart paths
  unfold Kernel.retained
  split
  · refine ⟨{ apart with }, refl _, allocated, rfl, rfl, ?_, device⟩
    exact { wired with }
  · exact ⟨apart, refl _, allocated, rfl, rfl, wired, device⟩

/-- A device as its setup leaves it in the table. -/
def SnapDevice.activated (device : SnapDevice) (isSnap : Bool) (minor relPath : Nat)
    (bdOps : Option OpsPtr) (orig : Option RequestFn) (trops : Option Address) : SnapDevice :=
  { device.traces bdOps orig trops with
    sdCowPath := some relPath
    sdGd := isSnap || device.sdGd
    sdMrfThread := isSnap || device.sdMrfThread
    sdCowThread := true
    sdMinor := minor
    sdActive := device.sdActive + 1 }

/-- A device entered the table at a slot that was free. -/
structure Placed (machine : Machine) (leaky : Prop) (dev : Address) (paths : CowPath → Prop)
    (minor : Nat) (good : SnapDevice → Prop) (before after : Kernel) : Prop where
  apart : Apart dev paths before after
  table : after.snapDevices = Function.update before.snapDevices minor (some dev)
  wired : after.Wired machine
  device : ∃ device, after.devices dev = some device ∧ Owns paths after device ∧ good device
  operations : TraceTable.Operations machine leaky before.tracing after.tracing

/-- None did, and something may have been left behind. -/
structure Missed (machine : Machine) (leaky : Prop) (dev : Address) (paths : CowPath → Prop)
    (before after : Kernel) : Prop where
  apart : Apart dev paths before after
  table : after.snapDevices = before.snapDevices
  wired : after.Wired machine
  operations : TraceTable.Operations machine leaky before.tracing after.tracing

/-- The device did not, and is still there. -/
structure Unplaced (machine : Machine) (leaky : Prop) (dev : Address) (paths : CowPath → Prop)
    (good : SnapDevice → Prop) (before after : Kernel) : Prop
    extends Missed machine leaky dev paths before after where
  allocated : dev < after.fresh
  device : ∃ device, after.devices dev = some device ∧ Owns paths after device ∧ good device

theorem Beside.unplaced {good : SnapDevice → Prop} {before after : Kernel}
    (here : Beside machine dev paths before good after) :
    Unplaced machine leaky dev paths good before after :=
  ⟨⟨here.apart, here.table, here.wired, by rw [here.tracing]⟩, here.allocated, here.device⟩

/-- What has to hold of a device that is to be activated. -/
structure Ready (machine : Machine) (kernel : Kernel) (dev : Address) (device : SnapDevice)
    (bdev minor : Nat) : Prop where
  wired : kernel.Wired machine
  outside : kernel.Outside dev
  allocated : dev < kernel.fresh
  bound : minor < machine.maxSnapDevices
  free : kernel.snapDevices minor = none
  notTraced : kernel.tracing.NotTraced bdev
  mounted : kernel.mounted bdev ≠ .unmounted
  found : kernel.devices dev = some device
  based : device.sdBaseDev = some bdev
  path : device.sdBdevPath.isSome
  verified : device.unverified = false
  orig : device.sdOrigRequestFn = none
  trops : device.sdTracingOps = none

theorem Ready.slot (ready : Ready machine kernel dev device bdev minor) :
    kernel.tracing.slots minor = none := by
  unfold Kernel.tracing
  dsimp only
  rw [ready.free]
  rfl

theorem wp_ensures {α : Type} {program : KernelM α} {claim : Prop}
    (fails : ¬ claim → wp program (fun _ _ => True) (fun _ _ => False) kernel) :
    wp program (fun _ _ => True) (fun _ _ => claim) kernel := by
  by_cases holds : claim
  · apply wp_mono (wp_true program kernel)
    · exact fun _ _ => id
    · exact fun _ _ _ => holds
  · apply wp_mono (fails holds)
    · exact fun _ _ => id
    · exact fun _ _ => False.elim

/-- The kernel once the device has its reference to the `make_request_fn`. -/
structure Retaining (machine : Machine) (dev : Address) (paths : CowPath → Prop) (bdev : Nat)
    (before kept : Kernel) : Prop where
  apart : Apart dev paths before kept
  residue : Residue machine before.tracing kept.tracing
  tracing : kept.tracing = before.tracing.retained machine bdev
  table : kept.snapDevices = before.snapDevices

theorem Beside.retaining {good : SnapDevice → Prop} {before middle : Kernel}
    (here : Beside machine dev paths before good middle) (bdev : Nat) :
    Retaining machine dev paths bdev before (middle.retained machine bdev) := by
  constructor
  · exact (middle.retained_beside here).1
  · rw [← here.tracing]
    exact middle.retained_residue machine bdev
  · rw [← here.tracing]
    exact middle.retained_tracing machine bdev
  · rw [← here.table]
    unfold Kernel.retained
    split <;> rfl

/-- What comes after the reference fails: the reference stays. -/
theorem Retaining.unplaced {good : SnapDevice → Prop} {kept after : Kernel}
    (retaining : Retaining machine dev paths bdev kernel kept)
    (late : ¬ Late machine kernel.faults) (there : Beside machine dev paths kept good after) :
    Unplaced machine (Leaky machine kernel.faults) dev paths good kernel after := by
  refine ⟨⟨retaining.apart.trans there.apart, there.table.trans retaining.table, there.wired, ?_⟩,
    there.allocated, there.device⟩
  rw [there.tracing]
  exact .single (.leaked (.inl fun _ => late) retaining.residue)

/-- The end of the setup, from the start of the COW thread on. -/
theorem runTracing_spec (ready : Ready machine kernel dev device bdev minor)
    {kept third : Kernel} {relPath : Nat}
    (retaining : Retaining machine dev paths bdev kernel kept)
    (there : Beside machine dev paths kept
      (fun after => after =
        { device with
          sdCowPath := some relPath
          sdGd := isSnap || device.sdGd
          sdMrfThread := isSnap || device.sdMrfThread
          sdCowThread := true }) third) :
    wp
      (do
        wakeUpCowThread dev
        tracerSetupTracing machine dev minor)
      (fun _ => Placed machine (Leaky machine kernel.faults) dev paths minor
        (fun after => ∃ bdOps orig trops,
          after = device.activated isSnap minor relPath bdOps orig trops) kernel)
      (OnError (Unplaced machine (Leaky machine kernel.faults) dev paths
        (fun after => after.sdOrigRequestFn = none) kernel)) third := by
  obtain ⟨apart, residue, shown, table⟩ := retaining
  have outside := ready.outside.unchanged table
  obtain ⟨_, found', owns', rfl⟩ := there.device
  have before : third.tracing = kept.tracing := there.tracing
  unfold wakeUpCowThread
  rw [wp_bind, wp_bind, wp_getDev found', wp_ite, if_pos rfl, wp_pure]
  apply wp_mono (tracerSetupTracing_spec there.wired (outside.unchanged there.table)
    ready.bound there.allocated found' ready.based fun _ => ready.trops)
  · intro _ after entered
    obtain ⟨bdOps, orig, trops, hooked, device', same, hooks, found'', shown'⟩ := entered.hooks
    constructor
    · exact apart.trans (there.apart.trans (entered.aside.apart paths))
    · rw [entered.table, there.table, table]
    · exact entered.wired
    · refine ⟨device', found'', ?_, bdOps, orig, trops, same⟩
      intro cow object has stored
      rw [entered.aside.cows] at stored
      rw [same] at has
      exact owns' cow object has stored
    · rw [shown']
      apply Relation.ReflTransGen.single
      rw [before, shown] at hooks
      apply Operation.started ready.bound ready.slot ready.notTraced _ _ _ _ hooks
      · rw [same]
      · rw [same]
        exact ready.verified
      · rw [same]
        exact ready.based
      · rw [same]
        exact ready.path
  · intro reason after failed error same
    have refused := failed error same
    have residue' := refused.residue
    rw [before] at residue'
    refine ⟨⟨apart.trans (there.apart.trans (refused.aside.apart paths)),
      refused.table.trans (there.table.trans table), refused.wired, ?_⟩,
      Nat.lt_of_lt_of_le there.allocated refused.aside.fresh, ?_⟩
    rotate_left
    · obtain ⟨bdOps, trops, found''⟩ := refused.device
      refine ⟨_, found'', ?_, rfl⟩
      intro cow object has stored
      rw [refused.aside.cows] at stored
      exact owns' cow object has stored
    · apply Relation.ReflTransGen.single
      apply Operation.leaked _ (Residue.trans residue residue')
      by_cases legacy : machine.build = .makeRequest
      · obtain ⟨_, unmounted | fault | none⟩ := refused.legacy legacy
        · rw [there.apart.mounted, apart.mounted] at unmounted
          exact absurd unmounted ready.mounted
        · apply Or.inl
          intro _ late
          rw [there.apart.faults, apart.faults] at fault
          exact fault late.2
        · apply Or.inr
          refine ⟨bdev, fun orig took => none orig ?_⟩
          rw [before, shown]
          exact took.retained
      · exact .inl fun legacy' => absurd legacy' legacy

/-- The end of the setup, from the reference to the `make_request_fn` on. -/
theorem activate_tail (ready : Ready machine kernel dev device bdev minor) {middle : Kernel}
    {relPath : Nat}
    (here : Beside machine dev paths kernel
      (fun after => after = { device with sdCowPath := some relPath }) middle) :
    wp
      (do
        retainMrf machine dev
        when isSnap (tracerSetupSnap dev)
        tracerSetupCowThread .cowThread dev
        wakeUpCowThread dev
        tracerSetupTracing machine dev minor)
      (fun _ => Placed machine (Leaky machine kernel.faults) dev paths minor
        (fun after => ∃ bdOps orig trops,
          after = device.activated isSnap minor relPath bdOps orig trops) kernel)
      (OnError (Unplaced machine (Leaky machine kernel.faults) dev paths
        (fun after => after.sdOrigRequestFn = none) kernel)) middle := by
  obtain ⟨_, found, _, rfl⟩ := here.device
  rw [wp_bind]
  apply wp_mono (retainMrf_spec found ready.based)
  · rintro _ _ rfl
    have begun : Beside machine dev paths (middle.retained machine bdev) _
        (middle.retained machine bdev) := (middle.retained_beside here).2
    have retaining : Retaining machine dev paths bdev kernel (middle.retained machine bdev) :=
      here.retaining bdev
    generalize middle.retained machine bdev = kept at *
    have outside := ready.outside.unchanged retaining.table
    have snap : wp (when isSnap (tracerSetupSnap dev))
        (fun _ => Beside machine dev paths kept fun after => after =
          { device with
            sdCowPath := some relPath
            sdGd := isSnap || device.sdGd
            sdMrfThread := isSnap || device.sdMrfThread })
        (fun _ => Beside machine dev paths kept fun after => after.sdOrigRequestFn = none) kept := by
      apply begun.step outside
      intro _ same
      rw [same]
      apply Concerns.when
      · intro snapshot
        rw [snapshot]
        apply tracerSetupSnap_concerns.mono
        · exact fun _ _ => id
        · rintro _ _ ⟨_, _, rfl⟩
          exact ready.orig
      · intro inc
        rw [inc]
        rfl
    have sure : wp (when isSnap (tracerSetupSnap dev)) (fun _ _ => True)
        (fun _ _ => ¬ Late machine kernel.faults) kept := by
      apply wp_ensures
      intro late
      rw [not_not, ← retaining.apart.faults] at late
      obtain ⟨_, found', _⟩ := begun.device
      cases isSnap with
      | true => exact tracerSetupSnap_late late found'
      | false => trivial
    rw [wp_bind]
    apply wp_mono (wp_and snap sure)
    · rintro _ second ⟨there, _⟩
      have thread : wp (tracerSetupCowThread .cowThread dev)
          (fun _ => Beside machine dev paths kept fun after => after =
            { device with
              sdCowPath := some relPath
              sdGd := isSnap || device.sdGd
              sdMrfThread := isSnap || device.sdMrfThread
              sdCowThread := true })
          (fun _ => Beside machine dev paths kept fun after => after.sdOrigRequestFn = none)
          second := by
        apply there.step outside
        intro _ same
        rw [same]
        apply (tracerSetupCowThread_concerns .cowThread).mono
        · exact fun _ _ => id
        · intro _ _ same
          rw [same]
          exact ready.orig
      have sure : wp (tracerSetupCowThread .cowThread dev) (fun _ _ => True)
          (fun _ _ => ¬ Late machine kernel.faults) second := by
        apply wp_ensures
        intro late
        obtain ⟨_, found', _⟩ := there.device
        apply tracerSetupCowThread_late _ found'
        rw [there.apart.faults, retaining.apart.faults]
        exact (not_not.mp late).1 _ (by decide)
      rw [wp_bind]
      apply wp_mono (wp_and thread sure)
      · rintro _ third ⟨there, _⟩
        exact runTracing_spec ready retaining there
      · rintro reason after ⟨there, late⟩ error same
        exact retaining.unplaced late there
    · rintro reason after ⟨there, late⟩ error same
      exact retaining.unplaced late there
  · intro reason after failed error same
    rw [failed error same]
    exact (here.weaken fun _ same => by rw [same]; exact ready.orig).unplaced

theorem activate_spec (ready : Ready machine kernel dev device bdev minor)
    (owns : Owns paths kernel device) :
    wp (activate machine dev minor isSnap)
      (fun _ => Placed machine (Leaky machine kernel.faults) dev paths minor
        (fun after => ∃ relPath bdOps orig trops,
          after = device.activated isSnap minor relPath bdOps orig trops) kernel)
      (OnError (Unplaced machine (Leaky machine kernel.faults) dev paths
        (fun after => after.sdOrigRequestFn = none) kernel)) kernel := by
  have begun : Beside machine dev paths kernel (fun after => after = device) kernel :=
    ⟨(Aside.refl dev kernel).apart paths, ready.allocated, rfl, rfl, ready.wired, device,
      ready.found, owns, rfl⟩
  have path : wp (tracerSetupCowPath dev)
      (fun _ => Beside machine dev paths kernel fun after =>
        ∃ relPath, after = { device with sdCowPath := some relPath })
      (fun _ => Beside machine dev paths kernel fun after => after.sdOrigRequestFn = none)
      kernel := by
    apply begun.step ready.outside
    intro _ same
    rw [same]
    apply tracerSetupCowPath_concerns.mono
    · exact fun _ _ => id
    · rintro _ _ (same | same)
      · rw [same]
        exact ready.orig
      · rw [same]
        exact ready.orig
  unfold activate
  rw [wp_bind]
  apply wp_mono path
  · intro _ middle here
    obtain ⟨after, found, owns, relPath, same⟩ := here.device
    have there : Beside machine dev paths kernel
        (fun after => after = { device with sdCowPath := some relPath }) middle :=
      { here with device := ⟨after, found, owns, same⟩ }
    apply wp_mono (activate_tail ready there)
    · intro _ after placed
      obtain ⟨after, found, owns, hooks⟩ := placed.device
      exact { placed with device := ⟨after, found, owns, relPath, hooks⟩ }
    · exact fun _ _ => id
  · exact fun _ _ here _ _ => here.unplaced

/-- A device that was not placed goes on. -/
theorem Unplaced.then {good good' : SnapDevice → Prop} {before middle after : Kernel}
    (here : Unplaced machine leaky dev paths good before middle)
    (there : Beside machine dev paths middle good' after) :
    Unplaced machine leaky dev paths good' before after where
  apart := here.apart.trans there.apart
  allocated := there.allocated
  table := there.table.trans here.table
  wired := there.wired
  device := there.device
  operations := there.tracing ▸ here.operations

theorem Unplaced.begun {good : SnapDevice → Prop} {before middle : Kernel}
    (here : Unplaced machine leaky dev paths good before middle) :
    Beside machine dev paths middle good middle :=
  ⟨(Aside.refl dev middle).apart paths, here.allocated, rfl, rfl, here.wired, here.device⟩

/-- `tracer_destroy` after a setup that failed. -/
theorem Unplaced.destroyed {good : SnapDevice → Prop} {before middle : Kernel}
    (outside : before.Outside dev) (here : Unplaced machine leaky dev paths good before middle)
    (orig : ∀ device, good device → device.sdOrigRequestFn = none) :
    wp (tracerDestroy machine dev)
      (fun _ => Unplaced machine leaky dev paths
        (fun after => ∃ device, good device ∧ TornDown { device with sdMinor := 0 } after) before)
      (OnError fun _ => False) middle := by
  have torn := tracerDestroy_beside (outside.unchanged here.table) here.begun orig
  apply wp_mono (wp_and torn (tracerDestroy_silent middle))
  · exact fun _ _ there => here.then there.1
  · exact fun _ _ aborts error same => absurd same (aborts.2 error)

/-- The block device is mounted when the COW file was found on it. -/
theorem tracerSetupCow_mounted {path : CowPath} (method : OpenMethod) :
    wp (tracerSetupCow machine dev bdev path method)
      (fun _ after => after.mounted bdev ≠ .unmounted) (fun _ _ => True) kernel := by
  unfold tracerSetupCow
  rw [wp_unwinding, wp_bind]
  have open_ : wp (openCow machine dev path method) (fun _ _ => True) (fun _ _ => True) kernel :=
    wp_true _ _
  apply wp_mono open_
  · intro _ middle _
    rw [wp_bind]
    unfold fileIsOnBdev
    rw [wp_bind, wp_read, wp_pure, wp_when]
    split
    · rw [wp_stop]
      exact wp_true _ _
    · rename_i there
      simp only [Bool.not_eq_true', Bool.not_eq_false, Bool.and_eq_true, decide_eq_true_eq] at there
      exact there.1
  · intro reason after _
    cases reason with
    | errno error => exact wp_true _ _
    | oops => trivial
    | crash => trivial

theorem Kernel.NotTraced.tracing (apart : kernel.NotTraced bdev) : kernel.tracing.NotTraced bdev := by
  intro minor device verified
  obtain ⟨dev, held⟩ := Kernel.holds_of_slot verified.1
  exact apart minor dev device held verified.2

theorem tracerSetupBaseDev_beside {before : Kernel} (bdevPath : Nat) (outside : before.Outside dev)
    (here : Beside machine dev paths before (fun after => after = device) kernel) :
    wp (tracerSetupBaseDev machine dev bdevPath)
      (fun _ after => before.tracing.NotTraced (machine.bdevAt bdevPath) ∧
        Beside machine dev paths before
          (fun after => after = device.withBase machine bdevPath) after)
      (fun _ => Beside machine dev paths before (OnlyBase device)) kernel := by
  obtain ⟨_, found, owns, rfl⟩ := here.device
  apply wp_mono (tracerSetupBaseDev_spec machine bdevPath here.wired.range
    (outside.unchanged here.table) found owns)
  · rintro _ _ ⟨apart, there⟩
    have apart' := apart.tracing
    rw [here.tracing] at apart'
    exact ⟨apart', here.next outside there⟩
  · exact fun _ _ there => here.next outside there

/-- A device that was allocated and is in no slot is to be set up at this minor. -/
structure Blank (machine : Machine) (kernel : Kernel) (dev : Address) (minor : Nat) : Prop where
  outside : kernel.Outside dev
  bound : minor < machine.maxSnapDevices
  free : kernel.snapDevices minor = none

/-- The setup of a device whose base device is known. -/
theorem setup_based {before : Kernel} {path : CowPath} (inside : paths path)
    (blank : Blank machine before dev minor)
    (here : Beside machine dev paths before (fun after => after = device) kernel)
    (apart : before.tracing.NotTraced bdev) (based : device.sdBaseDev = some bdev)
    (bdevPath : device.sdBdevPath.isSome) (verified : device.unverified = false)
    (orig : device.sdOrigRequestFn = none) (trops : device.sdTracingOps = none)
    (method : SnapDevice → OpenMethod) :
    wp
      (do
        let device ← getDev dev
        let bdev ← deref device.sdBaseDev
        tracerSetupCow machine dev bdev path (method device)
        activate machine dev minor isSnap)
      (fun _ => Placed machine (Leaky machine before.faults) dev paths minor
        (fun after => ∃ opened relPath bdOps orig trops,
          (method device).Opened machine device opened ∧
          after = opened.activated isSnap minor relPath bdOps orig trops) before)
      (OnError (Unplaced machine (Leaky machine before.faults) dev paths
        (fun after => after.sdOrigRequestFn = none) before)) kernel := by
  have opens : wp (tracerSetupCow machine dev bdev path (method device))
      (fun _ => Beside machine dev paths before ((method device).Opened machine device))
      (fun _ => Beside machine dev paths before fun after => after.sdOrigRequestFn = none)
      kernel := by
    apply here.step blank.outside
    intro _ same
    rw [same]
    apply (tracerSetupCow_concerns inside bdev (method device)).mono (fun _ _ => id)
    rintro _ _ ⟨_, _, _, same⟩
    rw [same]
    exact orig
  obtain ⟨after, found, _, same⟩ := here.device
  subst after
  rw [wp_bind, wp_getDev found, wp_bind, wp_deref_some based, wp_bind]
  apply wp_mono (wp_and opens (tracerSetupCow_mounted (method device)))
  · rintro _ middle ⟨there, mounted⟩
    obtain ⟨opened, found', owns, sets⟩ := there.device
    obtain ⟨_, _, _, same⟩ := sets.onlyCow
    have ready : Ready machine middle dev opened bdev minor := by
      constructor
      · exact there.wired
      · exact blank.outside.unchanged there.table
      · exact there.allocated
      · exact blank.bound
      · rw [there.table]
        exact blank.free
      · rw [there.tracing]
        exact apart
      · exact mounted
      · exact found'
      · rw [same]
        exact based
      · rw [same]
        exact bdevPath
      · rw [same]
        exact verified
      · rw [same]
        exact orig
      · rw [same]
        exact trops
    have faults : middle.faults = before.faults := there.apart.faults
    apply wp_mono (activate_spec ready owns)
    · intro _ after placed
      obtain ⟨after', found'', owns', relPath, bdOps, orig, trops, same⟩ := placed.device
      constructor
      · exact there.apart.trans placed.apart
      · rw [placed.table, there.table]
      · exact placed.wired
      · exact ⟨after', found'', owns', opened, relPath, bdOps, orig, trops, sets, same⟩
      · rw [← there.tracing, ← faults]
        exact placed.operations
    · intro reason after failed error same
      have stuck := failed error same
      refine ⟨⟨?_, ?_, stuck.wired, ?_⟩, stuck.allocated, stuck.device⟩
      · exact there.apart.trans stuck.apart
      · exact stuck.table.trans there.table
      · rw [← there.tracing, ← faults]
        exact stuck.operations
  · rintro reason after ⟨there, _⟩ _ _
    exact there.unplaced

theorem Missed.refl (wired : kernel.Wired machine) :
    Missed machine leaky dev paths kernel kernel :=
  ⟨(Aside.refl dev kernel).apart paths, rfl, wired, .refl⟩

/-- A device in no slot was freed. -/
structure Freed (machine : Machine) (dev : Address) (before after : Kernel) : Prop where
  aside : Aside dev before after
  table : after.snapDevices = before.snapDevices
  wired : after.Wired machine
  tracing : after.tracing = before.tracing
  gone : after.devices dev = none

theorem kfreeDev_frees (wired : kernel.Wired machine) (outside : kernel.Outside dev) :
    wp (kfreeDev dev) (fun _ => Freed machine dev kernel) (fun _ _ => False) kernel := by
  let freed : Kernel := { kernel with devices := Function.update kernel.devices dev none }
  have others : ∀ other, other ≠ dev → freed.devices other = kernel.devices other :=
    fun other away => Function.update_of_ne away _ _
  have slots := tracing_outside outside others rfl
  constructor
  · exact ⟨rfl, rfl, rfl, rfl, rfl, rfl, rfl, Nat.le_refl _, others⟩
  · rfl
  · apply wired.left others
    · exact fun other kept held => ⟨held, fun same => outside other (same ▸ held)⟩
    · exact Nat.le_refl _
    · exact wired.range
    · exact wired.unallocated
  · change { kernel.tracing with slots := freed.tracing.slots } = kernel.tracing
    rw [slots]
  · exact Function.update_self _ _ _

theorem kfreeDev_missed {before : Kernel} (outside : before.Outside dev)
    (here : Missed machine leaky dev paths before kernel) :
    wp (kfreeDev dev) (fun _ => Missed machine leaky dev paths before) (fun _ _ => False)
      kernel := by
  apply wp_mono (kfreeDev_frees here.wired (outside.unchanged here.table)) _ fun _ _ => id
  intro _ after freed
  constructor
  · exact here.apart.trans (freed.aside.apart paths)
  · exact freed.table.trans here.table
  · exact freed.wired
  · rw [freed.tracing]
    exact here.operations

theorem tracerAlloc_spec (wired : kernel.Wired machine) (paths : CowPath → Prop) :
    wp tracerAlloc
      (fun dev after => dev = kernel.fresh ∧
        Beside machine dev paths kernel (fun device => device = .zero) after)
      (fun _ after => after = kernel) kernel := by
  unfold tracerAlloc kzalloc
  rw [wp_bind, wp_attempt]
  split
  · rw [wp_bind, wp_bind, wp_read, wp_bind, wp_update, wp_pure, wp_bind, wp_update, wp_pure]
    have outside : kernel.Outside kernel.fresh := fun minor held =>
      absurd (wired.allocated minor _ held) (Nat.lt_irrefl _)
    let after := Kernel.setDev { kernel with fresh := kernel.fresh + 1 } kernel.fresh .zero
    have others : ∀ other, other ≠ kernel.fresh → after.devices other = kernel.devices other :=
      fun other away => Function.update_of_ne away _ _
    have aside : Aside kernel.fresh kernel after :=
      ⟨rfl, rfl, rfl, rfl, rfl, rfl, rfl, Nat.le_succ _, others⟩
    have slots := tracing_outside outside others rfl
    refine ⟨rfl, aside.apart paths, Nat.lt_succ_self _, rfl, ?_, ?_, ?_⟩
    · change { kernel.tracing with slots := after.tracing.slots } = kernel.tracing
      rw [slots]
    · apply wired.left others
      · exact fun other kept held => ⟨held, fun same => outside other (same ▸ held)⟩
      · exact Nat.le_succ _
      · exact wired.range
      · exact fun address above => wired.unallocated address (Nat.le_of_succ_le above)
    · refine ⟨_, Kernel.setDev_same _ _ _, ?_, rfl⟩
      intro cow object has _
      cases has
  · rfl

/-- A new snapshot device before it is set up. -/
def SnapDevice.newSnap : SnapDevice :=
  { SnapDevice.zero with snapshot := true, active := true, unverified := false }

/-- What a setup of a snapshot leaves in the table. -/
def SetUp (machine : Machine) (minor bdevPath fallocatedSpace cacheSize : Nat)
    (uuid : BitVec 128) (after : SnapDevice) : Prop :=
  ∃ opened relPath bdOps orig trops,
    (OpenMethod.new (machine.bdevSize (machine.bdevAt bdevPath)) fallocatedSpace cacheSize uuid
      1).Opened machine (SnapDevice.newSnap.withBase machine bdevPath) opened ∧
    after = opened.activated true minor relPath bdOps orig trops

theorem tracerSetupActiveSnap_spec {before : Kernel} {path : CowPath} (inside : paths path)
    (blank : Blank machine before dev minor)
    (here : Beside machine dev paths before (fun device => device = .zero) kernel)
    (bdevPath fallocatedSpace cacheSize : Nat) (uuid : BitVec 128) :
    wp (tracerSetupActiveSnap machine dev minor bdevPath path fallocatedSpace cacheSize uuid)
      (fun _ => Placed machine (Leaky machine before.faults) dev paths minor
        (SetUp machine minor bdevPath fallocatedSpace cacheSize uuid) before)
      (OnError (Missed machine (Leaky machine before.faults) dev paths before)) kernel := by
  have flags := here.setDev (f := fun device =>
    { device with snapshot := true, active := true, unverified := false }) blank.outside
    (fun device => device = .newSnap) fun device same => ⟨id, by rw [same]; rfl⟩
  have destroys : ∀ {good : SnapDevice → Prop} {middle : Kernel} (error : Errno),
      Unplaced machine (Leaky machine before.faults) dev paths good before middle →
      (∀ device, good device → device.sdOrigRequestFn = none) →
      wp (tracerDestroy machine dev)
        (fun _ => OnError (Missed machine (Leaky machine before.faults) dev paths before)
          (.errno error))
        (OnError (Missed machine (Leaky machine before.faults) dev paths before)) middle := by
    intro good middle error stuck orig
    apply wp_mono (stuck.destroyed blank.outside orig)
    · exact fun _ after gone _ _ => gone.toMissed
    · exact fun _ _ never error same => (never error same).elim
  unfold tracerSetupActiveSnap
  rw [wp_bind]
  apply wp_mono flags
  · intro _ middle here
    rw [wp_unwinding, wp_bind]
    apply wp_mono (tracerSetupBaseDev_beside bdevPath blank.outside here)
    · rintro _ middle ⟨apart, here⟩
      apply wp_mono (setup_based inside blank here apart rfl rfl rfl rfl rfl
        fun device => .new device.sdSize fallocatedSpace cacheSize uuid 1)
      · exact fun _ _ placed => placed
      · intro reason after failed
        cases reason with
        | errno error => exact destroys error (failed error rfl) fun _ => id
        | oops => exact OnError.oops _
        | crash => exact OnError.crash _
    · intro reason after here
      cases reason with
      | errno error =>
          apply destroys error here.unplaced
          rintro _ ⟨_, _, _, rfl⟩
          rfl
      | oops => exact OnError.oops _
      | crash => exact OnError.crash _
  · exact fun _ _ => False.elim

end Moocbt.Driver
