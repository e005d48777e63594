import Moocbt.Driver.Replacing
import Moocbt.Logic.Transition

/-! Whatever happens, the table is in order between two events. -/

namespace Moocbt.Driver

open Cow (Errno Stop)
open Program

variable {α : Type} {machine : Machine} {kernel before after : Kernel} {dev : Address}
  {device : SnapDevice} {bdev minor : Nat} {terms : Terms}

theorem verifyMinor_notBusy :
    wp (verifyMinor machine minor .inUseNotBusy)
      (fun _ after => after = kernel ∧
        ∃ dev device, kernel.Holds minor dev device ∧ device.sdRefs = 0)
      (OnError fun after => after = kernel) kernel := by
  unfold verifyMinor
  rw [wp_bind, wp_read, wp_ite]
  split
  · exact fun _ _ => rfl
  · cases slot : kernel.snapDevices minor with
    | none => exact fun _ _ => rfl
    | some dev =>
        dsimp only
        cases found : kernel.devices dev with
        | none =>
            rw [wp_bind, wp_getDev_freed found]
            exact OnError.oops _
        | some device =>
            rw [wp_bind, wp_getDev found, wp_ite]
            split
            · exact fun _ _ => rfl
            · rename_i idle
              exact ⟨rfl, dev, device, ⟨slot, found⟩, not_not.mp idle⟩

/-- Most commands begin with the device of a minor. -/
theorem verified_first {program : Address → KernelM Unit} {done : Unit → Kernel → Prop}
    {left : Kernel → Prop} (holds : left kernel)
    (goes : ∀ dev device, kernel.Holds minor dev device → device.sdRefs = 0 →
      wp (program dev) done (OnError left) kernel) :
    wp
      (do
        verifyMinor machine minor .inUseNotBusy
        let dev ← slotDev minor
        program dev) done (OnError left) kernel := by
  rw [wp_bind]
  apply wp_mono verifyMinor_notBusy
  · intro _ after checked
    obtain ⟨same, dev, device, held, idle⟩ := checked
    rw [same, wp_bind, slotDev_spec held.1]
    exact goes dev device held idle
  · intro _ after failed
    refine failed.mono fun after same => ?_
    rw [same]
    exact holds

/-- The device of a minor can be destroyed without being kept in its slot. -/
def Kernel.Vacates (machine : Machine) (kernel : Kernel) (minor : Nat) : Prop :=
  ∀ device, kernel.tracing.slots minor = some device → device.sdRefs = 0 →
    kernel.LetsGo machine device

instance (machine : Machine) (kernel : Kernel) (minor : Nat) :
    Decidable (kernel.Vacates machine minor) :=
  decidable_of_iff
    (∀ device ∈ kernel.tracing.slots minor, device.sdRefs = 0 →
      device.sdOrigRequestFn.isSome = true → ∀ bdev ∈ device.sdBaseDev,
        kernel.Freezes machine bdev device)
    Iff.rfl

theorem ioctlDestroy_orders (order : kernel.InOrder machine terms)
    (given : terms.refs → machine.build ≠ .makeRequest → ∀ dev device,
      kernel.Holds minor dev device → device.unverified = true → device.sdTracingOps = none)
    (releases : terms.live → kernel.Vacates machine minor) :
    Orders machine terms (ioctlDestroy machine minor) kernel := by
  apply verified_first order
  intro dev device held idle
  rw [wp_bind]
  apply tracerDestroy_silent.onError
  apply wp_mono (tracerDestroy_orderly order held) _ fun _ _ _ => trivial
  intro _ middle destroyed
  obtain ⟨orderly, gone, cleared⟩ := destroyed
  apply wp_mono (kfreeDev_orderly orderly _ _) (fun _ _ => id) fun _ _ => False.elim
  · intro is modern
    apply gone modern
    cases verified : device.unverified with
    | false => exact .inl ((order.settled minor dev device held id).tracing modern verified).2
    | true => exact .inr (given is modern dev device held verified)
  · intro is
    apply cleared
    exact releases is device held.slot idle

/-- A device whose mode can be changed. -/
structure SnapDevice.Changes (isSnap : Bool) (device : SnapDevice) : Prop where
  sdRefs : device.sdRefs = 0
  sdFailCode : device.sdFailCode = none
  snapshot : device.snapshot = isSnap
  active : device.active = true

instance (isSnap : Bool) (device : SnapDevice) : Decidable (device.Changes isSnap) :=
  decidable_of_iff (device.sdRefs = 0 ∧ device.sdFailCode = none ∧ device.snapshot = isSnap ∧
      device.active = true)
    ⟨fun checks => ⟨checks.1, checks.2.1, checks.2.2.1, checks.2.2.2⟩,
      fun changes => ⟨changes.sdRefs, changes.sdFailCode, changes.snapshot, changes.active⟩⟩

/-- A change of mode begins with these checks. -/
theorem change_first {isSnap : Bool} {program : Address → KernelM Unit}
    {done : Unit → Kernel → Prop} {left : Kernel → Prop} (holds : left kernel)
    (goes : ∀ dev device, kernel.Holds minor dev device → device.Changes isSnap →
      wp (program dev) done (OnError left) kernel) :
    wp
      (do
        verifyMinor machine minor .inUseNotBusy
        let dev ← slotDev minor
        verifyActive dev isSnap
        program dev) done (OnError left) kernel := by
  apply verified_first holds
  intro dev device held idle
  unfold verifyActive
  rw [wp_bind, wp_bind, wp_getDev held.2, wp_ite]
  split
  · exact fun _ _ => holds
  · rename_i fine
    rw [wp_ite]
    split
    · exact fun _ _ => holds
    · rename_i mode
      apply goes dev device held
      constructor
      · exact idle
      · simpa using fine
      · exact not_not.mp fun differs => mode (.inl differs)
      · simpa using fun inactive => mode (.inr inactive)

theorem ioctlTransitionInc_orders (order : kernel.InOrder machine terms)
    (refused : terms.refs → machine.build ≠ .makeRequest → ∀ dev device,
      kernel.Holds minor dev device → device.Changes true → kernel.faults .tracerAlloc ≠ none ∨
        kernel.faults .cowThread ≠ none ∨ kernel.Uncopied machine) :
    Orders machine terms (ioctlTransitionInc machine minor) kernel := by
  apply change_first order
  intro dev device held changes
  exact tracerActiveSnapToInc_orders order held fun is modern =>
    refused is modern dev device held changes

theorem ioctlTransitionSnap_orders {path : CowPath} {fallocatedSpace : Nat}
    (order : kernel.InOrder machine terms)
    (refused : terms.refs → machine.build ≠ .makeRequest → ∀ dev device,
      kernel.Holds minor dev device → device.Changes false → kernel.faults .tracerAlloc ≠ none ∨
        (∀ bdev cow object, device.sdBaseDev = some bdev → device.sdCow = some cow →
          kernel.cows cow = some object → ¬ Reaches kernel bdev path
            (kernel.nextCreation machine device object path fallocatedSpace)) ∨
        kernel.Uncopied machine) :
    Orders machine terms (ioctlTransitionSnap machine minor path fallocatedSpace) kernel := by
  apply change_first order
  intro dev device held changes
  exact tracerActiveIncToSnap_orders order held fun is modern =>
    refused is modern dev device held changes

section alone

theorem Minds.drain (jobs : List Job) : Minds dev (Driver.drain dev jobs) :=
  .of_concerns (fun _ => drain_concerns jobs) (fun _ _ _ may => may.steady)
    fun _ _ _ may => may.steady

theorem Minds.tracerReconfigure (cacheSize : Nat) :
    Minds dev (Driver.tracerReconfigure machine dev cacheSize) := by
  apply Minds.bind
  · exact .setDev (fun _ => .inl rfl) fun device => { Steady.refl device with }
  · intro _
    apply Minds.getDevThen
    intro device
    apply Concerns.when
    · intro _
      apply Concerns.derefThen fun _ _ => .refl device
      intro cow has
      exact .runCow has _ (fun _ => .refl device) fun _ _ _ => .refl device
    · exact fun _ => .refl device

theorem ioctlReconfigure_orders (order : kernel.InOrder machine terms) (cacheSize : Nat) :
    Orders machine terms (ioctlReconfigure machine minor cacheSize) kernel := by
  apply verified_first order
  intro dev device held _
  rw [wp_bind, wp_getDev held.2, wp_ite]
  split
  · exact fun _ _ => order
  · exact (Minds.tracerReconfigure cacheSize).orderly order held.2

/-- What is done with the device of a minor. -/
theorem slotted_first {program : Address → SnapDevice → KernelM Unit} {done : Unit → Kernel → Prop}
    {left : Kernel → Prop}
    (goes : ∀ dev device, kernel.Holds minor dev device →
      wp (program dev device) done (OnError left) kernel) :
    wp
      (do
        let dev ← slotDev minor
        let device ← getDev dev
        program dev device) done (OnError left) kernel := by
  cases slot : kernel.snapDevices minor with
  | none =>
      unfold slotDev
      rw [wp_bind, wp_bind, wp_read, slot, wp_deref]
      exact OnError.oops _
  | some dev =>
      rw [wp_bind, slotDev_spec slot]
      cases found : kernel.devices dev with
      | none =>
          rw [wp_bind, wp_getDev_freed found]
          exact OnError.oops _
      | some device =>
          rw [wp_bind, wp_getDev found]
          exact goes dev device ⟨slot, found⟩

theorem snapRefs_orders (order : kernel.InOrder machine terms) (change : Nat → Nat) :
    Orders machine terms (snapRefs minor change) kernel := by
  apply slotted_first
  intro dev device held
  have counts : Minds dev (setDev dev fun device => { device with sdRefs := change device.sdRefs }) :=
    .setDev (fun _ => .inl rfl) fun device => { Steady.refl device with }
  rw [wp_ite]
  split
  · exact counts.orderly order held.2
  · exact fun _ _ => order

theorem cowThreadStep_orders (order : kernel.InOrder machine terms) :
    Orders machine terms (cowThreadStep minor) kernel := by
  apply slotted_first
  intro dev device held
  cases device.sdPending with
  | nil => exact order
  | cons job rest =>
      have works : Minds dev (when device.sdCowThread do
          setDev dev fun device => { device with sdPending := rest }
          drain dev [job]) := by
        apply Minds.when
        apply Minds.bind
        · exact .setDev (fun _ => .inl rfl) fun device => { Steady.refl device with }
        · exact fun _ => .drain _
      exact works.orderly order held.2

theorem traceWrite_orders (order : kernel.InOrder machine terms) (jobs : List Job) :
    Orders machine terms (traceWrite bdev jobs) kernel := by
  have looks : ∀ (minor : Nat) (device : SnapDevice), Reads kernel
      (if device.unverified || device.sdActive = 0 || decide (device.sdBaseDev ≠ some bdev) then
        pure false
      else pure device.sdFailCode.isNone) fun _ => True := by
    intro _ device
    unfold Reads
    rw [wp_ite]
    split
    · exact ⟨rfl, trivial⟩
    · exact ⟨rfl, trivial⟩
  unfold Orders traceWrite
  rw [wp_bind]
  apply wp_mono (tracerForEach_reads order.inRange looks)
  · intro found after walked
    obtain ⟨same, holds⟩ := walked
    rw [same]
    cases found with
    | none => exact order
    | some pair =>
        obtain ⟨device, held, _⟩ := holds
        have queues : Minds pair.2 (setDev pair.2 fun device =>
            { device with sdPending := device.sdPending ++ jobs }) :=
          .setDev (fun _ => .inl rfl) fun device => { Steady.refl device with }
        exact queues.orderly order held.2
  · intro _ _ stopped
    rw [stopped.2]
    exact OnError.oops _

end alone

section mounts

/-- What a device that traces does on its own: its state may change. -/
theorem Local.orderly_verified {paths : CowPath → Prop} (order : before.InOrder machine terms)
    (found : before.devices dev = some device) (verified : device.unverified = false)
    (there : Local dev paths before (SameTracing device) after) : after.InOrder machine terms := by
  obtain ⟨device', found', _, same⟩ := there.device
  apply order.elsewhere there.elsewhere (order.devices dev device found)
  · simp [found']
  · simp [Kernel.heldOps, found, found', same.sdTracingOps]
  · intro minor kept held idle
    cases found'.symm.trans held.2
    have settled := order.settled minor dev device
      ⟨(congrFun there.elsewhere.table minor).symm.trans held.1, found⟩ id
    constructor
    · exact same.sdMinor.trans settled.sdMinor
    · rw [same.unverified, same.sdTracingOps, same.sdOrigRequestFn]
      exact settled.tracing
  · intro kept found'' idle waits
    cases found'.symm.trans found''
    exact absurd (verified.symm.trans (same.unverified.symm.trans waits)) (by simp)

theorem tracerActiveToDormant_concerns :
    Concerns dev (fun _ => True) device (tracerActiveToDormant dev) (fun _ => SameTracing device)
      (fun _ => SameTracing device) := by
  have threads : Concerns dev (fun _ => True) device (tracerDestroyCowThread dev)
      (fun _ => SameTracing device) (fun _ => SameTracing device) := by
    apply tracerDestroyCowThread_concerns.mono _ fun _ _ => id
    intro _ after stopped
    obtain ⟨drained, may, is⟩ := stopped
    rw [is]
    split
    · exact { may.tracing with }
    · exact .refl device
  apply threads.bind
  intro _ drained same
  have closes : Concerns dev (fun _ => True) drained
      (do
        tracerDestroyCow dev .syncAndClose
        setDev dev fun device => { device with active := false })
      (fun _ => SameTracing device) (fun _ => SameTracing device) := by
    apply Concerns.bind ((tracerDestroyCow_concerns .syncAndClose).mono (fun _ _ => id) _)
    · intro _ closed is
      rw [is, if_pos rfl]
      have idle : SameTracing device
          { drained with sdFallocSize := 0, sdCacheSize := 0, active := false } := { same with }
      exact .setDev (.inl rfl) idle
    · intro _ closed is
      obtain ⟨_, is⟩ := is
      rw [is]
      exact { same with }
  apply closes.catching
  · intro error middle same
    have fails : SameTracing device (middle.failed error) := { same with }
    exact .setDev (.inl rfl) fails
  · exact fun _ => id
  · exact fun _ => id

/-- A device that was verified is active again, or has failed. -/
theorem tracerDormantToActive_concerns (verified : device.unverified = false) (mountBdev : Nat) :
    Concerns dev (fun _ => True) device (tracerDormantToActive machine dev mountBdev)
      (fun _ => SameTracing device)
      (fun reason after => ∀ error, reason = .errno error → SameTracing device after) := by
  have opens : Minds dev (do
      attempt .concatPath
      let device ← getDev dev
      let relPath ← deref device.sdCowPath
      let bdev ← deref device.sdBaseDev
      tracerSetupCow machine dev bdev ⟨mountBdev, relPath⟩ .reopen
      tracerSetupCowThread .cowThread dev
      wakeUpCowThread dev) := by
    apply Minds.bind (.attempt _)
    intro _
    apply Minds.getDevThen
    intro device
    have rest := fun relPath : Nat => fun bdev : Nat => Minds.bind
      (@Minds.tracerSetupCow machine dev bdev ⟨mountBdev, relPath⟩ .reopen) fun _ =>
        Minds.bind (.tracerSetupCowThread .cowThread) fun _ => Minds.wakeUpCowThread
    exact Minds.bind (.deref _) (fun relPath => .bind (.deref _) (rest relPath)) device
  have activates : Concerns dev (fun _ => True) device
      (do
        attempt .concatPath
        let device ← getDev dev
        let relPath ← deref device.sdCowPath
        let bdev ← deref device.sdBaseDev
        tracerSetupCow machine dev bdev ⟨mountBdev, relPath⟩ .reopen
        tracerSetupCowThread .cowThread dev
        wakeUpCowThread dev
        setDev dev fun device => { device with active := true, unverified := false })
      (fun _ => SameTracing device)
      (fun reason after => ∀ error, reason = .errno error → SameTracing device after) := by
    have parts := (opens device).mono (fun _ _ => id)
      fun _ _ steady error same => (steady error same).toSameTracing
    have last : ∀ middle, Steady device middle → Concerns dev (fun _ => True) middle
        (setDev dev fun device => { device with active := true, unverified := false })
        (fun _ => SameTracing device)
        (fun reason after => ∀ error, reason = .errno error → SameTracing device after) := by
      intro middle steady
      have active : SameTracing device { middle with active := true, unverified := false } :=
        { steady.toSameTracing with unverified := verified.symm }
      exact .setDev (.inl rfl) active
    have goes := parts.bind fun _ => last
    simp only [bind_assoc] at goes
    exact goes
  apply activates.catching
  · intro error middle same
    have fails : SameTracing device (middle.failed error) := { same error rfl with }
    exact .setDev (.inl rfl) fails
  · exact fun _ same => same
  · exact fun _ same => same

/-- A device that waits for its block device leaves its slot. -/
theorem tracerDestroyTracing_vacant (order : kernel.InOrder machine terms)
    (held : kernel.Holds minor dev device) (orig : device.sdOrigRequestFn = none) :
    wp (tracerDestroyTracing machine dev)
      (fun _ after => Off machine terms after dev device.sdTracingOps
        (fun after => after = { device with sdMinor := 0 }) after)
      (fun _ _ => False) kernel := by
  have numbered := (order.settled minor dev device held id).sdMinor
  have known := order.devices dev device held.2
  let vacated : Kernel :=
    { kernel with snapDevices := Function.update kernel.snapDevices minor none }
  have slots : ∀ other, vacated.snapDevices other = kernel.snapDevices other ∨
      other = minor ∧ vacated.snapDevices other = none := by
    intro other
    by_cases here : other = minor
    · rw [here]
      exact .inr ⟨rfl, Function.update_self _ _ _⟩
    · exact .inl (Function.update_of_ne here _ _)
  have cleared : Left machine dev minor kernel vacated :=
    .of_same (fun _ _ => rfl) slots (Nat.le_refl _) rfl rfl rfl rfl (fun _ => rfl) rfl
  have found' : vacated.devices dev = some device := held.2
  have left : Left machine dev minor kernel (vacated.setDev dev { device with sdMinor := 0 }) :=
    cleared.trans (.setDev found' rfl)
  unfold tracerDestroyTracing leaveTable vacateSlot
  rw [wp_bind, wp_getDev held.2, wp_bind, if_neg (by simp [orig]), wp_bind, wp_read, wp_when,
    numbered, if_pos (by simp [held.1]), wp_setSlot, wp_bind]
  change wp _ _ _ vacated
  rw [wp_setDev found', wp_minorRangeRecalculate]
  refine ⟨rfl, rfl, rfl, fun _ _ => rfl, ?_, ?_, _, Kernel.setDev_same _ _ _, rfl, rfl⟩
  · exact left.recalculated order (fun _ => False.elim) known (by simp)
  · intro other slot
    have slot : vacated.snapDevices other = some dev := slot
    have same := order.apart held id (cleared.slot slot)
    rw [same] at slot
    exact absurd ((Function.update_self _ _ _).symm.trans slot) (by simp)

/-- The error path parks the device again. -/
theorem unverify_orders {isSnap : Bool} (bound : minor < machine.maxSnapDevices)
    (bdevPath relPath : Nat) (cacheSize : Nat) (error : Errno)
    (spoilt : Off.Spoilt machine terms dev (machine.bdevAt bdevPath) before kernel) :
    wp (unverify machine dev minor bdevPath relPath cacheSize isSnap error)
      (fun _ after => after.InOrder machine terms)
      (OnError fun after => after.InOrder machine terms) kernel := by
  unfold Driver.unverify
  rw [wp_bind]
  apply wp_mono spoilt.tracerDestroy _ fun _ _ => id
  intro _ torn spoilt
  obtain ⟨trops, there, _⟩ := spoilt
  have parks : wp (ignoring (tracerSetupUnverified machine dev minor bdevPath relPath cacheSize
      isSnap)) (fun _ => Parked machine terms dev trops)
      (OnError fun after => after.InOrder machine terms) torn :=
    wp_catching_errors (there.tracerSetupUnverified bound bdevPath relPath cacheSize)
      fun _ _ off => off.parked
  rw [wp_bind]
  apply wp_mono parks _ fun _ _ => id
  intro _ _ parked
  exact wp_mono (parked.tracerSetFailState error) (fun _ _ => id) fun _ _ => False.elim

theorem tracerUnverifiedToActive_orders (order : kernel.InOrder machine terms)
    (held : kernel.Holds minor dev device) (waits : device.unverified = true)
    (fine : device.sdFailCode = none) (mountBdev : Nat) (isSnap : Bool) :
    Orders machine terms (tracerUnverifiedToActive machine dev mountBdev isSnap) kernel := by
  have paused := order.paused dev device held.2 id waits
  have numbered := (order.settled minor dev device held id).sdMinor
  have without := paused.sdTracingOps fine
  have bound := order.bounded held.1
  unfold Orders tracerUnverifiedToActive
  rw [wp_bind, wp_read, wp_bind, wp_getDev held.2, wp_bind]
  apply wp_mono (tracerDestroyTracing_vacant order held paused.sdOrigRequestFn) _
    fun _ _ => False.elim
  intro _ vacated here
  rw [without] at here
  have flags : wp (setDev dev fun device =>
      { device with active := true, unverified := false, sdBdevPath := none, sdCowPath := none })
      (fun _ => Off machine terms vacated dev none (Primed device.sdBaseDev))
      (fun _ _ => False) vacated := by
    apply here.setDev
    intro device' same
    rw [same]
    exact ⟨rfl, rfl, paused.sdOrigRequestFn, rfl⟩
  rw [wp_bind]
  apply wp_mono flags _ fun _ _ => False.elim
  intro _ middle here
  rw [wp_bind, wp_deref]
  split
  · exact OnError.oops _
  · rename_i bdevPath _
    rw [wp_bind, wp_deref]
    split
    · exact OnError.oops _
    · rename_i relPath _
      have verifies : ∀ based,
          Off machine terms vacated dev none (Primed (some (machine.bdevAt bdevPath))) based →
          wp (verify machine dev minor mountBdev relPath isSnap)
            (fun _ after => after.InOrder machine terms)
            (OnError (Off.Spoilt machine terms dev (machine.bdevAt bdevPath) vacated)) based := by
        intro _ there
        unfold verify
        rw [wp_bind]
        apply wp_mono (there.minds (.attempt _) Primed.stable)
        · exact fun _ _ there => there.setupBased bound
        · exact fun _ _ failed => failed.mono fun _ there => there.spoilt
      rw [numbered, wp_bind]
      refine wp_returned_errors (wp_mono (here.tracerSetupBaseDev bdevPath) ?_ fun _ _ => id) ?_
      · intro _ based there
        apply wp_catching_errors (verifies based there)
        exact fun error _ spoilt => unverify_orders bound bdevPath relPath _ error spoilt
      · intro error based there
        have spoilt : Off.Spoilt machine terms dev (machine.bdevAt bdevPath) vacated based :=
          ⟨none, there, fun _ has => absurd rfl has⟩
        dsimp only
        rw [wp_bind]
        apply wp_mono (unverify_orders bound bdevPath relPath device.sdCacheSize error spoilt) _
          fun _ _ => id
        intro _ _ ordered
        rw [wp_when]
        split
        · exact OnError.oops _
        · exact ordered

theorem autoTransitionActive_orders (order : kernel.InOrder machine terms)
    (fine : ∀ dev device, kernel.Holds minor dev device → device.unverified = true →
      device.sdFailCode = none) (mountBdev : Nat) :
    Orders machine terms (autoTransitionActive machine minor mountBdev) kernel := by
  apply slotted_first
  intro dev device held
  rw [wp_ite]
  split
  · rename_i waits
    exact tracerUnverifiedToActive_orders order held waits (fine dev device held waits) mountBdev _
  · rename_i verified
    have verified : device.unverified = false := by simpa using verified
    have activates := @tracerDormantToActive_concerns machine dev device verified mountBdev
    apply wp_mono (activates kernel held.2 fun _ _ _ _ => trivial)
    · exact fun _ _ there => there.orderly_verified order held.2 verified
    · exact fun _ _ there error same =>
        (there.weaken fun _ tracing => tracing error same).orderly_verified order held.2 verified

/-- The device a mount for writing is looked for, if one is found. -/
theorem writable_first {left : Kernel → Prop} (range : kernel.InRange) (holds : left kernel)
    (goes : ∀ minor dev device, kernel.Holds minor dev device → device.sdFailCode = none →
      wp (autoTransitionActive machine minor bdev) (fun _ => left) (OnError left) kernel) :
    wp (handleBdevMountWritable machine bdev) (fun _ => left) (OnError left) kernel := by
  unfold handleBdevMountWritable
  rw [wp_bind, wp_attempt]
  cases kernel.faults .kernPath with
  | some error => exact fun _ _ => holds
  | none =>
      dsimp only
      rw [wp_bind, wp_read, wp_bind]
      refine wp_mono (tracerForEach_reads
        (G := fun _ device accepted => accepted = true → device.sdFailCode = none)
        range fun minor device => ?_) ?_ ?_
      · unfold Reads
        rw [wp_ite]
        split
        · exact ⟨rfl, by simp⟩
        · rename_i fine
          have fine : device.sdFailCode = none := by
            have both : device.active = false ∧ device.sdFailCode = none := by simpa using fine
            exact both.2
          rw [wp_ite]
          split
          · cases kernel.faults (.mountBdev minor) with
            | some _ => exact ⟨rfl, fun _ => fine⟩
            | none =>
                dsimp only
                rw [wp_bind, wp_deref]
                split
                · exact ⟨rfl, rfl⟩
                · exact ⟨rfl, fun _ => fine⟩
          · exact ⟨rfl, fun _ => fine⟩
      · intro found after walked
        obtain ⟨same, found'⟩ := walked
        rw [same]
        cases found with
        | none => exact holds
        | some pair =>
            obtain ⟨device, held, fine⟩ := found'
            exact goes pair.1 pair.2 device held (fine rfl)
      · intro _ _ stopped
        rw [stopped.2]
        exact OnError.oops _

theorem handleBdevMountWritable_orders (order : kernel.InOrder machine terms) :
    Orders machine terms (handleBdevMountWritable machine bdev) kernel := by
  apply writable_first order.inRange order
  intro minor dev device held fine
  apply autoTransitionActive_orders order
  intro dev' device' held' _
  cases held.1.symm.trans held'.1
  cases held.2.symm.trans held'.2
  exact fine

/-- A device that traces is in this slot, if there is one to come back to. -/
def Kernel.Dozes (kernel : Kernel) (moved : Option Nat) : Prop :=
  ∀ minor dev device, moved = some minor → kernel.Holds minor dev device →
    device.unverified = false

/-- The device that is moved before a device is unmounted, if there is one. -/
theorem nowrite_first {done : Option Nat → Kernel → Prop} {left : Kernel → Prop}
    (range : kernel.InRange) (holds : left kernel) (throughMount : Bool)
    (nothing : done none kernel)
    (goes : ∀ minor dev device, kernel.Holds minor dev device → device.active = true →
      wp (tracerActiveToDormant dev) (fun _ => done (some minor)) (OnError left) kernel) :
    wp (handleBdevMountNowrite bdev throughMount) done (OnError left) kernel := by
  unfold handleBdevMountNowrite
  rw [wp_bind, wp_attempt]
  cases kernel.faults .kernPath with
  | some error => exact fun _ _ => holds
  | none =>
      dsimp only
      rw [wp_bind, wp_read, wp_bind]
      refine wp_mono (tracerForEach_reads
        (G := fun _ device accepted => accepted = true → device.active = true)
        range fun minor device => ?_) ?_ ?_
      · unfold Reads
        rw [wp_ite]
        split
        · exact ⟨rfl, by simp⟩
        · rename_i fine
          have active : device.active = true := by
            cases is : device.active with
            | true => rfl
            | false => simp [is] at fine
          cases device.sdCow with
          | none => exact ⟨rfl, by simp⟩
          | some cow =>
              dsimp only
              rw [wp_bind, wp_deref]
              split
              · exact ⟨rfl, rfl⟩
              · exact ⟨rfl, fun _ => active⟩
      · intro found after walked
        obtain ⟨same, found'⟩ := walked
        rw [same]
        cases found with
        | none => exact nothing
        | some pair =>
            obtain ⟨device, held, active⟩ := found'
            unfold autoTransitionDormant
            dsimp only
            rw [wp_bind, wp_bind, slotDev_spec held.1]
            exact goes pair.1 pair.2 device held (active rfl)
      · intro _ _ stopped
        rw [stopped.2]
        exact OnError.oops _

/-- An active device traces. -/
theorem Kernel.Orderly.verified (order : kernel.InOrder machine terms)
    (held : kernel.Holds minor dev device) (active : device.active = true) :
    device.unverified = false := by
  cases waits : device.unverified with
  | false => rfl
  | true =>
      have idle := (order.paused dev device held.2 id waits).active
      exact absurd (active.symm.trans idle) (by simp)

theorem handleBdevMountNowrite_orders (order : kernel.InOrder machine terms)
    (throughMount : Bool) :
    wp (handleBdevMountNowrite bdev throughMount)
      (fun moved after => after.InOrder machine terms ∧ after.Dozes moved)
      (OnError fun after => after.InOrder machine terms) kernel := by
  apply nowrite_first order.inRange order
  · exact ⟨order, fun _ _ _ moved => by simp at moved⟩
  · intro minor dev device held active
    have verified := order.verified held active
    apply wp_mono (tracerActiveToDormant_concerns kernel held.2 fun _ _ _ _ => trivial)
    · intro _ after there
      refine ⟨there.orderly_verified order held.2 verified, ?_⟩
      intro other dev' device' moved held'
      cases Option.some.inj moved
      obtain ⟨kept, found, _, tracing⟩ := there.device
      have slot := (congrFun there.elsewhere.table minor).symm.trans held'.1
      cases held.1.symm.trans slot
      cases found.symm.trans held'.2
      exact tracing.unverified.trans verified
    · exact fun _ _ there _ _ => there.orderly_verified order held.2 verified

theorem SysResult.apply_orders (order : kernel.InOrder machine terms) (result : SysResult)
    (bdev : Nat) :
    wp (result.apply bdev)
      (fun _ after => after.InOrder machine terms ∧ after.snapDevices = kernel.snapDevices ∧
        after.devices = kernel.devices) (fun _ _ => False) kernel := by
  cases result with
  | none => exact ⟨order, rfl, rfl⟩
  | some mounted =>
      have order' : Kernel.InOrder machine terms
          { kernel with mounted := Function.update kernel.mounted bdev mounted } := { order with }
      exact ⟨order', rfl, rfl⟩

theorem postUmountFailed_orders (order : kernel.InOrder machine terms) (mountBdev : Nat)
    (dozes : kernel.Dozes (some minor)) :
    Orders machine terms (postUmountFailed machine minor mountBdev) kernel := by
  apply slotted_first
  intro dev device held
  rw [wp_bind, wp_deref]
  split
  · exact OnError.oops _
  · rw [wp_bind, wp_read]
    cases kernel.faults .umountBdev with
    | some error => exact (Minds.tracerSetFailState enodev).orderly order held.2
    | none =>
        apply autoTransitionActive_orders order
        intro dev' device' held' waits
        exact absurd ((dozes minor dev' device' rfl held').symm.trans waits) (by simp)

theorem postUmountUnlocked_orders (order : kernel.InOrder machine terms) (pointer : Option Address) :
    Orders machine terms (postUmountUnlocked pointer) kernel := by
  unfold Orders postUmountUnlocked
  rw [wp_bind, wp_deref]
  split
  · exact OnError.oops _
  · rename_i dev
    cases found : kernel.devices dev with
    | none =>
        rw [wp_bind, wp_getDev_freed found]
        exact OnError.oops _
    | some device =>
        rw [wp_bind, wp_getDev found, wp_bind, wp_deref]
        split
        · exact OnError.oops _
        · rw [wp_bind, wp_read]
          exact (Minds.when (.tracerSetFailState .eio)).orderly order found

/-- What follows the hook of an umount, which moved the device of this minor. -/
theorem umounted_orders {moved : Option Nat} (order : kernel.InOrder machine terms)
    (dozes : kernel.Dozes moved) (result : SysResult) :
    Orders machine terms (do
      result.apply bdev
      postUmountCheck machine moved bdev result.isNone) kernel := by
  unfold Orders
  rw [wp_bind]
  apply wp_mono (SysResult.apply_orders order result bdev) _ fun _ _ => False.elim
  intro _ after applied
  obtain ⟨order, table, devices⟩ := applied
  have dozes : after.Dozes moved := by
    intro minor dev device is held
    apply dozes minor dev device is
    unfold Kernel.Holds at held ⊢
    rw [table, devices] at held
    exact held
  unfold postUmountCheck
  cases moved with
  | none => exact order
  | some minor =>
      dsimp only
      rw [wp_ite]
      split
      · exact postUmountFailed_orders order bdev dozes
      · rw [wp_bind, wp_read]
        exact postUmountUnlocked_orders order _

theorem umount_orders (order : kernel.InOrder machine terms) (throughMount : Bool)
    (result : SysResult) :
    Orders machine terms (umount machine bdev throughMount result) kernel := by
  unfold Orders umount
  rw [wp_bind, wp_handle]
  apply wp_mono (handleBdevMountNowrite_orders order throughMount)
  · exact fun moved middle hooked => umounted_orders hooked.1 hooked.2 result
  · intro reason after failed
    cases reason with
    | errno error =>
        have nothing : after.Dozes none := fun _ _ _ moved => by simp at moved
        exact umounted_orders (failed error rfl) nothing result
    | oops => exact OnError.oops _
    | crash => exact OnError.crash _

theorem mount_orders (order : kernel.InOrder machine terms) (result : SysResult) :
    Orders machine terms (mount machine bdev result) kernel := by
  unfold Orders mount
  rw [wp_bind]
  apply wp_mono (SysResult.apply_orders order result bdev) _ fun _ _ => False.elim
  intro _ after applied
  rw [wp_when]
  split
  · exact wp_catching_errors (handleBdevMountWritable_orders applied.1) fun _ _ => id
  · exact applied.1

theorem mountReadOnly_orders (order : kernel.InOrder machine terms) :
    Orders machine terms (mountReadOnly bdev) kernel := by
  unfold Orders mountReadOnly
  rw [wp_bind, wp_read, wp_when]
  split
  · exact wp_mono (SysResult.apply_orders order _ bdev) (fun _ _ applied => applied.1)
      fun _ _ => False.elim
  · exact order

end mounts

section runs

/-- What an event must meet for each reference to be given back: no setup fails at its freeze, no
device that holds a reference is destroyed while it waits for its block device, and a change of
mode fails before the new device has a reference. -/
def Call.GivesBack (machine : Machine) (kernel : Kernel) (call : Call) : Prop :=
  match call.event with
  | .setupSnap .. => machine.freezing call.faults = none
  | .destroy minor => ∀ device ∈ kernel.tracing.slots minor, device.unverified = true →
      device.sdTracingOps = none
  | .transitionInc minor => ∀ device ∈ kernel.tracing.slots minor, device.Changes true →
      call.faults .tracerAlloc ≠ none ∨ call.faults .cowThread ≠ none ∨
        (kernel.prepare call).Uncopied machine
  | .transitionSnap minor path fallocatedSpace => ∀ device ∈ kernel.tracing.slots minor,
      device.Changes false → call.faults .tracerAlloc ≠ none ∨
        (∀ bdev ∈ device.sdBaseDev, ∀ cow ∈ device.sdCow, ∀ object ∈ kernel.cows cow,
          ¬ Reaches (kernel.prepare call) bdev path
            ((kernel.prepare call).nextCreation machine device object path fallocatedSpace)) ∨
        (kernel.prepare call).Uncopied machine
  | _ => True

instance (kernel : Kernel) (bdev : Nat) (path : CowPath) (reply : Except Stop Unit × Cow.CowState) :
    Decidable (Reaches kernel bdev path reply) :=
  decidable_of_iff
    ((kernel.immutable path = false ∧ reply.1.isOk = true ∧ kernel.mounted bdev ≠ .unmounted ∧
      path.bdev = bdev) ∧ ∀ step ∈ snapSteps, kernel.faults step = none) (by
      constructor
      · intro holds
        refine ⟨⟨holds.1.1, ?_, holds.1.2.2.1, holds.1.2.2.2⟩, holds.2⟩
        cases ended : reply.1 with
        | ok _ => rfl
        | error _ => simp [ended, Except.isOk, Except.toBool] at holds
      · intro reaches
        refine ⟨⟨reaches.free, ?_, reaches.mounted, reaches.here⟩, reaches.steps⟩
        rw [reaches.ok]
        rfl)

instance (machine : Machine) (kernel : Kernel) (call : Call) :
    Decidable (call.GivesBack machine kernel) :=
  match call with
  | ⟨.setupSnap .., _, _⟩ => inferInstanceAs (Decidable (_ = none))
  | ⟨.destroy _, _, _⟩ => inferInstanceAs (Decidable (∀ _ ∈ _, _ → _))
  | ⟨.transitionInc _, _, _⟩ => inferInstanceAs (Decidable (∀ _ ∈ _, _ → _))
  | ⟨.transitionSnap .., _, _⟩ => inferInstanceAs (Decidable (∀ _ ∈ _, _ → _))
  | ⟨.reload .., _, _⟩ | ⟨.reconfigure .., _, _⟩ | ⟨.openSnap _, _, _⟩ | ⟨.releaseSnap _, _, _⟩
  | ⟨.umount .., _, _⟩ | ⟨.mount .., _, _⟩ | ⟨.mountReadOnly _, _, _⟩ | ⟨.write .., _, _⟩
  | ⟨.work _, _, _⟩ | ⟨.reboot, _, _⟩ => .isTrue trivial

/-- A device that is destroyed leaves its slot. -/
def Call.Releases (machine : Machine) (kernel : Kernel) (call : Call) : Prop :=
  match call.event with
  | .destroy minor => (kernel.prepare call).Vacates machine minor
  | _ => True

instance (machine : Machine) (kernel : Kernel) (call : Call) :
    Decidable (call.Releases machine kernel) :=
  match call with
  | ⟨.destroy minor, _, _⟩ => inferInstanceAs (Decidable (Kernel.Vacates machine _ minor))
  | ⟨.setupSnap .., _, _⟩ | ⟨.transitionInc _, _, _⟩ | ⟨.transitionSnap .., _, _⟩
  | ⟨.reload .., _, _⟩ | ⟨.reconfigure .., _, _⟩ | ⟨.openSnap _, _, _⟩ | ⟨.releaseSnap _, _, _⟩
  | ⟨.umount .., _, _⟩ | ⟨.mount .., _, _⟩ | ⟨.mountReadOnly _, _, _⟩ | ⟨.write .., _, _⟩
  | ⟨.work _, _, _⟩ | ⟨.reboot, _, _⟩ => .isTrue trivial

theorem Event.program_orders {call : Call} (order : kernel.InOrder machine terms)
    (gives : terms.refs → machine.build ≠ .makeRequest → call.GivesBack machine kernel)
    (releases : terms.live → call.Releases machine kernel) :
    Orders machine terms (call.event.program machine) (kernel.prepare call) := by
  have order : (kernel.prepare call).InOrder machine terms := { order with }
  unfold Call.GivesBack at gives
  unfold Call.Releases at releases
  cases call with
  | mk event faults outcomes =>
      cases event with
      | setupSnap => exact ioctlSetupSnap_orders order gives _ _ _ _ _
      | reload => exact ioctlReload_orders order _ _ _
      | destroy =>
          apply ioctlDestroy_orders order _ releases
          exact fun is modern dev device held => gives is modern device held.slot
      | transitionInc =>
          apply ioctlTransitionInc_orders order
          exact fun is modern dev device held => gives is modern device held.slot
      | transitionSnap =>
          apply ioctlTransitionSnap_orders order
          intro is modern dev device held changes
          rcases gives is modern device held.slot changes with alloc | never | uncopied
          · exact .inl alloc
          · exact .inr (.inl fun bdev cow object base has stored =>
              never bdev base cow has object stored)
          · exact .inr (.inr uncopied)
      | reconfigure => exact ioctlReconfigure_orders order _
      | openSnap => exact snapRefs_orders order (· + 1)
      | releaseSnap => exact snapRefs_orders order (· - 1)
      | umount => exact umount_orders order _ _
      | mount => exact mount_orders order _
      | mountReadOnly => exact mountReadOnly_orders order
      | write => exact traceWrite_orders order _
      | work => exact cowThreadStep_orders order
      | reboot => exact OnError.crash _

theorem Orders.settled {program : KernelM Unit} (orders : Orders machine terms program kernel) :
    (Kernel.settle machine (program kernel)).InOrder machine terms := by
  apply Kernel.settle_holds
  · exact .boot machine
  · exact orders

theorem Kernel.Orderly.step {call : Call} (order : kernel.InOrder machine terms)
    (gives : terms.refs → machine.build ≠ .makeRequest → call.GivesBack machine kernel)
    (releases : terms.live → call.Releases machine kernel)
    (taken : Kernel.step machine kernel call = some after) : after.InOrder machine terms := by
  cases Option.some.inj taken
  exact (Event.program_orders order gives releases).settled

/-- The table is in order in every state of a run. -/
theorem Kernel.Orderly.reached {ok : Kernel → Call → Prop} {files : CowPath → Option Cow.CowFile}
    (gives : terms.refs → machine.build ≠ .makeRequest → ∀ kernel call, ok kernel call →
      call.GivesBack machine kernel)
    (releases : terms.live → ∀ kernel call, ok kernel call → call.Releases machine kernel)
    (reached : Transition.Reaches (Kernel.step machine) ok (machine.boot files) kernel) :
    kernel.InOrder machine terms := by
  refine Transition.Reaches.invariant (.boot machine files) ?_ reached
  intro before call after order allowed taken
  exact order.step (fun is modern => gives is modern before call allowed)
    (fun is => releases is before call allowed) taken

end runs

end Moocbt.Driver
