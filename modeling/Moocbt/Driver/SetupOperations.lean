import Moocbt.Driver.Running
import Moocbt.Driver.Transitions

/-! What a device does on its own, and what setup, reload and destroy do, they do to the table of
devices by the operations of the driver. -/

namespace Moocbt.Driver

open Cow (Errno Stop)
open Program
open TraceTable (Alike Operation)

variable {α β : Type} {machine : Machine} {kernel before middle after : Kernel}
  {dev oldDev : Address} {device old : SnapDevice} {bdev minor : Nat} {leaky : Prop} {terms : Terms}

/-- A program that leaves what the table shows of its device, but that the device may fail. -/
def Works (dev : Address) (program : KernelM α) : Prop :=
  ∀ device, Concerns dev (fun _ => True) device program (fun _ => Alike device)
    (fun _ => Alike device)

theorem TraceTable.Alike.trans {first second third : SnapDevice} (left : Alike first second)
    (right : Alike second third) : Alike first third where
  sdMinor := right.sdMinor.trans left.sdMinor
  unverified := right.unverified.trans left.unverified
  sdBaseDev := right.sdBaseDev.trans left.sdBaseDev
  sdBdevPath := right.sdBdevPath.trans left.sdBdevPath
  sdOrigRequestFn := right.sdOrigRequestFn.trans left.sdOrigRequestFn
  bdOps := right.bdOps.trans left.bdOps
  sdTracingOps := right.sdTracingOps.trans left.sdTracingOps
  sdFailCode := fun code => left.sdFailCode (right.sdFailCode code)

namespace Works

theorem bind {program : KernelM α} {next : α → KernelM β} (first : Works dev program)
    (second : ∀ value, Works dev (next value)) : Works dev (program >>= next) := by
  intro device
  apply Concerns.bind (first device)
  intro value middle alike
  apply (second value middle).mono
  · exact fun _ _ => alike.trans
  · exact fun _ _ => alike.trans

theorem pure (value : α) : Works dev (Pure.pure value : KernelM α) :=
  fun device => .pure (.refl device)

theorem attempt (step : Step) : Works dev (Driver.attempt step) :=
  fun device => .attempt step (.refl device) fun _ => .refl device

theorem deref (pointer : Option α) : Works dev (Driver.deref pointer) :=
  fun device => .deref (.refl device) fun _ _ => .refl device

theorem setDev {change : SnapDevice → SnapDevice}
    (cow : ∀ device, (change device).sdCow = device.sdCow ∨ (change device).sdCow = none)
    (alike : ∀ device, Alike device (change device)) : Works dev (Driver.setDev dev change) :=
  fun device => .setDev (cow device) (alike device)

theorem when {condition : Bool} {program : KernelM Unit} (inner : Works dev program) :
    Works dev (Program.when condition program) :=
  fun device => .ite (fun _ => inner device) fun _ => .pure (.refl device)

theorem catching {program : KernelM Unit} {handler : Errno → KernelM Unit}
    (inner : Works dev program) (handles : ∀ error, Works dev (handler error)) :
    Works dev (Driver.catching program handler) := by
  intro device
  apply Concerns.catching (inner device)
  · intro error middle alike
    apply (handles error middle).mono
    · exact fun _ _ => alike.trans
    · exact fun _ _ => alike.trans
  · exact fun _ => id
  · exact fun _ => id

/-- Where a program looks at its device first. -/
theorem getDevThen {next : SnapDevice → KernelM β}
    (second : ∀ device, Concerns dev (fun _ => True) device (next device)
      (fun _ => Alike device) (fun _ => Alike device)) :
    Works dev (Driver.getDev dev >>= next) := fun device => .getThen (second device)

theorem tracerSetFailState (error : Errno) : Works dev (Driver.tracerSetFailState dev error) := by
  apply setDev
  · exact fun _ => .inl rfl
  · intro device
    have may : MayFail device (device.failed error) := .inr ⟨error, rfl⟩
    exact may.worked.alike

theorem drain (jobs : List Job) : Works dev (Driver.drain dev jobs) := by
  intro device
  apply (drain_concerns jobs).mono
  · exact fun _ _ may => may.worked.alike
  · exact fun _ _ may => may.worked.alike

theorem tracerDestroyCowThread : Works dev (Driver.tracerDestroyCowThread dev) := by
  apply getDevThen
  intro device
  apply Concerns.when
  · intro _
    apply Concerns.bind ((finishCow_concerns device.sdPending).mono
      (fun _ _ may => may.worked.alike) fun _ _ may => may.worked.alike)
    intro _ drained alike
    exact .setDev (.inl rfl) { alike with }
  · exact fun _ => .refl device

theorem wakeUpCowThread : Works dev (Driver.wakeUpCowThread dev) := by
  apply getDevThen
  intro device
  exact .ite (fun _ => .pure (.refl device)) fun _ => .stop (.refl device)

theorem tracerSetupCowThread (step : Step) : Works dev (Driver.tracerSetupCowThread step dev) := by
  apply bind (attempt step)
  intro _
  exact setDev (fun _ => .inl rfl) fun device => { Alike.refl device with }

theorem tracerSetupCowPath : Works dev (Driver.tracerSetupCowPath dev) := by
  intro device
  apply tracerSetupCowPath_concerns.mono
  · intro _ after changed
    obtain ⟨_, same⟩ := changed
    rw [same]
    exact { Alike.refl device with }
  · intro _ after changed
    rcases changed with same | same
    · rw [same]
      exact .refl device
    · rw [same]
      exact { Alike.refl device with }

theorem tracerSetupSnap : Works dev (Driver.tracerSetupSnap dev) := by
  intro device
  apply tracerSetupSnap_concerns.mono
  · intro _ after same
    rw [same]
    exact { Alike.refl device with }
  · intro _ after only
    obtain ⟨_, _, same⟩ := only
    rw [same]
    exact { Alike.refl device with }

theorem tracerDestroySnap : Works dev (Driver.tracerDestroySnap dev) :=
  setDev (fun _ => .inl rfl) fun device => { Alike.refl device with }

theorem tracerDestroyCowPath : Works dev (Driver.tracerDestroyCowPath dev) :=
  setDev (fun _ => .inl rfl) fun device => { Alike.refl device with }

theorem tracerDestroyCow (method : CloseMethod) :
    Works dev (Driver.tracerDestroyCow dev method) := by
  intro device
  apply (tracerDestroyCow_concerns method).mono
  · intro _ after same
    rw [same]
    split
    · exact { Alike.refl device with }
    · exact { Alike.refl device with }
  · intro _ after changed
    obtain ⟨_, same⟩ := changed
    rw [same]
    exact { Alike.refl device with }

theorem tracerSetupCow (bdev : Nat) (path : CowPath) (method : OpenMethod) :
    Works dev (Driver.tracerSetupCow machine dev bdev path method) := by
  intro device
  have only : ∀ after, OnlyCow device after → Alike device after := by
    intro after changed
    obtain ⟨_, _, _, same⟩ := changed
    rw [same]
    exact { Alike.refl device with }
  apply (tracerSetupCow_concerns trivial bdev method).mono
  · exact fun _ after opened => only after opened.onlyCow
  · exact fun _ after changed => only after changed

theorem tracerReconfigure (cacheSize : Nat) :
    Works dev (Driver.tracerReconfigure machine dev cacheSize) := by
  apply bind
  · exact setDev (fun _ => .inl rfl) fun device => { Alike.refl device with }
  · intro _
    apply getDevThen
    intro device
    apply Concerns.when
    · intro _
      apply Concerns.derefThen (.refl device)
      intro cow has
      exact .runCow has _ (fun _ => .refl device) fun _ => .refl device
    · exact fun _ => .refl device

theorem tracerActiveToDormant : Works dev (Driver.tracerActiveToDormant dev) := by
  apply bind tracerDestroyCowThread
  intro _
  apply catching _ tracerSetFailState
  apply bind (tracerDestroyCow _)
  intro _
  exact setDev (fun _ => .inl rfl) fun device => { Alike.refl device with }

/-- A device that was verified is active again, or has failed. -/
theorem tracerDormantToActive (verified : device.unverified = false) (mountBdev : Nat) :
    Concerns dev (fun _ => True) device (Driver.tracerDormantToActive machine dev mountBdev)
      (fun _ => Alike device) (fun _ => Alike device) := by
  have opens : Works dev (do
      Driver.attempt .concatPath
      let device ← Driver.getDev dev
      let relPath ← Driver.deref device.sdCowPath
      let bdev ← Driver.deref device.sdBaseDev
      Driver.tracerSetupCow machine dev bdev ⟨mountBdev, relPath⟩ .reopen
      Driver.tracerSetupCowThread .cowThread dev
      Driver.wakeUpCowThread dev) := by
    apply bind (attempt _)
    intro _
    apply getDevThen
    intro device
    have rest : ∀ relPath bdev : Nat, Works dev (do
        Driver.tracerSetupCow machine dev bdev ⟨mountBdev, relPath⟩ .reopen
        Driver.tracerSetupCowThread .cowThread dev
        Driver.wakeUpCowThread dev) := by
      intro _ _
      apply bind (tracerSetupCow _ _ _)
      intro _
      exact bind (tracerSetupCowThread _) fun _ => wakeUpCowThread
    exact bind (deref _) (fun relPath => bind (deref _) (rest relPath)) device
  have last : ∀ middle, Alike device middle → Concerns dev (fun _ => True) middle
      (Driver.setDev dev fun device => { device with active := true, unverified := false })
      (fun _ => Alike device) (fun _ => Alike device) := by
    intro middle alike
    exact .setDev (.inl rfl) { alike with unverified := verified.symm }
  have activates := (opens device).bind fun _ => last
  simp only [bind_assoc] at activates
  apply activates.catching
  · intro error middle alike
    apply (tracerSetFailState error middle).mono
    · exact fun _ _ => alike.trans
    · exact fun _ _ => alike.trans
  · exact fun _ => id
  · exact fun _ => id

end Works

/-- What a program of the driver does to the table of devices. -/
structure Through (machine : Machine) (leaky : Prop) (before after : Kernel) : Prop where
  faults : after.faults = before.faults
  wired : after.Wired machine
  operations : TraceTable.Operations machine leaky before.tracing after.tracing

abbrev Goes (machine : Machine) (leaky : Prop) (program : KernelM α) (kernel : Kernel) : Prop :=
  wp program (fun _ => Through machine leaky kernel) (OnError (Through machine leaky kernel)) kernel

namespace Through

theorem refl (wired : kernel.Wired machine) : Through machine leaky kernel kernel :=
  ⟨rfl, wired, .refl⟩

theorem trans (left : Through machine leaky before middle)
    (right : Through machine leaky middle after) : Through machine leaky before after :=
  ⟨right.faults.trans left.faults, right.wired, left.operations.trans right.operations⟩

theorem of_moved (moved : Moved machine leaky minor before after) :
    Through machine leaky before after := ⟨moved.faults, moved.wired, moved.operations⟩

/-- A program goes on where another has ended. -/
theorem next {program : KernelM α} (here : Through machine leaky before kernel)
    (goes : Goes machine leaky program kernel) :
    wp program (fun _ => Through machine leaky before) (OnError (Through machine leaky before))
      kernel := by
  apply wp_mono goes
  · exact fun _ _ => here.trans
  · exact fun _ _ failed => failed.mono fun _ => here.trans

end Through

/-- What each operation keeps, a sequence of them keeps. -/
theorem TraceTable.Formed.invariant {inv : TraceTable → Prop} {table after : TraceTable}
    (formed : table.Formed machine) (holds : inv table)
    (kept : ∀ {table table' : TraceTable}, table.Formed machine →
      Operation machine leaky table table' → inv table → inv table')
    (operations : Operations machine leaky table after) : after.Formed machine ∧ inv after := by
  induction operations with
  | refl => exact ⟨formed, holds⟩
  | tail _ operation ih => exact ⟨operation.formed ih.1, kept ih.1 operation ih.2⟩

theorem Through.formed (here : Through machine leaky before after)
    (formed : before.tracing.Formed machine) : after.tracing.Formed machine := by
  have both := formed.invariant trivial (fun _ _ _ => trivial) here.operations
  exact both.1

theorem TraceTable.Operation.mono {table after : TraceTable} {leaky' : Prop}
    (operation : Operation machine leaky table after) (weaker : leaky → leaky') :
    Operation machine leaky' table after := by
  induction operation with
  | works slot alike => exact .works slot alike
  | registered bound free numbered waits waiting => exact .registered bound free numbered waits waiting
  | dropped slot orig => exact .dropped slot orig
  | leaked why residue => exact .leaked (why.imp_left weaker) residue
  | started bound free apart numbered verified based path hooks =>
      exact .started bound free apart numbered verified based path hooks
  | replaced held based numbered verified based' path hooks =>
      exact .replaced held based numbered verified based' path hooks
  | stopped slot orig based alone => exact .stopped slot orig based alone

theorem Through.weaken {leaky' : Prop} (here : Through machine leaky before after)
    (weaker : leaky → leaky') : Through machine leaky' before after := by
  refine ⟨here.faults, here.wired, ?_⟩
  apply Relation.ReflTransGen.mono _ _ _ here.operations
  exact fun _ _ operation => operation.mono weaker

section alone

/-- What the device of a slot does on its own. -/
theorem Works.goes {program : KernelM α} (works : Works dev program) (wired : kernel.Wired machine)
    (held : kernel.Holds minor dev device) : Goes machine leaky program kernel := by
  have moved : ∀ {after : Kernel}, Local dev (fun _ => True) kernel (Alike device) after →
      Through machine leaky kernel after := fun there => .of_moved (there.moved held wired fun _ => id)
  apply wp_mono (works device kernel held.2 fun _ _ _ _ => trivial)
  · exact fun _ _ there => moved there
  · exact fun _ _ there _ _ => moved there

theorem ioctlReconfigure_goes (wired : kernel.Wired machine) (cacheSize : Nat) :
    Goes machine leaky (ioctlReconfigure machine minor cacheSize) kernel := by
  apply verified_first (Through.refl wired)
  intro dev device held _
  rw [wp_bind, wp_getDev held.2, wp_ite]
  split
  · exact fun _ _ => .refl wired
  · exact (Works.tracerReconfigure cacheSize).goes wired held

theorem snapRefs_goes (wired : kernel.Wired machine) (change : Nat → Nat) :
    Goes machine leaky (snapRefs minor change) kernel := by
  apply slotted_first
  intro dev device held
  have counts : Works dev (setDev dev fun device => { device with sdRefs := change device.sdRefs }) :=
    .setDev (fun _ => .inl rfl) fun device => { Alike.refl device with }
  rw [wp_ite]
  split
  · exact counts.goes wired held
  · exact fun _ _ => .refl wired

theorem cowThreadStep_goes (wired : kernel.Wired machine) :
    Goes machine leaky (cowThreadStep minor) kernel := by
  apply slotted_first
  intro dev device held
  cases device.sdPending with
  | nil => exact .refl wired
  | cons job rest =>
      have works : Works dev (when device.sdCowThread do
          setDev dev fun device => { device with sdPending := rest }
          drain dev [job]) := by
        apply Works.when
        apply Works.bind
        · exact .setDev (fun _ => .inl rfl) fun device => { Alike.refl device with }
        · exact fun _ => .drain _
      exact works.goes wired held

theorem traceWrite_goes (wired : kernel.Wired machine) (jobs : List Job) :
    Goes machine leaky (traceWrite bdev jobs) kernel := by
  have looks : ∀ (minor : Nat) (device : SnapDevice), Reads kernel
      (if device.unverified || device.sdActive = 0 || decide (device.sdBaseDev ≠ some bdev) then
        pure false
      else pure device.sdFailCode.isNone) fun _ => True := by
    intro _ device
    unfold Reads
    rw [wp_ite]
    split
    · exact ⟨rfl, trivial⟩
    · exact ⟨rfl, trivial⟩
  unfold Goes traceWrite
  rw [wp_bind]
  apply wp_mono (tracerForEach_reads wired.range looks)
  · intro found after walked
    obtain ⟨same, holds⟩ := walked
    rw [same]
    cases found with
    | none => exact .refl wired
    | some pair =>
        obtain ⟨device, held, _⟩ := holds
        have queues : Works pair.2 (setDev pair.2 fun device =>
            { device with sdPending := device.sdPending ++ jobs }) :=
          .setDev (fun _ => .inl rfl) fun device => { Alike.refl device with }
        exact queues.goes wired held
  · intro _ _ stopped
    rw [stopped.2]
    exact OnError.oops _

end alone

section commands

theorem ioctlSetupSnap_goes (wired : kernel.Wired machine)
    (late : Leaky machine kernel.faults → leaky) (bdevPath : Nat) (path : CowPath)
    (fallocatedSpace cacheSize : Nat) (uuid : BitVec 128) :
    Goes machine leaky (ioctlSetupSnap machine minor bdevPath path fallocatedSpace cacheSize uuid)
      kernel := by
  apply wp_mono (@ioctlSetupSnap_spec machine kernel minor (fun _ => True) wired path trivial bdevPath
    fallocatedSpace cacheSize uuid)
  · exact fun _ _ placed => (Through.of_moved (placed.moved wired.outside)).weaken late
  · exact fun _ _ failed => failed.mono fun _ missed =>
      (Through.of_moved (missed.moved minor wired.outside)).weaken late

/-- What is set up first takes a slot that is free. -/
theorem available_first {program : KernelM Unit} :
    wp
      (do
        verifyMinor machine minor .available
        program)
      (fun _ _ => minor < machine.maxSnapDevices ∧ kernel.snapDevices minor = none)
      (fun _ _ => True) kernel := by
  rw [wp_bind]
  apply wp_mono verifyMinor_available
  · intro _ after checked
    obtain ⟨_, available⟩ := checked
    apply wp_mono (wp_true program after)
    · exact fun _ _ _ => available
    · exact fun _ _ _ => trivial
  · exact fun _ _ _ => trivial

theorem SnapDevice.registered_waiting (bdevPath relPath cacheSize : Nat) (isSnap : Bool)
    (based : device.sdBaseDev = none) (orig : device.sdOrigRequestFn = none)
    (trops : device.sdFailCode = none → device.sdTracingOps = none) :
    TraceTable.Waiting (device.registered minor bdevPath relPath cacheSize isSnap) :=
  ⟨based, rfl, orig, trops⟩

theorem Kernel.slots_none (free : kernel.snapDevices minor = none) :
    kernel.tracing.slots minor = none := by
  simp [Kernel.tracing, free]

theorem ioctlReload_goes (wired : kernel.Wired machine) (bdevPath relPath cacheSize : Nat)
    (isSnap : Bool) :
    Goes machine leaky (ioctlReload machine minor bdevPath relPath cacheSize isSnap) kernel := by
  have spec := @ioctlReload_spec machine kernel minor (fun _ => True) leaky wired bdevPath relPath
    cacheSize isSnap
  apply wp_mono (wp_and spec available_first)
  · intro _ after both
    obtain ⟨registered, bound, free⟩ := both
    refine ⟨registered.apart.faults, registered.wired, .single ?_⟩
    rw [registered.tracing]
    apply Operation.registered bound (Kernel.slots_none free) rfl rfl
    exact SnapDevice.registered_waiting _ _ _ _ rfl rfl fun _ => rfl
  · exact fun _ _ both => both.1.mono fun _ missed => .of_moved (missed.moved minor wired.outside)

/-- The device of a minor is destroyed, where the freeze does not keep it. -/
theorem ioctlDestroy_spec (wired : kernel.Wired machine) (formed : kernel.tracing.Formed machine)
    (vacates : kernel.Vacates machine minor) :
    wp (ioctlDestroy machine minor)
      (fun _ after => ∃ dev device, kernel.Holds minor dev device ∧
        Destroyed machine leaky dev (fun _ => True) minor kernel after)
      (OnError fun after => after = kernel) kernel := by
  unfold ioctlDestroy
  rw [wp_bind]
  apply wp_mono verifyMinor_notBusy
  · intro _ after checked
    obtain ⟨same, dev, device, held, idle⟩ := checked
    have slotted := formed.slotted minor device held.slot
    rw [same, wp_bind, slotDev_spec held.1, wp_bind]
    have gone : wp (tracerDestroy machine dev)
        (fun _ => Gone machine leaky dev (fun _ => True) minor kernel) (fun _ _ => True) kernel := by
      apply tracerDestroy_gone wired held slotted.sdMinor fun _ _ _ _ => trivial
      intro orig
      have verified : device.unverified = false := by
        cases waits : device.unverified with
        | false => rfl
        | true => simp [(slotted.waiting waits).sdOrigRequestFn] at orig
      obtain ⟨bdev, based⟩ := formed.verified ⟨held.slot, verified⟩
      exact ⟨bdev, based, vacates device held.slot idle orig bdev based⟩
    apply wp_mono (wp_and gone (tracerDestroy_silent kernel))
    · intro _ middle ended
      obtain ⟨gone, _⟩ := ended
      apply wp_mono (kfreeDev_frees gone.wired (outside_cleared wired held.1 gone.table)) _
        fun _ _ => False.elim
      intro _ after freed
      refine ⟨dev, device, held, ?_⟩
      constructor
      · exact gone.apart.trans (freed.aside.apart _)
      · exact freed.table.trans gone.table
      · exact freed.wired
      · exact freed.gone
      · rw [freed.tracing]
        exact gone.operations
    · intro reason _ ended error same
      exact absurd same (ended.2 error)
  · exact fun _ _ failed => failed

theorem ioctlDestroy_goes (wired : kernel.Wired machine) (formed : kernel.tracing.Formed machine)
    (vacates : kernel.Vacates machine minor) :
    Goes machine leaky (ioctlDestroy machine minor) kernel := by
  apply wp_mono (ioctlDestroy_spec wired formed vacates)
  · intro _ after ended
    obtain ⟨dev, device, held, destroyed⟩ := ended
    exact .of_moved (destroyed.moved wired held.1)
  · intro _ after failed
    refine failed.mono fun after same => ?_
    rw [same]
    exact .refl wired

end commands

end Moocbt.Driver
