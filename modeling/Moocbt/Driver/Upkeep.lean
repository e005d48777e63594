import Moocbt.Driver.Activation
import Moocbt.Driver.Committing
import Moocbt.Driver.SteadyDevice

/-! Setup, reload and destroy leave the table in order, wherever they fail. -/

namespace Moocbt.Driver

open Cow (Errno Stop)
open Program

variable {α : Type} {machine : Machine} {kernel before middle after : Kernel} {dev : Address}
  {device : SnapDevice} {bdev minor : Nat} {terms : Terms} {trops : Option Address}
  {good : SnapDevice → Prop} {base : Option Nat} {isSnap : Bool}

/-- A program after which nothing is being worked on. -/
abbrev Orders (machine : Machine) (terms : Terms) (program : KernelM α) (kernel : Kernel) : Prop :=
  wp program (fun _ after => after.InOrder machine terms)
    (OnError fun after => after.InOrder machine terms) kernel

theorem Kernel.Orderly.begun (order : kernel.InOrder machine terms)
    (without : device.sdTracingOps = none) :
    Off machine terms kernel kernel.fresh none (fun after => after = device)
      (kernel.begun device) := by
  have others : ∀ other, other ≠ kernel.fresh →
      (kernel.begun device).devices other = kernel.devices other :=
    fun other away => kernel.begun_other away device
  have outside : kernel.Outside kernel.fresh :=
    fun minor held => absurd (order.slots minor _ held) (Nat.lt_irrefl _)
  have none : kernel.heldOps kernel.fresh = none := by
    cases found : kernel.devices kernel.fresh with
    | none => simp [Kernel.heldOps, found]
    | some device => exact absurd (order.devices _ device found) (Nat.lt_irrefl _)
  refine ⟨rfl, rfl, rfl, others, ?_, outside, device, kernel.begun_same device, without, rfl⟩
  constructor
  · exact order.range
  · exact fun minor other held => Nat.lt_succ_of_lt (order.slots minor other held)
  · intro other kept found
    by_cases here : other = kernel.fresh
    · rw [here]
      exact Nat.lt_succ_self _
    · rw [others other here] at found
      exact Nat.lt_succ_of_lt (order.devices other kept found)
  · exact fun minor other kept held away =>
      order.settled minor other kept ⟨held.1, (others other away).symm.trans held.2⟩ id
  · exact fun other kept found away =>
      order.paused other kept ((others other away).symm.trans found) id
  · exact fun address above => order.unallocated address (Nat.le_of_succ_le above)
  · exact order.drivers
  · intro is modern
    apply (order.counted is modern).of_same (kernel.begun device) others _ rfl (Nat.le_succ _)
    rw [none]
    simp [Kernel.heldOps, kernel.begun_same, without]
  · intro is minor other slot
    have away : other ≠ kernel.fresh := fun same => outside minor (same ▸ slot)
    rw [others other away]
    exact order.live is minor other slot

/-- A device that is about to trace, of this base device. -/
structure Primed (base : Option Nat) (device : SnapDevice) : Prop where
  unverified : device.unverified = false
  sdOrigRequestFn : device.sdOrigRequestFn = none
  sdBaseDev : device.sdBaseDev = base

/-- One whose entry point may be known already. -/
structure Poised (base : Option Nat) (device : SnapDevice) : Prop where
  unverified : device.unverified = false
  sdBaseDev : device.sdBaseDev = base

theorem Primed.poised (primed : Primed base device) : Poised base device :=
  ⟨primed.unverified, primed.sdBaseDev⟩

theorem Primed.stable (device device' : SnapDevice) (primed : Primed base device)
    (steady : Steady device device') : Primed base device' :=
  ⟨steady.unverified.trans primed.unverified,
    steady.sdOrigRequestFn.trans primed.sdOrigRequestFn, steady.sdBaseDev.trans primed.sdBaseDev⟩

namespace Off

theorem set (here : Off machine terms before dev trops good kernel) {device' : SnapDevice}
    {good' : SnapDevice → Prop} (refers : device'.sdTracingOps = trops) (holds : good' device') :
    Off machine terms before dev trops good' (kernel.setDev dev device') := by
  apply here.next
  exact ⟨Elsewhere.setDev dev _ kernel _, _, Kernel.setDev_same _ _ _, fun _ _ _ _ => trivial,
    refers, holds⟩

theorem setDev (here : Off machine terms before dev trops good kernel)
    {change : SnapDevice → SnapDevice} {good' : SnapDevice → Prop}
    (keeps : ∀ device, good device →
      (change device).sdTracingOps = device.sdTracingOps ∧ good' (change device)) :
    wp (Driver.setDev dev change) (fun _ => Off machine terms before dev trops good')
      (fun _ _ => False) kernel := by
  obtain ⟨device, found, refers, holds⟩ := here.device
  obtain ⟨same, holds'⟩ := keeps device holds
  rw [wp_setDev found]
  exact here.set (same.trans refers) holds'

theorem tracerSetupBaseDev (here : Off machine terms before dev trops (Primed base) kernel)
    (bdevPath : Nat) :
    wp (tracerSetupBaseDev machine dev bdevPath)
      (fun _ => Off machine terms before dev trops (Primed (some (machine.bdevAt bdevPath))))
      (OnError (Off machine terms before dev trops fun after => after.sdOrigRequestFn = none))
      kernel := by
  obtain ⟨device, found, refers, primed⟩ := here.device
  apply wp_mono (tracerSetupBaseDev_reaches here.orderly.inRange here.outside found)
  · intro _ after reached
    rw [reached.2]
    exact here.set refers ⟨primed.unverified, primed.sdOrigRequestFn, rfl⟩
  · intro reason after failed error same
    obtain ⟨_, device', only, left⟩ := failed error same
    obtain ⟨_, _, _, changed'⟩ := only
    rw [left, changed']
    exact here.set refers primed.sdOrigRequestFn

/-- A reference to the `make_request_fn` was taken, in the build that has them. -/
theorem retained (here : Off machine terms before dev trops good kernel) (bdev : Nat) :
    Off machine terms before dev trops good (kernel.retained machine bdev) := by
  unfold Kernel.retained
  split
  · rename_i legacy
    have orderly : (kernel.setDisk (machine.bdDisk bdev)
        (kernel.disk machine bdev).get).Orderly machine terms (· = dev) :=
      { here.orderly with
        drivers := fun build => absurd (legacy.symm.trans build) (by simp)
        counted := fun _ modern => absurd legacy modern }
    exact { here with orderly := orderly }
  · exact here

theorem retainMrf (here : Off machine terms before dev trops good kernel)
    (based : ∀ {device}, good device → device.sdBaseDev = some bdev) :
    wp (retainMrf machine dev) (fun _ => Off machine terms before dev trops good)
      (OnError (Off machine terms before dev trops good)) kernel := by
  obtain ⟨device, found, refers, holds⟩ := here.device
  apply wp_mono (retainMrf_spec found (based holds))
  · intro _ after same
    rw [same]
    exact here.retained bdev
  · exact fun _ _ failed => failed.mono fun _ same => same ▸ here

/-- A device that could not be activated; a copy of operations it has is due to the freeze. -/
def Spoilt (machine : Machine) (terms : Terms) (dev : Address) (bdev : Nat)
    (before after : Kernel) : Prop :=
  ∃ trops, Off machine terms before dev trops (fun device => device.sdOrigRequestFn = none) after ∧
    (machine.build ≠ .makeRequest → trops ≠ none →
      (before.mounted bdev = .unmounted ∨ machine.freezing before.faults ≠ none) ∧
      (machine.build = .hooked → before.faults .tracingOps = none))

theorem spoilt (here : Off machine terms before dev none (Primed base) kernel) :
    Spoilt machine terms dev bdev before kernel :=
  ⟨none, here.weaken fun _ primed => primed.sdOrigRequestFn, fun _ has => absurd rfl has⟩

theorem joins
    (here : Off machine terms before dev none (Poised (some bdev)) kernel)
    (bound : minor < machine.maxSnapDevices) :
    wp (tracerSetupTracing machine dev minor)
      (fun _ after => ∃ device, Joined machine terms dev device minor kernel after)
      (OnError (Spoilt machine terms dev bdev before)) kernel := by
  obtain ⟨device, found, without, poised⟩ := here.device
  apply wp_mono (tracerSetupTracing_joins here.orderly here.outside found poised.unverified without
    poised.sdBaseDev bound)
  · exact fun _ _ joined => ⟨device, joined⟩
  · intro _ after failed
    refine failed.mono fun after turned => ?_
    obtain ⟨bdOps, trops, found', why⟩ := turned.device
    refine ⟨trops, ?_, ?_⟩
    · constructor
      · exact turned.aside.mounted.trans here.mounted
      · exact turned.aside.faults.trans here.faults
      · exact turned.table.trans here.table
      · exact fun other away => (turned.aside.devices other away).trans (here.others other away)
      · exact turned.orderly
      · exact here.outside.unchanged turned.table
      · exact ⟨_, found', rfl, rfl⟩
    · rw [← here.mounted, ← here.faults]
      exact why

theorem tracerSetupTracing
    (here : Off machine terms before dev none (Primed (some bdev)) kernel)
    (bound : minor < machine.maxSnapDevices) :
    wp (tracerSetupTracing machine dev minor) (fun _ after => after.InOrder machine terms)
      (OnError (Spoilt machine terms dev bdev before)) kernel := by
  have poised := here.weaken fun _ => Primed.poised
  apply wp_mono (poised.joins bound) _ fun _ _ => id
  intro _ after joined
  obtain ⟨_, joined⟩ := joined
  exact joined.orderly

theorem activate (here : Off machine terms before dev none (Primed (some bdev)) kernel)
    (bound : minor < machine.maxSnapDevices) :
    wp (activate machine dev minor isSnap) (fun _ after => after.InOrder machine terms)
      (OnError (Spoilt machine terms dev bdev before)) kernel := by
  have spoilt : ∀ {reason : Stop} {after : Kernel},
      OnError (Off machine terms before dev none (Primed (some bdev))) reason after →
      OnError (Spoilt machine terms dev bdev before) reason after :=
    fun failed => failed.mono fun _ there => there.spoilt
  unfold Driver.activate
  rw [wp_bind]
  apply wp_mono (here.minds .tracerSetupCowPath Primed.stable) _ fun _ _ => spoilt
  intro _ _ here
  rw [wp_bind]
  apply wp_mono (here.retainMrf Primed.sdBaseDev) _ fun _ _ => spoilt
  intro _ _ here
  rw [wp_bind]
  apply wp_mono (here.minds (.when .tracerSetupSnap) Primed.stable) _ fun _ _ => spoilt
  intro _ _ here
  rw [wp_bind]
  apply wp_mono (here.minds (.tracerSetupCowThread _) Primed.stable) _ fun _ _ => spoilt
  intro _ _ here
  rw [wp_bind]
  apply wp_mono (here.minds .wakeUpCowThread Primed.stable) _ fun _ _ => spoilt
  intro _ _ here
  exact here.tracerSetupTracing bound

/-- The setup of a device whose base device is known. -/
theorem setupBased {path : CowPath} {method : SnapDevice → OpenMethod}
    (here : Off machine terms before dev none (Primed (some bdev)) kernel)
    (bound : minor < machine.maxSnapDevices) :
    wp
      (do
        let device ← getDev dev
        let bdev ← deref device.sdBaseDev
        tracerSetupCow machine dev bdev path (method device)
        Driver.activate machine dev minor isSnap)
      (fun _ after => after.InOrder machine terms)
      (OnError (Spoilt machine terms dev bdev before)) kernel := by
  obtain ⟨device, found, _, primed⟩ := here.device
  rw [wp_bind, wp_getDev found, wp_bind, wp_deref_some primed.sdBaseDev, wp_bind]
  apply wp_mono (here.minds (.tracerSetupCow bdev path _) Primed.stable)
  · exact fun _ _ there => there.activate bound
  · exact fun _ _ failed => failed.mono fun _ there => there.spoilt

theorem Spoilt.tracerDestroy {left : Kernel → Prop}
    (spoilt : Spoilt machine terms dev bdev before kernel) :
    wp (Driver.tracerDestroy machine dev) (fun _ => Spoilt machine terms dev bdev before)
      (OnError left) kernel := by
  obtain ⟨trops, there, why⟩ := spoilt
  apply tracerDestroy_silent.onError
  apply wp_mono (there.tracerDestroy fun _ => id) _ fun _ _ => id
  intro _ after torn
  refine ⟨trops, torn.weaken ?_, why⟩
  intro device' torn
  obtain ⟨device, orig, _, _, _, same⟩ := torn
  rw [same]
  exact orig

theorem tracerSetupActiveSnap (here : Off machine terms before dev none (· = .zero) kernel)
    (bound : minor < machine.maxSnapDevices) (bdevPath : Nat) (path : CowPath)
    (fallocatedSpace cacheSize : Nat) (uuid : BitVec 128) :
    wp (tracerSetupActiveSnap machine dev minor bdevPath path fallocatedSpace cacheSize uuid)
      (fun _ after => after.InOrder machine terms)
      (OnError (Spoilt machine terms dev (machine.bdevAt bdevPath) before)) kernel := by
  have flags : wp (Driver.setDev dev fun device =>
      { device with snapshot := true, active := true, unverified := false })
      (fun _ => Off machine terms before dev none (Primed none)) (fun _ _ => False) kernel := by
    apply here.setDev
    intro device same
    rw [same]
    exact ⟨rfl, rfl, rfl, rfl⟩
  unfold Driver.tracerSetupActiveSnap
  rw [wp_bind]
  apply wp_mono flags _ fun _ _ => False.elim
  intro _ middle here
  have cleans : ∀ middle, Spoilt machine terms dev (machine.bdevAt bdevPath) before middle →
      wp (Driver.tracerDestroy machine dev)
        (fun _ => Spoilt machine terms dev (machine.bdevAt bdevPath) before)
        (OnError (Spoilt machine terms dev (machine.bdevAt bdevPath) before)) middle :=
    fun _ spoilt => spoilt.tracerDestroy
  apply wp_unwinding_errors _ fun _ => cleans
  rw [wp_bind]
  apply wp_mono (here.tracerSetupBaseDev bdevPath)
  · exact fun _ _ there => there.setupBased bound
  · exact fun _ _ failed => failed.mono fun _ there => ⟨none, there, fun _ has => absurd rfl has⟩

end Off

theorem verifyBdevWritable_mounted (bdevPath : Nat) :
    wp (verifyBdevWritable machine bdevPath)
      (fun writable after => after = kernel ∧
        (writable = true ↔ kernel.mounted (machine.bdevAt bdevPath) = .writable))
      (fun _ after => after = kernel) kernel := by
  unfold verifyBdevWritable
  rw [wp_bind, wp_attempt]
  split
  · exact ⟨rfl, by simp⟩
  · rfl

/-- What is checked first, and the device that is allocated then. -/
theorem begins_orders {program : Address → KernelM Unit} {cleanup : Address → KernelM Unit}
    {refuses : Bool → Bool} (order : kernel.InOrder machine terms) (bdevPath : Nat)
    (goes : minor < machine.maxSnapDevices → kernel.snapDevices minor = none →
      (∃ writable, refuses writable = false ∧
        (writable = true ↔ kernel.mounted (machine.bdevAt bdevPath) = .writable)) →
      ∀ begun, Off machine terms kernel kernel.fresh none (· = .zero) begun →
        wp (unwinding (program kernel.fresh) fun _ => cleanup kernel.fresh)
          (fun _ after => after.InOrder machine terms)
          (OnError fun after => after.InOrder machine terms) begun) :
    Orders machine terms
      (do
        verifyMinor machine minor .available
        let isMounted ← verifyBdevWritable machine bdevPath
        when (refuses isMounted) (.stop (.errno .einval))
        let dev ← tracerAlloc
        unwinding (program dev) fun _ => cleanup dev) kernel := by
  have unchanged : ∀ {reason : Stop}, OnError (fun after => after.InOrder machine terms) reason
      kernel := fun _ _ => order
  unfold Orders
  rw [wp_bind]
  apply wp_mono verifyMinor_available
  · intro _ after checked
    obtain ⟨same, bound, free⟩ := checked
    rw [same, wp_bind]
    apply wp_mono (verifyBdevWritable_mounted bdevPath)
    · intro writable after checked
      obtain ⟨same, mounted⟩ := checked
      rw [same, wp_bind, wp_when]
      split
      · exact unchanged
      · rename_i accepts
        rw [wp_bind, wp_tracerAlloc]
        cases kernel.faults .tracerAlloc with
        | some error => exact unchanged
        | none =>
            apply goes bound free
            · exact ⟨writable, by simpa using accepts, mounted⟩
            · exact order.begun rfl
    · intro _ after same
      rw [same]
      exact unchanged
  · intro _ after same
    rw [same]
    exact unchanged

theorem ioctlSetupSnap_orders (order : kernel.InOrder machine terms)
    (frozen : terms.refs → machine.build ≠ .makeRequest → machine.freezing kernel.faults = none)
    (bdevPath : Nat) (path : CowPath) (fallocatedSpace cacheSize : Nat) (uuid : BitVec 128) :
    Orders machine terms
      (ioctlSetupSnap machine minor bdevPath path fallocatedSpace cacheSize uuid) kernel := by
  apply begins_orders order bdevPath
  intro bound _ accepts begun here
  obtain ⟨writable, accepted, mounted⟩ := accepts
  have mounted : kernel.mounted (machine.bdevAt bdevPath) = .writable :=
    mounted.mp (by simpa using accepted)
  apply wp_unwinding_errors (here.tracerSetupActiveSnap bound _ _ _ _ _)
  intro _ after spoilt
  obtain ⟨trops, there, why⟩ := spoilt
  apply wp_mono (there.kfreeDev _) (fun _ _ => id) fun _ _ => False.elim
  intro is modern
  by_contra has
  rcases (why modern has).1 with unmounted | freeze
  · rw [mounted] at unmounted
    contradiction
  · exact freeze (frozen is modern)

/-- The work on a device is done. -/
theorem Kernel.Orderly.idle (orderly : kernel.Orderly machine terms (· = dev))
    (found : kernel.devices dev = some device)
    (settled : ∀ other, kernel.snapDevices other = some dev → Settled machine other device)
    (paused : device.unverified = true → Paused device) : kernel.InOrder machine terms where
  range := orderly.range
  slots := orderly.slots
  devices := orderly.devices
  settled := by
    intro other kept device' held _
    by_cases here : kept = dev
    · rw [here] at held
      cases found.symm.trans held.2
      exact settled other held.1
    · exact orderly.settled other kept device' held here
  paused := by
    intro kept device' found' _ waits
    by_cases here : kept = dev
    · rw [here] at found'
      cases found.symm.trans found'
      exact paused waits
    · exact orderly.paused kept device' found' here waits
  unallocated := orderly.unallocated
  drivers := orderly.drivers
  counted := orderly.counted
  live := orderly.live

/-- A device that was not activated. -/
structure AtRest (device : SnapDevice) : Prop where
  unverified : device.unverified = true
  active : device.active = false
  sdOrigRequestFn : device.sdOrigRequestFn = none

theorem AtRest.stable (device device' : SnapDevice) (atRest : AtRest device)
    (steady : Steady device device') : AtRest device' :=
  ⟨steady.unverified.trans atRest.unverified, steady.active.trans atRest.active,
    steady.sdOrigRequestFn.trans atRest.sdOrigRequestFn⟩

/-- Such a device, which is in the slot of its minor or in none. -/
structure Parked (machine : Machine) (terms : Terms) (dev : Address) (trops : Option Address)
    (kernel : Kernel) : Prop where
  orderly : kernel.Orderly machine terms (· = dev)
  device : ∃ device, kernel.devices dev = some device ∧ device.sdTracingOps = trops ∧
    AtRest device ∧ ∀ other, kernel.snapDevices other = some dev → device.sdMinor = other

theorem Off.parked (here : Off machine terms before dev trops AtRest kernel) :
    Parked machine terms dev trops kernel := by
  obtain ⟨device, found, refers, atRest⟩ := here.device
  exact ⟨here.orderly, device, found, refers, atRest, fun other held =>
    absurd held (here.outside other)⟩

theorem Parked.inOrder (here : Parked machine terms dev none kernel) :
    kernel.InOrder machine terms := by
  obtain ⟨device, found, refers, atRest, slots⟩ := here.device
  apply here.orderly.idle found
  · intro other held
    exact ⟨slots other held, fun _ verified => absurd (atRest.unverified.symm.trans verified) (by simp)⟩
  · exact fun _ => ⟨atRest.active, atRest.sdOrigRequestFn, fun _ => refers⟩

/-- The failure of a device that keeps a copy of operations shows. -/
theorem Parked.tracerSetFailState (here : Parked machine terms dev trops kernel) (error : Errno) :
    wp (tracerSetFailState dev error) (fun _ after => after.InOrder machine terms)
      (fun _ _ => False) kernel := by
  obtain ⟨device, found, refers, atRest, slots⟩ := here.device
  unfold Driver.tracerSetFailState
  rw [wp_setDev found]
  have there : Local dev (fun _ => True) kernel (Steady device)
      (kernel.setDev dev (device.failed error)) :=
    .setDev (fun _ _ _ _ => trivial) (.inl rfl) (MayFail.steady (.inr ⟨error, rfl⟩))
  apply (there.orderly here.orderly found).idle (Kernel.setDev_same _ _ _)
  · intro other held
    exact ⟨slots other held, fun _ verified => absurd (atRest.unverified.symm.trans verified) (by simp)⟩
  · intro _
    refine ⟨atRest.active, atRest.sdOrigRequestFn, ?_⟩
    intro code
    have code : (device.sdFailCode.orElse fun _ => some error) = none := code
    cases held : device.sdFailCode with
    | none => simp [held] at code
    | some other => simp [held] at code

theorem Off.tracerSetupTracingUnverified (here : Off machine terms before dev trops AtRest kernel)
    (bound : minor < machine.maxSnapDevices) :
    wp (tracerSetupTracingUnverified dev minor) (fun _ => Parked machine terms dev trops)
      (fun _ _ => False) kernel := by
  obtain ⟨device, found, refers, atRest⟩ := here.device
  have found' : (kernel.included minor).devices dev = some device := found
  unfold Driver.tracerSetupTracingUnverified
  rw [wp_bind, wp_minorRangeInclude, wp_bind, wp_setDev found', wp_setSlot]
  have others : ∀ other, other ≠ dev →
      ((kernel.included minor).setDev dev { device with sdMinor := minor }).devices other =
        kernel.devices other := fun other away => Function.update_of_ne away _ _
  have slot : ∀ other kept,
      Function.update kernel.snapDevices minor (some dev) other = some kept →
      (other = minor ∧ kept = dev) ∨ (kept ≠ dev ∧ kernel.snapDevices other = some kept) := by
    intro other kept held
    by_cases here' : other = minor
    · rw [here', Function.update_self] at held
      exact .inl ⟨here', (Option.some.inj held).symm⟩
    · rw [Function.update_of_ne here'] at held
      exact .inr ⟨fun is => here.outside other (is ▸ held), held⟩
  have known := here.orderly.devices dev device found
  constructor
  · constructor
    · exact here.orderly.range.insert bound dev
    · intro other kept held
      rcases slot other kept held with inside | there
      · rw [inside.2]
        exact known
      · exact here.orderly.slots other kept there.2
    · intro other kept there
      by_cases inside : other = dev
      · rw [inside]
        exact known
      · exact here.orderly.devices other kept ((others other inside).symm.trans there)
    · intro other kept keeps held away
      rcases slot other kept held.1 with inside | there
      · exact absurd inside.2 away
      · exact here.orderly.settled other kept keeps
          ⟨there.2, (others kept away).symm.trans held.2⟩ away
    · exact fun other keeps there away =>
        here.orderly.paused other keeps ((others other away).symm.trans there) away
    · exact here.orderly.unallocated
    · exact here.orderly.drivers
    · intro is modern
      apply (here.orderly.counted is modern).of_same _ others _ rfl (Nat.le_refl _)
      simp [Kernel.heldOps, Kernel.included, found]
    · intro is other kept held
      rcases slot other kept held with inside | there
      · rw [inside.2]
        simp
      · exact (congrArg Option.isSome (others kept there.1)).trans
          (here.orderly.live is other kept there.2)
  · refine ⟨_, Kernel.setDev_same _ _ _, refers, ?_, ?_⟩
    · exact ⟨atRest.unverified, atRest.active, atRest.sdOrigRequestFn⟩
    · intro other held
      rcases slot other dev held with inside | there
      · exact inside.1.symm
      · exact absurd rfl there.1

theorem Off.tracerSetupUnverified
    (here : Off machine terms before dev trops (fun device => device.sdOrigRequestFn = none) kernel)
    (bound : minor < machine.maxSnapDevices) (bdevPath relPath cacheSize : Nat) :
    wp (tracerSetupUnverified machine dev minor bdevPath relPath cacheSize isSnap)
      (fun _ => Parked machine terms dev trops)
      (OnError (Off machine terms before dev trops AtRest)) kernel := by
  have flags : wp (Driver.setDev dev fun device =>
      { device with
        snapshot := isSnap, active := false, unverified := true, sdCacheSize := cacheSize })
      (fun _ => Off machine terms before dev trops AtRest) (fun _ _ => False) kernel :=
    here.setDev fun _ orig => ⟨rfl, rfl, rfl, orig⟩
  have destroys : ∀ middle, Off machine terms before dev trops AtRest middle →
      wp
        (do
          Driver.tracerDestroy machine dev
          .stop (.errno .enomem) : KernelM Unit)
        (fun _ => Off machine terms before dev trops AtRest)
        (OnError (Off machine terms before dev trops AtRest)) middle := by
    intro middle there
    rw [wp_bind]
    apply tracerDestroy_silent.onError
    apply wp_mono (there.tracerDestroy fun _ => AtRest.sdOrigRequestFn) _ fun _ _ => id
    intro _ after torn _ _
    apply torn.weaken
    intro device' torn
    obtain ⟨device, atRest, _, _, _, same⟩ := torn
    rw [same]
    exact { atRest with }
  have copies : Minds dev (do
      attempt .copyBdevPath
      Driver.setDev dev fun device => { device with sdBdevPath := some bdevPath }
      attempt .copyCowPath
      Driver.setDev dev fun device => { device with sdCowPath := some relPath }) := by
    apply Minds.bind (.attempt _)
    intro _
    apply Minds.bind
    · exact .setDev (fun _ => .inl rfl) fun device => { Steady.refl device with }
    intro _
    apply Minds.bind (.attempt _)
    exact fun _ => .setDev (fun _ => .inl rfl) fun device => { Steady.refl device with }
  unfold Driver.tracerSetupUnverified
  rw [wp_bind]
  apply wp_mono flags _ fun _ _ => False.elim
  intro _ middle here
  rw [wp_bind]
  apply wp_mono (wp_unwinding_errors (here.minds copies AtRest.stable) fun _ => destroys)
  · intro _ after there
    apply wp_mono (there.tracerSetupTracingUnverified bound) (fun _ _ => id) fun _ _ => False.elim
  · exact fun _ _ => id

theorem ioctlReload_orders (order : kernel.InOrder machine terms)
    (bdevPath relPath cacheSize : Nat) :
    Orders machine terms (ioctlReload machine minor bdevPath relPath cacheSize isSnap) kernel := by
  apply begins_orders order bdevPath
  intro bound _ _ begun here
  have here := here.weaken fun device same =>
    (show device.sdOrigRequestFn = none by rw [same]; rfl)
  have cleans : ∀ middle, Off machine terms kernel kernel.fresh none AtRest middle →
      wp (kfreeDev kernel.fresh) (fun _ after => after.InOrder machine terms)
        (OnError fun after => after.InOrder machine terms) middle := fun _ there =>
    wp_mono (there.kfreeDev fun _ _ => rfl) (fun _ _ => id) fun _ _ => False.elim
  apply wp_mono (wp_unwinding_errors (here.tracerSetupUnverified bound _ _ _) fun _ => cleans)
  · exact fun _ _ parked => parked.inOrder
  · exact fun _ _ => id

end Moocbt.Driver
