import Moocbt.Driver.Setup

/-! What the commands do to the table: setup, reload, destroy and the two transitions. -/

namespace Moocbt.Driver

open Cow (Errno Stop)
open Program
open TraceTable (Operation Residue)

variable {machine : Machine} {kernel : Kernel} {dev : Address} {device : SnapDevice}
  {bdev minor : Nat} {paths : CowPath → Prop} {leaky : Prop}

theorem verifyMinor_available :
    wp (verifyMinor machine minor .available)
      (fun _ after => after = kernel ∧ minor < machine.maxSnapDevices ∧
        kernel.snapDevices minor = none)
      (fun _ after => after = kernel) kernel := by
  unfold verifyMinor
  rw [wp_bind, wp_read, wp_ite]
  split
  · rfl
  · rename_i bound
    cases slot : kernel.snapDevices minor with
    | none => exact ⟨rfl, Nat.lt_of_not_le bound, rfl⟩
    | some dev => rfl

theorem verifyBdevWritable_spec (bdevPath : Nat) :
    wp (verifyBdevWritable machine bdevPath) (fun _ after => after = kernel)
      (fun _ after => after = kernel) kernel := by
  unfold verifyBdevWritable
  rw [wp_bind, wp_attempt]
  split
  · rfl
  · rfl

/-- A device freed after its setup failed. -/
theorem unwind_missed {before : Kernel} {program : KernelM Unit}
    {placed : Kernel → Prop} (outside : before.Outside dev)
    (spec : wp program (fun _ => placed) (OnError (Missed machine leaky dev paths before)) kernel) :
    wp (unwinding program fun _ => kfreeDev dev) (fun _ => placed)
      (OnError (Missed machine leaky dev paths before)) kernel := by
  rw [wp_unwinding]
  apply wp_mono spec
  · exact fun _ _ => id
  · intro reason after failed
    cases reason with
    | errno error =>
        apply wp_mono (kfreeDev_missed outside (failed error rfl))
        · exact fun _ _ missed _ _ => missed
        · exact fun _ _ => False.elim
    | oops => exact OnError.oops _
    | crash => exact OnError.crash _

theorem Kernel.Wired.outside (wired : kernel.Wired machine) : kernel.Outside kernel.fresh :=
  fun minor held => absurd (wired.allocated minor _ held) (Nat.lt_irrefl _)

theorem ioctlSetupSnap_spec (wired : kernel.Wired machine) {path : CowPath} (inside : paths path)
    (bdevPath fallocatedSpace cacheSize : Nat) (uuid : BitVec 128) :
    wp (ioctlSetupSnap machine minor bdevPath path fallocatedSpace cacheSize uuid)
      (fun _ => Placed machine (Leaky machine kernel.faults) kernel.fresh paths minor
        (SetUp machine minor bdevPath fallocatedSpace cacheSize uuid) kernel)
      (OnError (Missed machine (Leaky machine kernel.faults) kernel.fresh paths kernel)) kernel := by
  have unchanged : ∀ {reason : Stop},
      OnError (Missed machine (Leaky machine kernel.faults) kernel.fresh paths kernel) reason
        kernel := fun _ _ => Missed.refl wired
  unfold ioctlSetupSnap
  rw [wp_bind]
  apply wp_mono verifyMinor_available
  · rintro _ after ⟨same, bound, free⟩
    subst after
    rw [wp_bind]
    apply wp_mono (verifyBdevWritable_spec bdevPath)
    · intro isMounted after same
      subst after
      rw [wp_bind, wp_when]
      split
      · exact unchanged
      · rw [wp_bind]
        apply wp_mono (tracerAlloc_spec wired paths)
        · rintro _ middle ⟨rfl, here⟩
          apply unwind_missed wired.outside
          exact tracerSetupActiveSnap_spec inside ⟨wired.outside, bound, free⟩ here _ _ _ _
        · intro _ after same
          subst after
          exact unchanged
    · intro _ after same
      subst after
      exact unchanged
  · intro _ after same
    subst after
    exact unchanged

/-- A device that waits for its block device, at a minor. -/
def SnapDevice.registered (device : SnapDevice) (minor bdevPath relPath cacheSize : Nat)
    (isSnap : Bool) : SnapDevice :=
  { device with
    snapshot := isSnap
    active := false
    unverified := true
    sdCacheSize := cacheSize
    sdBdevPath := some bdevPath
    sdCowPath := some relPath
    sdMinor := minor }

/-- It was put into its slot. -/
structure Registered (machine : Machine) (dev : Address) (paths : CowPath → Prop) (minor : Nat)
    (device : SnapDevice) (before after : Kernel) : Prop where
  apart : Apart dev paths before after
  table : after.snapDevices = Function.update before.snapDevices minor (some dev)
  wired : after.Wired machine
  found : after.devices dev = some device
  owns : Owns paths after device
  tracing : after.tracing = before.tracing.setSlot minor (some device)

theorem tracerSetupTracingUnverified_spec {before : Kernel}
    (blank : Blank machine before dev minor)
    (here : Beside machine dev paths before (fun after => after = device) kernel) :
    wp (tracerSetupTracingUnverified dev minor)
      (fun _ => Registered machine dev paths minor { device with sdMinor := minor } before)
      (fun _ _ => False) kernel := by
  obtain ⟨after, found, owns, same⟩ := here.device
  subst after
  have outside := blank.outside.unchanged here.table
  have found' : (kernel.included minor).devices dev = some device := found
  unfold tracerSetupTracingUnverified
  rw [wp_bind, wp_minorRangeInclude, wp_bind, wp_setDev found', wp_setSlot]
  let registered : Kernel :=
    { (kernel.included minor).setDev dev { device with sdMinor := minor } with
      snapDevices := Function.update kernel.snapDevices minor (some dev) }
  have others : ∀ other, other ≠ dev → registered.devices other = kernel.devices other :=
    fun other away => Function.update_of_ne away _ _
  have aside : Aside dev kernel registered :=
    ⟨rfl, rfl, rfl, rfl, rfl, rfl, rfl, Nat.le_refl _, others⟩
  have stored : registered.devices dev = some { device with sdMinor := minor } :=
    Function.update_self _ _ _
  constructor
  · exact here.apart.trans (aside.apart paths)
  · rw [← here.table]
    rfl
  · apply here.wired.entered outside blank.bound here.allocated others stored rfl (Nat.le_refl _)
    · intro other kept held
      by_cases at_ : other = minor
      · subst at_
        exact ⟨Nat.min_le_left _ _, Nat.le_max_left _ _⟩
      · exact Kernel.included_inRange here.wired.range other kept
          ((Function.update_of_ne at_ _ _).symm.trans held)
    · exact here.wired.unallocated
  · exact stored
  · exact owns
  · have slots := tracing_slots minor others stored rfl fun other _ => outside other
    rw [← here.tracing]
    unfold TraceTable.setSlot
    rw [← slots]
    rfl

theorem tracerSetupUnverified_spec {before : Kernel} (blank : Blank machine before dev minor)
    (here : Beside machine dev paths before (fun after => after = device) kernel)
    (orig : device.sdOrigRequestFn = none) (bdevPath relPath cacheSize : Nat) (isSnap : Bool) :
    wp (tracerSetupUnverified machine dev minor bdevPath relPath cacheSize isSnap)
      (fun _ => Registered machine dev paths minor
        (device.registered minor bdevPath relPath cacheSize isSnap) before)
      (OnError (Unplaced machine leaky dev paths (fun _ => True) before)) kernel := by
  have flags := here.setDev (f := fun device =>
    { device with
      snapshot := isSnap, active := false, unverified := true, sdCacheSize := cacheSize })
    blank.outside (fun after => after =
      { device with
        snapshot := isSnap, active := false, unverified := true, sdCacheSize := cacheSize })
    fun _ same => by
      rw [same]
      exact ⟨id, rfl⟩
  unfold tracerSetupUnverified
  rw [wp_bind]
  apply wp_mono flags
  · intro _ middle here
    have body : wp
        (do
          attempt .copyBdevPath
          setDev dev fun device => { device with sdBdevPath := some bdevPath }
          attempt .copyCowPath
          setDev dev fun device => { device with sdCowPath := some relPath })
        (fun _ => Beside machine dev paths before fun after => after =
          { device with
            snapshot := isSnap
            active := false
            unverified := true
            sdCacheSize := cacheSize
            sdBdevPath := some bdevPath
            sdCowPath := some relPath })
        (fun _ => Beside machine dev paths before fun after => after.sdOrigRequestFn = none)
        middle := by
      apply here.step blank.outside
      intro _ same
      rw [same]
      apply Concerns.attemptThen _ fun _ => orig
      apply Concerns.setThen (.inl rfl)
      apply Concerns.attemptThen _ fun _ => orig
      exact .setDev (.inl rfl) rfl
    rw [wp_bind, wp_unwinding]
    apply wp_mono body
    · intro _ middle here
      apply wp_mono (tracerSetupTracingUnverified_spec blank here)
      · exact fun _ _ registered => registered
      · exact fun _ _ => False.elim
    · intro reason middle here
      cases reason with
      | errno error =>
          dsimp only
          rw [wp_bind]
          apply wp_mono (here.unplaced.destroyed blank.outside fun _ => id)
          · intro _ after gone _ _
            exact { gone with device := gone.device.imp fun _ kept => ⟨kept.1, kept.2.1, trivial⟩ }
          · exact fun _ _ never error same => (never error same).elim
      | oops => exact OnError.oops _
      | crash => exact OnError.crash _
  · exact fun _ _ => False.elim

theorem ioctlReload_spec (wired : kernel.Wired machine)
    (bdevPath relPath cacheSize : Nat) (isSnap : Bool) :
    wp (ioctlReload machine minor bdevPath relPath cacheSize isSnap)
      (fun _ => Registered machine kernel.fresh paths minor
        (SnapDevice.zero.registered minor bdevPath relPath cacheSize isSnap) kernel)
      (OnError (Missed machine leaky kernel.fresh paths kernel)) kernel := by
  have unchanged : ∀ {reason : Stop},
      OnError (Missed machine leaky kernel.fresh paths kernel) reason kernel :=
    fun _ _ => Missed.refl wired
  unfold ioctlReload
  rw [wp_bind]
  apply wp_mono verifyMinor_available
  · rintro _ after ⟨same, bound, free⟩
    subst after
    rw [wp_bind]
    apply wp_mono (verifyBdevWritable_spec bdevPath)
    · intro isMounted after same
      subst after
      rw [wp_bind, wp_when]
      split
      · exact unchanged
      · rw [wp_bind]
        apply wp_mono (tracerAlloc_spec wired paths)
        · rintro _ middle ⟨rfl, here⟩
          apply unwind_missed wired.outside
          apply wp_mono (tracerSetupUnverified_spec ⟨wired.outside, bound, free⟩ here rfl _ _ _ _)
          · exact fun _ _ => id
          · exact fun _ _ failed => failed.mono fun _ stuck => stuck.toMissed
        · intro _ after same
          subst after
          exact unchanged
    · intro _ after same
      subst after
      exact unchanged
  · intro _ after same
    subst after
    exact unchanged

/-- The device of a minor was destroyed. -/
structure Destroyed (machine : Machine) (leaky : Prop) (dev : Address) (paths : CowPath → Prop)
    (minor : Nat) (before after : Kernel) : Prop where
  apart : Apart dev paths before after
  table : after.snapDevices = Function.update before.snapDevices minor none
  wired : after.Wired machine
  freed : after.devices dev = none
  operations : TraceTable.Operations machine leaky before.tracing after.tracing

theorem slotDev_spec {slot : Nat} {done : Address → Kernel → Prop} {stopped : Stop → Kernel → Prop}
    (held : kernel.snapDevices slot = some dev) :
    wp (slotDev slot) done stopped kernel ↔ done dev kernel := by
  unfold slotDev
  rw [wp_bind, wp_read, wp_deref_some held]

end Moocbt.Driver
