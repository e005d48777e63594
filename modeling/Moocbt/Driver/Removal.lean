import Mathlib.Logic.Relation
import Moocbt.Driver.Injection

/-! How a device leaves the table: `__tracer_destroy_tracing` and `tracer_destroy`. -/

namespace Moocbt.Driver

open Cow (Errno Stop)
open Program
open TraceTable (Alike Alone Operation)

variable {machine : Machine} {kernel : Kernel} {dev : Address} {device : SnapDevice}
  {bdev minor : Nat} {paths : CowPath → Prop} {leaky : Prop}
  {done : Unit → Kernel → Prop} {stopped : Stop → Kernel → Prop}

/-- One operation after the other. -/
abbrev TraceTable.Operations (machine : Machine) (leaky : Prop) : TraceTable → TraceTable → Prop :=
  Relation.ReflTransGen (Operation machine leaky)

theorem Elsewhere.tracing_outside {before after : Kernel}
    (elsewhere : Elsewhere dev paths before after) (outside : before.Outside dev) :
    after.tracing = before.tracing := by
  have slots := Driver.tracing_outside outside elsewhere.devices elsewhere.table
  unfold Kernel.tracing at *
  rw [TraceTable.mk.injEq]
  exact ⟨slots, elsewhere.disks, elsewhere.copies, elsewhere.tracingOps⟩

theorem Elsewhere.tracing_inside {before after : Kernel} {device : SnapDevice}
    (elsewhere : Elsewhere dev paths before after) (wired : before.Wired machine)
    (slot : before.snapDevices minor = some dev) (found : after.devices dev = some device) :
    after.tracing = before.tracing.setSlot minor (some device) := by
  have table : after.snapDevices = Function.update before.snapDevices minor (some dev) := by
    rw [elsewhere.table, ← slot, Function.update_eq_self]
  have slots := tracing_slots minor elsewhere.devices found table
    fun other away held => away (wired.apart other minor dev held slot)
  unfold Kernel.tracing TraceTable.setSlot at *
  rw [TraceTable.mk.injEq]
  exact ⟨slots, elsewhere.disks, elsewhere.copies, elsewhere.tracingOps⟩

theorem Elsewhere.unallocated {before after : Kernel} (elsewhere : Elsewhere dev paths before after)
    (unallocated : before.Unallocated) : after.Unallocated := by
  intro address above
  rw [elsewhere.copies, elsewhere.tracingOps]
  exact unallocated address (Nat.le_trans elsewhere.fresh above)

theorem Elsewhere.inRange {before after : Kernel} (elsewhere : Elsewhere dev paths before after)
    (range : before.InRange) : after.InRange := by
  unfold Kernel.InRange
  rw [elsewhere.table, elsewhere.lowest, elsewhere.highest]
  exact range

theorem Elsewhere.wired {before after : Kernel} (elsewhere : Elsewhere dev paths before after)
    (wired : before.Wired machine) (kept : (after.devices dev).isSome) : after.Wired machine where
  live := by
    intro other held slot
    rw [elsewhere.table] at slot
    by_cases here : held = dev
    · rw [here]
      exact kept
    · rw [elsewhere.devices held here]
      exact wired.live other held slot
  apart := by
    rw [elsewhere.table]
    exact wired.apart
  allocated := by
    rw [elsewhere.table]
    exact fun other held slot => Nat.lt_of_lt_of_le (wired.allocated other held slot) elsewhere.fresh
  bounded := by
    rw [elsewhere.table]
    exact wired.bounded
  range := elsewhere.inRange wired.range
  unallocated := elsewhere.unallocated wired.unallocated

/-- What a device does on its own is one operation of the table. -/
theorem Local.works {good : SnapDevice → Prop} {after : Kernel} (held : kernel.Holds minor dev device)
    (wired : kernel.Wired machine) (here : Local dev paths kernel good after)
    (alike : ∀ device', good device' → Alike device device') :
    Operation machine leaky kernel.tracing after.tracing ∧ after.Wired machine := by
  obtain ⟨device', found, _, holds⟩ := here.device
  constructor
  · rw [here.elsewhere.tracing_inside wired held.1 found]
    exact .works held.slot (alike device' holds)
  · exact here.elsewhere.wired wired (by simp [found])

section tracking

theorem Kernel.Unallocated.free {address : Address} {ops : TracingOps}
    (unallocated : kernel.Unallocated) :
    Kernel.Unallocated { kernel with
      copies := Function.update kernel.copies ops.bdOps none
      tracingOps := Function.update kernel.tracingOps address none } := by
  intro other above
  obtain ⟨copies, trops⟩ := unallocated other above
  constructor
  · change Function.update kernel.copies ops.bdOps none other = none
    by_cases here : other = ops.bdOps
    · rw [here, Function.update_self]
    · rw [Function.update_of_ne here, copies]
  · change Function.update kernel.tracingOps address none other = none
    by_cases here : other = address
    · rw [here, Function.update_self]
    · rw [Function.update_of_ne here, trops]

/-- A device no longer has the copy of operations. -/
structure Put (machine : Machine) (dev : Address) (device : SnapDevice) (before after : Kernel) :
    Prop where
  aside : Aside dev before after
  table : after.snapDevices = before.snapDevices
  lowest : after.lowestMinor = before.lowestMinor
  highest : after.highestMinor = before.highestMinor
  unallocated : after.Unallocated
  tracing : after.tracing = before.tracing.putTracking machine device
  device : ∃ orig trops, after.devices dev =
    some { device with sdOrigRequestFn := orig, sdTracingOps := trops }

theorem moocbtFreeRequestTrackingPtr_spec (outside : kernel.Outside dev)
    (unallocated : kernel.Unallocated) (found : kernel.devices dev = some device) :
    wp (moocbtFreeRequestTrackingPtr machine dev)
      (fun _ => Put machine dev device kernel)
      (fun reason _ => reason = .oops) kernel := by
  have changed : ∀ device', Aside dev kernel (kernel.setDev dev device') := fun device' =>
    { Aside.refl dev kernel with devices := fun other away => Function.update_of_ne away _ _ }
  unfold moocbtFreeRequestTrackingPtr
  rw [wp_ite]
  split
  · rename_i legacy
    rw [wp_setDev found]
    constructor
    · exact changed _
    · rfl
    · rfl
    · rfl
    · exact unallocated
    · rw [tracing_setDev_outside outside]
      exact (if_pos legacy).symm
    · exact ⟨_, _, Kernel.setDev_same _ _ _⟩
  · rename_i modern
    rw [wp_bind, wp_getDev found]
    cases trops : device.sdTracingOps with
    | none =>
        rw [wp_pure]
        constructor
        · exact Aside.refl dev kernel
        · rfl
        · rfl
        · rfl
        · exact unallocated
        · unfold TraceTable.putTracking
          rw [if_neg modern, trops]
          rfl
        · exact ⟨device.sdOrigRequestFn, device.sdTracingOps, found⟩
    | some address =>
        unfold tracingOpsPut
        dsimp only
        rw [wp_bind, wp_bind, wp_read, wp_bind, wp_deref]
        split
        · rfl
        · rename_i ops stored
          have put : ∀ middle : Kernel, middle.devices = kernel.devices →
              middle.snapDevices = kernel.snapDevices → middle.Unallocated →
              Aside dev kernel middle → middle.lowestMinor = kernel.lowestMinor →
              middle.highestMinor = kernel.highestMinor →
              middle.tracing = kernel.tracing.putOps address →
              wp (setDev dev fun device => { device with sdTracingOps := none })
                (fun _ => Put machine dev device kernel) (fun reason _ => reason = .oops) middle := by
            intro middle devices table unallocated aside lowest highest tracing
            rw [wp_setDev ((congrFun devices dev).trans found)]
            constructor
            · exact aside.trans
                { Aside.refl dev middle with
                  devices := fun other away => Function.update_of_ne away _ _ }
            · exact table
            · exact lowest
            · exact highest
            · exact unallocated
            · rw [tracing_setDev_outside (outside.unchanged table), tracing]
              unfold TraceTable.putTracking
              rw [if_neg modern, trops]
              rfl
            · exact ⟨_, _, Kernel.setDev_same _ _ _⟩
          rw [wp_ite]
          split
          · rename_i last
            rw [wp_update]
            apply put
            · rfl
            · rfl
            · exact unallocated.free
            · exact ⟨rfl, rfl, rfl, rfl, rfl, rfl, rfl, Nat.le_refl _, fun _ _ => rfl⟩
            · rfl
            · rfl
            · unfold TraceTable.putOps
              rw [show kernel.tracing.tracingOps address = some ops from stored]
              dsimp only
              rw [if_pos last]
              rfl
          · rename_i more
            rw [wp_update]
            apply put
            · rfl
            · rfl
            · exact unallocated.setOps stored
            · exact ⟨rfl, rfl, rfl, rfl, rfl, rfl, rfl, Nat.le_refl _, fun _ _ => rfl⟩
            · rfl
            · rfl
            · unfold TraceTable.putOps
              rw [show kernel.tracing.tracingOps address = some ops from stored]
              dsimp only
              rw [if_neg more]
              rfl

end tracking

section removal

theorem tracerShouldResetMrf_reads (wired : kernel.Wired machine)
    (held : kernel.Holds minor dev device) (based : device.sdBaseDev = some bdev) :
    Reads kernel (tracerShouldResetMrf machine dev) (fun reset =>
      machine.build ≠ .makeRequest → (reset = true ↔ Alone machine kernel.tracing minor bdev)) := by
  unfold Reads tracerShouldResetMrf
  rw [wp_bind, wp_read, wp_bind, wp_getDev held.2, wp_bind, wp_deref_some based, wp_ite]
  split
  · rename_i legacy
    exact ⟨rfl, fun modern => absurd legacy.1 modern⟩
  · rw [wp_bind]
    apply wp_mono (tracerForEach_reads
      (G := fun other device' accepted => machine.build ≠ .makeRequest →
        (accepted = true ↔ device'.unverified = false ∧ kernel.snapDevices other ≠ some dev ∧
          ∃ base, device'.sdBaseDev = some base ∧
            (kernel.disk machine base).fops = (kernel.disk machine bdev).fops)) wired.range ?_)
    · rintro found after ⟨same, holds⟩
      subst after
      refine ⟨rfl, fun modern => ?_⟩
      cases found with
      | none =>
          refine ⟨fun _ other device' base away verified basis same => ?_, fun _ => rfl⟩
          obtain ⟨dev', held'⟩ := Kernel.holds_of_slot verified.1
          have missed := holds other dev' device' held' modern
          have slot : kernel.snapDevices other ≠ some dev := fun slot =>
            away (wired.apart other minor dev slot held.1)
          exact absurd (missed.mpr ⟨verified.2, slot, base, basis, same⟩) (by simp)
      | some pair =>
          obtain ⟨other, dev'⟩ := pair
          obtain ⟨device', held', accepted⟩ := holds
          obtain ⟨verified, slot, base, basis, same⟩ := (accepted modern).mp rfl
          refine ⟨fun reset => absurd reset (by simp), fun alone => ?_⟩
          have away : other ≠ minor := by
            rintro rfl
            exact slot held.1
          exact absurd same (alone other device' base away ⟨held'.slot, verified⟩ basis)
    · exact fun _ _ => id
    · intro other device'
      unfold Reads
      rw [wp_ite]
      split
      · rename_i skipped
        refine ⟨rfl, fun _ => ?_⟩
        simp only [Bool.or_eq_true, decide_eq_true_eq] at skipped
        constructor
        · exact fun accepted => absurd accepted (by simp)
        · rintro ⟨verified, slot, _⟩
          rcases skipped with unverified | same
          · rw [verified] at unverified
            contradiction
          · exact absurd same slot
      · rename_i considered
        simp only [Bool.or_eq_true, decide_eq_true_eq, not_or, Bool.not_eq_true] at considered
        rw [wp_bind, wp_deref]
        split
        · exact ⟨rfl, rfl⟩
        · rename_i base basis
          rw [wp_ite]
          split
          · rename_i legacy
            exact ⟨rfl, fun modern => absurd legacy modern⟩
          · exact ⟨rfl, fun _ => by simp [basis, considered.1, considered.2]⟩

/-- A device after it worked off what was queued. -/
def Worked (before after : SnapDevice) : Prop :=
  ∃ sdFailCode sdPending sdCowThread,
    after = { before with sdFailCode, sdPending, sdCowThread } ∧
      (sdFailCode = none → before.sdFailCode = none)

theorem Worked.refl (device : SnapDevice) : Worked device device := ⟨_, _, _, rfl, id⟩

theorem Worked.trans {first second third : SnapDevice} (left : Worked first second)
    (right : Worked second third) : Worked first third := by
  obtain ⟨_, _, _, rfl, code⟩ := left
  obtain ⟨_, _, _, rfl, code'⟩ := right
  exact ⟨_, _, _, rfl, fun none => code (code' none)⟩

theorem Worked.alike {before after : SnapDevice} (worked : Worked before after) :
    Alike before after := by
  obtain ⟨_, _, _, rfl, code⟩ := worked
  exact ⟨rfl, rfl, rfl, rfl, rfl, rfl, rfl, code⟩

theorem MayFail.worked {before after : SnapDevice} (may : MayFail before after) :
    Worked before after := by
  rcases may with rfl | ⟨error, rfl⟩
  · exact Worked.refl _
  · refine ⟨_, _, _, rfl, ?_⟩
    cases code : before.sdFailCode <;> simp

theorem tracerDestroyCowThread_worked :
    Concerns dev paths device (tracerDestroyCowThread dev) (fun _ => Worked device)
      (fun _ _ => True) := by
  apply tracerDestroyCowThread_concerns.mono
  · rintro _ _ ⟨drained, may, rfl⟩
    split
    · obtain ⟨_, _, _, rfl, code⟩ := may.worked
      exact ⟨_, _, _, rfl, code⟩
    · exact Worked.refl _
  · exact fun _ _ _ => trivial

/-- The last flush of a device that is not active. -/
theorem flush_worked :
    Concerns dev paths device
      (do
        ignoring (tracerSetupCowThread .flushThread dev)
        wakeUpCowThread dev
        tracerDestroyCowThread dev)
      (fun _ => Worked device) (fun _ _ => True) := by
  apply Concerns.bind (R := fun _ => Worked device)
  · apply Concerns.catching ((tracerSetupCowThread_concerns .flushThread).mono _ fun _ _ => id)
    · intro _ _ same
      rw [same]
      exact .pure (Worked.refl device)
    · exact fun _ _ => trivial
    · exact fun _ _ => trivial
    · intro _ _ same
      rw [same]
      exact ⟨_, _, _, rfl, id⟩
  · intro _ middle worked
    apply Concerns.bind (wakeUpCowThread_concerns.mono (fun _ _ => id) fun _ _ _ => trivial)
    rintro _ _ ⟨rfl, _⟩
    exact tracerDestroyCowThread_worked.mono (fun _ _ => worked.trans) fun _ _ => id

/-- The device left the table. -/
structure Gone (machine : Machine) (leaky : Prop) (dev : Address) (paths : CowPath → Prop)
    (minor : Nat) (before after : Kernel) : Prop where
  apart : Apart dev paths before after
  table : after.snapDevices = Function.update before.snapDevices minor none
  wired : after.Wired machine
  device : ∃ device, after.devices dev = some device ∧ Owns paths after device
  operations : TraceTable.Operations machine leaky before.tracing after.tracing

theorem tracing_cleared {before after : Kernel} (minor : Nat)
    (others : ∀ other, other ≠ dev → after.devices other = before.devices other)
    (table : after.snapDevices = Function.update before.snapDevices minor none)
    (apart : ∀ other, other ≠ minor → before.snapDevices other ≠ some dev) :
    after.tracing.slots = Function.update before.tracing.slots minor none := by
  funext other
  unfold Kernel.tracing
  dsimp only
  rw [table]
  by_cases here : other = minor
  · subst here
    simp
  · rw [Function.update_of_ne here, Function.update_of_ne here]
    cases held : before.snapDevices other with
    | none => rfl
    | some kept =>
        apply others
        intro same
        exact apart other here (same ▸ held)

theorem outside_cleared {before after : Kernel} (wired : before.Wired machine)
    (slot : before.snapDevices minor = some dev)
    (table : after.snapDevices = Function.update before.snapDevices minor none) :
    after.Outside dev := by
  intro other held
  rw [table] at held
  by_cases here : other = minor
  · rw [here, Function.update_self] at held
    contradiction
  · rw [Function.update_of_ne here] at held
    exact here (wired.apart other minor dev held slot)

theorem wired_cleared {before after : Kernel} (wired : before.Wired machine)
    (slot : before.snapDevices minor = some dev)
    (others : ∀ other, other ≠ dev → after.devices other = before.devices other)
    (table : after.snapDevices = Function.update before.snapDevices minor none)
    (fresh : before.fresh ≤ after.fresh) (range : after.InRange) (unallocated : after.Unallocated) :
    after.Wired machine := by
  have outside := outside_cleared wired slot table
  apply wired.left others _ fresh range unallocated
  intro other kept held
  constructor
  · rw [table] at held
    by_cases here : other = minor
    · rw [here, Function.update_self] at held
      contradiction
    · exact (Function.update_of_ne here _ _).symm.trans held
  · rintro rfl
    exact outside other held

theorem inRange_cleared (range : kernel.InRange) (changed : Kernel)
    (table : changed.snapDevices = Function.update kernel.snapDevices minor none)
    (lowest : changed.lowestMinor = kernel.lowestMinor)
    (highest : changed.highestMinor = kernel.highestMinor) : changed.InRange := by
  intro other kept held
  rw [table] at held
  rw [lowest, highest]
  by_cases here : other = minor
  · rw [here, Function.update_self] at held
    contradiction
  · exact range other kept ((Function.update_of_ne here _ _).symm.trans held)

theorem Worked.freezes {middle : Kernel} {device' : SnapDevice} (worked : Worked device device')
    (mounted : middle.mounted = kernel.mounted) (faults : middle.faults = kernel.faults)
    (freezes : kernel.Freezes machine bdev device) : middle.Freezes machine bdev device' := by
  obtain ⟨_, _, _, rfl, code⟩ := worked
  unfold Kernel.Freezes at *
  rw [mounted, faults]
  rcases freezes with unmounted | failed | absent
  · exact .inl unmounted
  · exact .inr (.inl fun none => failed (code none))
  · exact .inr (.inr absent)

theorem TraceTable.Alone.setSlot {table : TraceTable} {slot : Option SnapDevice} :
    Alone machine (table.setSlot minor slot) minor bdev ↔ Alone machine table minor bdev := by
  have same : ∀ other device', other ≠ minor →
      ((table.setSlot minor slot).Verified other device' ↔ table.Verified other device') := by
    intro other device' away
    unfold TraceTable.Verified TraceTable.setSlot
    dsimp only
    rw [Function.update_of_ne away]
  constructor
  · exact fun alone other device' base away verified =>
      alone other device' base away ((same other device' away).mpr verified)
  · exact fun alone other device' base away verified =>
      alone other device' base away ((same other device' away).mp verified)

theorem stopDevice_gone (wired : kernel.Wired machine) (held : kernel.Holds minor dev device)
    (numbered : device.sdMinor = minor) (orig : device.sdOrigRequestFn.isSome)
    (based : device.sdBaseDev = some bdev) (freezes : kernel.Freezes machine bdev device)
    (owns : Owns paths kernel device) :
    wp (stopDevice machine dev device) (fun _ => Gone machine leaky dev paths minor kernel)
      (fun _ _ => True) kernel := by
  unfold stopDevice
  rw [wp_bind, wp_deref_some based, wp_bind]
  apply wp_mono (tracerShouldResetMrf_reads wired held based)
  · intro reset middle ⟨same, alone⟩
    subst middle
    have flushes : Concerns dev paths device
        (when (reset && !device.active) do
          ignoring (tracerSetupCowThread .flushThread dev)
          wakeUpCowThread dev
          tracerDestroyCowThread dev)
        (fun _ => Worked device) (fun _ _ => True) :=
      .when (fun _ => flush_worked) fun _ => Worked.refl device
    rw [wp_bind]
    apply wp_mono (flushes kernel held.2 owns) _ fun _ _ _ => trivial
    intro _ middle here
    obtain ⟨works, wired'⟩ : Operation machine leaky kernel.tracing middle.tracing ∧
        middle.Wired machine := here.works held wired fun _ worked => worked.alike
    obtain ⟨elsewhere, device', found, owns', worked⟩ := here
    have slot : middle.snapDevices minor = some dev := by
      rw [elsewhere.table]
      exact held.1
    have held' : middle.Holds minor dev device' := ⟨slot, found⟩
    have alike := worked.alike
    rw [wp_bind, wp_ignoring, numbered]
    apply stop_spec held'
    · intro _
      let ended := middle.ended machine dev device' bdev
        (if reset then device.bdOps else none) minor
      have others : ∀ other, other ≠ dev → ended.devices other = middle.devices other :=
        fun other away => Function.update_of_ne away _ _
      have found' : ended.devices dev =
          some { device' with sdActive := device'.sdActive - 1 } := Function.update_self _ _ _
      have outside : ended.Outside dev := outside_cleared wired' slot rfl
      have shown : ended.tracing = (middle.tracing.setDisk machine bdev
          ((middle.tracing.disk machine bdev).unhook machine
            (if reset then device'.bdOps else none))).setSlot minor none := by
        have slots := tracing_cleared minor others rfl
          fun other away slot' => away (wired'.apart other minor dev slot' slot)
        unfold TraceTable.setSlot TraceTable.setDisk
        rw [TraceTable.mk.injEq, alike.bdOps]
        exact ⟨slots, rfl, rfl, rfl⟩
      apply wp_mono (moocbtFreeRequestTrackingPtr_spec outside wired'.unallocated found') _
        fun _ _ _ => trivial
      intro _ after put
      have table : after.snapDevices = Function.update middle.snapDevices minor none := put.table
      have away : ∀ other, other ≠ dev → after.devices other = middle.devices other :=
        fun other apart => (put.aside.devices other apart).trans (others other apart)
      have ends : Aside dev middle ended :=
        ⟨rfl, rfl, rfl, rfl, rfl, rfl, rfl, Nat.le_refl _, others⟩
      constructor
      · exact elsewhere.toApart.trans ((ends.trans put.aside).apart paths)
      · rw [table, elsewhere.table]
      · apply wired_cleared wired' slot away table put.aside.fresh
        · exact inRange_cleared wired'.range after table put.lowest put.highest
        · exact put.unallocated
      · obtain ⟨kept, trops, found''⟩ := put.device
        refine ⟨_, found'', ?_⟩
        intro cow object has stored
        rw [put.aside.cows] at stored
        exact owns' cow object has stored
      · apply (Relation.ReflTransGen.single works).tail
        rw [put.tracing, shown]
        apply Operation.stopped held'.slot
        · rw [alike.sdOrigRequestFn]
          exact orig
        · rw [alike.sdBaseDev]
          exact based
        · intro modern
          rw [elsewhere.tracing_inside wired held.1 found, TraceTable.Alone.setSlot]
          exact alone modern
    · intro error stuck
      exact absurd (worked.freezes elsewhere.mounted elsewhere.faults freezes) stuck
  · exact fun _ _ _ => trivial

/-- A device that does not trace left its slot. -/
structure Vacated (machine : Machine) (dev : Address) (device : SnapDevice) (minor : Nat)
    (before after : Kernel) : Prop where
  aside : Aside dev before after
  table : after.snapDevices = Function.update before.snapDevices minor none
  wired : after.Wired machine
  device : after.devices dev = some { device with sdMinor := 0 }
  tracing : after.tracing = before.tracing.setSlot minor none

theorem tracerDestroyTracing_vacates (wired : kernel.Wired machine)
    (held : kernel.Holds minor dev device) (numbered : device.sdMinor = minor)
    (orig : device.sdOrigRequestFn = none) :
    wp (tracerDestroyTracing machine dev) (fun _ => Vacated machine dev device minor kernel)
      (fun _ _ => False) kernel := by
  have slot : kernel.snapDevices device.sdMinor = some dev := numbered ▸ held.1
  unfold tracerDestroyTracing leaveTable vacateSlot
  rw [wp_bind, wp_getDev held.2, wp_bind, if_neg (by simp [orig]), wp_bind, wp_read, wp_when,
    if_pos (decide_eq_true slot), wp_setSlot, wp_bind, wp_setDev, wp_minorRangeRecalculate]
  · rw [numbered]
    let cleared : Kernel :=
      { kernel with snapDevices := Function.update kernel.snapDevices minor none }
    let ended := (cleared.setDev dev { device with sdMinor := 0 }).recalculated machine
    have others : ∀ other, other ≠ dev → ended.devices other = kernel.devices other :=
      fun other away => Function.update_of_ne away _ _
    constructor
    · exact ⟨rfl, rfl, rfl, rfl, rfl, rfl, rfl, Nat.le_refl _, others⟩
    · rfl
    · apply wired_cleared wired held.1 others rfl (Nat.le_refl _)
      · apply Kernel.recalculated_inRange
        intro other kept stored
        by_cases here : other = minor
        · rw [here]
          exact wired.bounded minor dev held.1
        · exact wired.bounded other kept ((Function.update_of_ne here _ _).symm.trans stored)
      · exact wired.unallocated
    · exact Kernel.setDev_same _ _ _
    · have slots := tracing_cleared minor others rfl
        fun other away slot' => away (wired.apart other minor dev slot' held.1)
      unfold TraceTable.setSlot
      rw [← slots]
      rfl
  · exact held.2

/-- A device in no slot changed, with its manager and files. -/
structure Beside (machine : Machine) (dev : Address) (paths : CowPath → Prop) (before : Kernel)
    (good : SnapDevice → Prop) (after : Kernel) : Prop where
  apart : Apart dev paths before after
  allocated : dev < after.fresh
  table : after.snapDevices = before.snapDevices
  tracing : after.tracing = before.tracing
  wired : after.Wired machine
  device : ∃ device, after.devices dev = some device ∧ Owns paths after device ∧ good device

theorem Beside.next {good good' : SnapDevice → Prop} {before middle after : Kernel}
    (outside : before.Outside dev) (here : Beside machine dev paths before good middle)
    (there : Local dev paths middle good' after) : Beside machine dev paths before good' after := by
  obtain ⟨device, found, _⟩ := there.device
  constructor
  · exact here.apart.trans there.elsewhere.toApart
  · exact Nat.lt_of_lt_of_le here.allocated there.elsewhere.fresh
  · exact there.elsewhere.table.trans here.table
  · exact (there.elsewhere.tracing_outside (outside.unchanged here.table)).trans here.tracing
  · exact there.elsewhere.wired here.wired (by simp [found])
  · exact there.device

theorem Beside.step {α : Type} {good : SnapDevice → Prop} {before middle : Kernel}
    {program : KernelM α} {done : α → SnapDevice → Prop} {stopped : Stop → SnapDevice → Prop}
    (outside : before.Outside dev) (here : Beside machine dev paths before good middle)
    (next : ∀ device, good device → Concerns dev paths device program done stopped) :
    wp program (fun value => Beside machine dev paths before (done value))
      (fun reason => Beside machine dev paths before (stopped reason)) middle := by
  obtain ⟨device, found, owns, holds⟩ := here.device
  apply wp_mono (next device holds middle found owns)
  · exact fun _ _ there => here.next outside there
  · exact fun _ _ there => here.next outside there

theorem Beside.setDev {good : SnapDevice → Prop} {before : Kernel}
    {f : SnapDevice → SnapDevice} (outside : before.Outside dev)
    (here : Beside machine dev paths before good kernel) (good' : SnapDevice → Prop)
    (next : ∀ device, good device →
      (Owns paths kernel device → Owns paths kernel (f device)) ∧ good' (f device)) :
    wp (Driver.setDev dev f) (fun _ => Beside machine dev paths before good')
      (fun _ _ => False) kernel := by
  obtain ⟨device, found, owns, holds⟩ := here.device
  obtain ⟨keeps, holds'⟩ := next device holds
  rw [wp_setDev found]
  exact here.next outside
    ⟨.setDev dev paths kernel _, _, Kernel.setDev_same _ _ _, keeps owns, holds'⟩

theorem Beside.weaken {good better : SnapDevice → Prop} {before after : Kernel}
    (here : Beside machine dev paths before better after)
    (weaker : ∀ device, better device → good device) : Beside machine dev paths before good after := by
  obtain ⟨device, found, owns, holds⟩ := here.device
  exact { here with device := ⟨device, found, owns, weaker device holds⟩ }

theorem tracerDestroyTracing_beside {before : Kernel} {good : SnapDevice → Prop}
    (outside : before.Outside dev) (here : Beside machine dev paths before good kernel)
    (orig : ∀ device, good device → device.sdOrigRequestFn = none) :
    wp (tracerDestroyTracing machine dev)
      (fun _ => Beside machine dev paths before fun after =>
        ∃ device, good device ∧ after = { device with sdMinor := 0 })
      (fun _ _ => False) kernel := by
  obtain ⟨device, found, owns, holds⟩ := here.device
  have absent : kernel.snapDevices device.sdMinor ≠ some dev := outside.unchanged here.table _
  unfold tracerDestroyTracing leaveTable vacateSlot
  rw [wp_bind, wp_getDev found, wp_bind, if_neg (by simp [orig device holds]), wp_bind, wp_read,
    wp_when, if_neg (by simpa using absent), wp_bind, wp_setDev found, wp_minorRangeRecalculate]
  let ended := (kernel.setDev dev { device with sdMinor := 0 }).recalculated machine
  have others : ∀ other, other ≠ dev → ended.devices other = kernel.devices other :=
    fun other away => Function.update_of_ne away _ _
  have aside : Aside dev kernel ended := ⟨rfl, rfl, rfl, rfl, rfl, rfl, rfl, Nat.le_refl _, others⟩
  constructor
  · exact here.apart.trans (aside.apart paths)
  · exact here.allocated
  · exact here.table
  · exact (tracing_setDev_outside (outside.unchanged here.table) _).trans here.tracing
  · apply here.wired.left others
    · exact fun other kept held => ⟨held, fun same => outside.unchanged here.table other (same ▸ held)⟩
    · exact Nat.le_refl _
    · exact Kernel.recalculated_inRange here.wired.bounded
    · exact here.wired.unallocated
  · exact ⟨_, Kernel.setDev_same _ _ _, owns, device, holds, rfl⟩

/-- What `tracer_destroy` leaves of a device. -/
def TornDown (before after : SnapDevice) : Prop :=
  ∃ sdFailCode sdPending sdCowThread,
    after =
      { before with
        sdFailCode
        sdPending
        sdCowThread
        sdMrfThread := false
        sdGd := false
        sdCowPath := none
        sdFallocSize := 0
        sdCacheSize := 0
        sdCow := none
        sdSize := 0
        sdBdevPath := none
        sdBaseDev := none }

theorem tearDown_concerns :
    Concerns dev paths device
      (do
        tracerDestroyCowThread dev
        tracerDestroySnap dev
        tracerDestroyCowPath dev
        tracerDestroyCow dev .free
        tracerDestroyBaseDev dev)
      (fun _ => TornDown device) (fun _ _ => True) := by
  apply Concerns.bind tracerDestroyCowThread_worked
  rintro _ _ ⟨_, _, _, rfl, _⟩
  apply Concerns.setThen (.inl rfl)
  apply Concerns.setThen (.inl rfl)
  apply Concerns.bind ((tracerDestroyCow_concerns .free).mono (fun _ _ => id) fun _ _ _ => trivial)
  intro _ _ same
  rw [same]
  exact .setDev (.inl rfl) ⟨_, _, _, rfl⟩

theorem tracerDestroy_beside {before : Kernel} {good : SnapDevice → Prop}
    (outside : before.Outside dev) (here : Beside machine dev paths before good kernel)
    (orig : ∀ device, good device → device.sdOrigRequestFn = none) :
    wp (tracerDestroy machine dev)
      (fun _ => Beside machine dev paths before fun after =>
        ∃ device, good device ∧ TornDown { device with sdMinor := 0 } after)
      (fun _ _ => True) kernel := by
  unfold tracerDestroy
  rw [wp_bind]
  apply wp_mono (tracerDestroyTracing_beside outside here orig) _ fun _ _ _ => trivial
  intro _ middle there
  apply wp_mono (there.step outside _) (fun _ _ => id) fun _ _ _ => trivial
  · exact fun _ _ => True
  · rintro _ ⟨device, holds, rfl⟩
    exact tearDown_concerns.mono (fun _ _ torn => ⟨device, holds, torn⟩) fun _ _ _ => trivial

/-- `tracer_destroy` of a device of the table: unless the freeze keeps it, it leaves. -/
theorem tracerDestroy_gone (wired : kernel.Wired machine) (held : kernel.Holds minor dev device)
    (numbered : device.sdMinor = minor) (owns : Owns paths kernel device)
    (freezes : device.sdOrigRequestFn.isSome →
      ∃ bdev, device.sdBaseDev = some bdev ∧ kernel.Freezes machine bdev device) :
    wp (tracerDestroy machine dev) (fun _ => Gone machine leaky dev paths minor kernel)
      (fun _ _ => True) kernel := by
  have left : wp (tracerDestroyTracing machine dev)
      (fun _ => Gone machine leaky dev paths minor kernel) (fun _ _ => True) kernel := by
    cases orig : device.sdOrigRequestFn with
    | none =>
        apply wp_mono (tracerDestroyTracing_vacates wired held numbered orig) _
          fun _ _ _ => trivial
        intro _ after gone
        constructor
        · exact gone.aside.apart paths
        · exact gone.table
        · exact gone.wired
        · refine ⟨_, gone.device, ?_⟩
          intro cow object has stored
          rw [gone.aside.cows] at stored
          exact owns cow object has stored
        · rw [gone.tracing]
          exact .single (.dropped held.slot orig)
    | some fn =>
        obtain ⟨bdev, based, freezes⟩ := freezes (by simp [orig])
        unfold tracerDestroyTracing leaveTable
        rw [wp_bind, wp_getDev held.2, wp_bind, if_pos (by simp [orig])]
        have stops : wp (stopDevice machine dev device)
            (fun _ => Gone machine leaky dev paths minor kernel) (fun _ _ => True) kernel :=
          stopDevice_gone wired held numbered (by simp [orig]) based freezes owns
        apply wp_mono stops _ fun _ _ _ => trivial
        intro _ after gone
        obtain ⟨device', found, owns'⟩ := gone.device
        rw [wp_bind, wp_setDev found, wp_minorRangeRecalculate]
        have outside : after.Outside dev := outside_cleared wired held.1 gone.table
        let ended := (after.setDev dev { device' with sdMinor := 0 }).recalculated machine
        have others : ∀ other, other ≠ dev → ended.devices other = after.devices other :=
          fun other away => Function.update_of_ne away _ _
        have aside : Aside dev after ended := ⟨rfl, rfl, rfl, rfl, rfl, rfl, rfl, Nat.le_refl _, others⟩
        constructor
        · exact gone.apart.trans (aside.apart paths)
        · exact gone.table
        · apply gone.wired.left others
          · exact fun other kept slot => ⟨slot, fun same => outside other (same ▸ slot)⟩
          · exact Nat.le_refl _
          · exact Kernel.recalculated_inRange gone.wired.bounded
          · exact gone.wired.unallocated
        · exact ⟨_, Kernel.setDev_same _ _ _, owns'⟩
        · have shown : ended.tracing = after.tracing := tracing_setDev_outside outside _
          change TraceTable.Operations machine leaky kernel.tracing ended.tracing
          rw [shown]
          exact gone.operations
  unfold tracerDestroy
  rw [wp_bind]
  apply wp_mono left _ fun _ _ _ => trivial
  intro _ middle gone
  have outside : middle.Outside dev := outside_cleared wired held.1 gone.table
  obtain ⟨device', found, owns'⟩ := gone.device
  apply wp_mono (tearDown_concerns middle found owns') _ fun _ _ _ => trivial
  intro _ after there
  obtain ⟨device'', found', owns'', _⟩ := there.device
  constructor
  · exact gone.apart.trans there.elsewhere.toApart
  · exact there.elsewhere.table.trans gone.table
  · exact there.elsewhere.wired gone.wired (by simp [found'])
  · exact ⟨device'', found', owns''⟩
  · rw [there.elsewhere.tracing_outside outside]
    exact gone.operations

end removal

end Moocbt.Driver
