import Moocbt.Driver.Order

/-! How a device leaves the table in any state of it: other slots may hold devices that were freed,
and the freeze may keep the device in its slot. -/

namespace Moocbt.Driver

open Cow (Errno Stop)
open Program

variable {machine : Machine} {kernel before middle after : Kernel} {dev : Address}
  {device device' : SnapDevice} {bdev minor : Nat} {terms : Terms} {busy : Address → Prop}

/-- The device has changed, and may have left its slot. -/
structure Left (machine : Machine) (dev : Address) (minor : Nat) (before after : Kernel) :
    Prop where
  others : ∀ other, other ≠ dev → after.devices other = before.devices other
  slots : ∀ other, after.snapDevices other = before.snapDevices other ∨
    other = minor ∧ after.snapDevices other = none
  fresh : before.fresh ≤ after.fresh
  mounted : after.mounted = before.mounted
  faults : after.faults = before.faults
  unallocated : before.Unallocated → after.Unallocated
  disks : machine.build = .hooked → after.disks = before.disks
  counted : machine.build ≠ .makeRequest → before.Counted → after.Counted

namespace Left

theorem refl : Left machine dev minor kernel kernel :=
  ⟨fun _ _ => rfl, fun _ => .inl rfl, Nat.le_refl _, rfl, rfl, id, fun _ => rfl, fun _ => id⟩

theorem trans (first : Left machine dev minor before middle)
    (second : Left machine dev minor middle after) : Left machine dev minor before after where
  others := fun other away => (second.others other away).trans (first.others other away)
  slots := by
    intro other
    rcases second.slots other with same | cleared
    · rw [same]
      exact first.slots other
    · exact .inr cleared
  fresh := Nat.le_trans first.fresh second.fresh
  mounted := second.mounted.trans first.mounted
  faults := second.faults.trans first.faults
  unallocated := fun free => second.unallocated (first.unallocated free)
  disks := fun build => (second.disks build).trans (first.disks build)
  counted := fun modern counts => second.counted modern (first.counted modern counts)

theorem slot (left : Left machine dev minor before after) {other : Nat} {kept : Address}
    (held : after.snapDevices other = some kept) : before.snapDevices other = some kept := by
  rcases left.slots other with same | cleared
  · rw [← same]
    exact held
  · rw [cleared.2] at held
    contradiction

/-- A change that keeps the reference of the device. -/
theorem of_same (others : ∀ other, other ≠ dev → after.devices other = before.devices other)
    (slots : ∀ other, after.snapDevices other = before.snapDevices other ∨
      other = minor ∧ after.snapDevices other = none)
    (fresh : before.fresh ≤ after.fresh) (mounted : after.mounted = before.mounted)
    (faults : after.faults = before.faults) (copies : after.copies = before.copies)
    (tracingOps : after.tracingOps = before.tracingOps)
    (disks : machine.build = .hooked → after.disks = before.disks)
    (same : after.heldOps dev = before.heldOps dev) : Left machine dev minor before after where
  others := others
  slots := slots
  fresh := fresh
  mounted := mounted
  faults := faults
  unallocated := by
    intro free address above
    rw [copies, tracingOps]
    exact free address (Nat.le_trans fresh above)
  disks := disks
  counted := fun _ counts => counts.of_same after others same tracingOps fresh

theorem setDev (found : kernel.devices dev = some device) {device' : SnapDevice}
    (same : device'.sdTracingOps = device.sdTracingOps) :
    Left machine dev minor kernel (kernel.setDev dev device') := by
  apply of_same
  · exact fun other away => Function.update_of_ne away _ _
  · exact fun _ => .inl rfl
  · exact Nat.le_refl _
  · rfl
  · rfl
  · rfl
  · rfl
  · exact fun _ => rfl
  · simp [Kernel.heldOps, found, same]

/-- A device that gives its reference back. -/
theorem put {address : Address} {count : Nat} (found : kernel.devices dev = some device)
    (refers : device.sdTracingOps = some address) (refs : kernel.opsRefs address = some count)
    (devices : middle.devices = kernel.devices) (slots : middle.snapDevices = kernel.snapDevices)
    (fresh : middle.fresh = kernel.fresh) (mounted : middle.mounted = kernel.mounted)
    (faults : middle.faults = kernel.faults)
    (disks : middle.disks = kernel.disks)
    (unallocated : kernel.Unallocated → middle.Unallocated)
    (counts : middle.opsRefs = Function.update kernel.opsRefs address
      (if count - 1 = 0 then none else some (count - 1))) :
    Left machine dev minor kernel (middle.setDev dev { device with sdTracingOps := none }) where
  others := fun other away => (Function.update_of_ne away _ _).trans (congrFun devices other)
  slots := fun _ => .inl (congrFun slots _)
  fresh := Nat.le_of_eq fresh.symm
  mounted := mounted
  faults := faults
  unallocated := unallocated
  disks := fun _ => disks
  counted := by
    intro _ counted
    have has : kernel.heldOps dev = some address := by simp [Kernel.heldOps, found, refers]
    apply (counted.put has refs).congr _ counts (Nat.le_of_eq fresh.symm)
    funext other
    by_cases here : other = dev
    · subst here
      simp [Kernel.heldOps]
    · have same : (middle.setDev dev { device with sdTracingOps := none }).devices other =
          kernel.devices other := (Function.update_of_ne here _ _).trans (congrFun devices other)
      rw [Function.update_of_ne here]
      unfold Kernel.heldOps
      rw [same]

end Left

theorem Elsewhere.left {paths : CowPath → Prop} (elsewhere : Elsewhere dev paths before after)
    (same : after.heldOps dev = before.heldOps dev) : Left machine dev minor before after :=
  .of_same elsewhere.devices (fun _ => .inl (by rw [elsewhere.table])) elsewhere.fresh
    elsewhere.mounted elsewhere.faults elsewhere.copies elsewhere.tracingOps (fun _ => elsewhere.disks) same

theorem Gendisk.unhook_hooked (build : machine.build = .hooked) (gendisk : Gendisk)
    (bdOps : Option OpsPtr) : gendisk.unhook machine bdOps = gendisk := by
  simp [Gendisk.unhook, build]

theorem Kernel.ended_left (found : kernel.devices dev = some device) (bdOps : Option OpsPtr) :
    Left machine dev minor kernel (kernel.ended machine dev device bdev bdOps minor) := by
  apply Left.of_same
  · exact fun other away => Function.update_of_ne away _ _
  · intro other
    by_cases here : other = minor
    · subst here
      exact .inr ⟨rfl, Function.update_self _ _ _⟩
    · exact .inl (Function.update_of_ne here _ _)
  · exact Nat.le_refl _
  · rfl
  · rfl
  · rfl
  · rfl
  · intro build
    unfold Kernel.ended
    rw [Gendisk.unhook_hooked build]
    exact Function.update_eq_self _ _
  · simp [Kernel.heldOps, Kernel.ended, found]

/-- The device has given its reference back. -/
theorem moocbtFreeRequestTrackingPtr_left (found : kernel.devices dev = some device) :
    wp (moocbtFreeRequestTrackingPtr machine dev)
      (fun _ after => Left machine dev minor kernel after ∧ ∃ device',
        after.devices dev = some device' ∧
          (machine.build ≠ .makeRequest → device'.sdTracingOps = none))
      (fun _ _ => True) kernel := by
  unfold moocbtFreeRequestTrackingPtr
  by_cases legacy : machine.build = .makeRequest
  · rw [if_pos legacy, wp_setDev found]
    exact ⟨.setDev found rfl, _, Kernel.setDev_same _ _ _, (absurd legacy ·)⟩
  · rw [if_neg legacy, wp_bind, wp_getDev found]
    cases refers : device.sdTracingOps with
    | none => exact ⟨.refl, device, found, fun _ => refers⟩
    | some address =>
        dsimp only
        unfold tracingOpsPut
        rw [wp_bind, wp_bind, wp_read, wp_bind]
        cases stored : kernel.tracingOps address with
        | none => trivial
        | some ops =>
            have refs : kernel.opsRefs address = some ops.refs := by
              simp [Kernel.opsRefs, stored]
            rw [wp_deref]
            dsimp only
            rw [wp_ite]
            split
            · rename_i last
              rw [wp_update, wp_setDev]
              · refine ⟨.put found refers refs rfl rfl rfl rfl rfl rfl (fun free => free.free) ?_, _,
                  Kernel.setDev_same _ _ _, fun _ => rfl⟩
                rw [if_pos last]
                funext other
                by_cases here : other = address
                · subst here
                  simp [Kernel.opsRefs]
                · simp [Kernel.opsRefs, here]
              · exact found
            · rename_i more
              rw [wp_update, wp_setDev]
              · refine ⟨.put found refers refs rfl rfl rfl rfl rfl rfl (fun free => free.setOps stored) ?_, _,
                  Kernel.setDev_same _ _ _, fun _ => rfl⟩
                rw [if_neg more]
                funext other
                by_cases here : other = address
                · subst here
                  simp [Kernel.opsRefs]
                · simp [Kernel.opsRefs, here]
              · exact found

theorem tracerShouldResetMrf_looks (found : kernel.devices dev = some device) :
    Reads kernel (tracerShouldResetMrf machine dev) fun _ => True := by
  unfold Reads tracerShouldResetMrf
  rw [wp_bind, wp_read, wp_bind, wp_getDev found, wp_bind, wp_deref]
  split
  · exact ⟨rfl, rfl⟩
  · rename_i bdev _
    rw [wp_ite]
    split
    · exact ⟨rfl, trivial⟩
    · rw [wp_bind]
      unfold tracerForEach
      rw [wp_bind, wp_read]
      have looks : ∀ (other : Nat) (device' : SnapDevice), Reads kernel
          (if device'.unverified || decide (kernel.snapDevices other = some dev) then pure false
          else do
            let base ← deref device'.sdBaseDev
            if machine.build = .makeRequest then
              pure (decide (machine.bdDisk base = machine.bdDisk bdev))
            else pure (decide ((kernel.disk machine base).fops = (kernel.disk machine bdev).fops)))
          fun _ => True := by
        intro other device'
        unfold Reads
        rw [wp_ite]
        split
        · exact ⟨rfl, trivial⟩
        · rw [wp_bind, wp_deref]
          split
          · exact ⟨rfl, rfl⟩
          · rw [wp_ite]
            split
            · exact ⟨rfl, trivial⟩
            · exact ⟨rfl, trivial⟩
      apply wp_mono (findDev_reads looks kernel.minors)
      · exact fun _ _ found => ⟨found.1, trivial⟩
      · exact fun _ _ => id

/-- The freeze does not keep a device in its slot. -/
abbrev Kernel.LetsGo (machine : Machine) (kernel : Kernel) (device : SnapDevice) : Prop :=
  device.sdOrigRequestFn.isSome = true →
    ∀ bdev, device.sdBaseDev = some bdev → kernel.Freezes machine bdev device

theorem Worked.held (worked : Worked device device') : device'.sdTracingOps = device.sdTracingOps :=
  worked.alike.sdTracingOps

/-- `__tracer_destroy_tracing` up to the computation of the range. -/
theorem leaveTable_left (held : kernel.Holds minor dev device) (numbered : device.sdMinor = minor) :
    wp (leaveTable machine dev device)
      (fun _ after => Left machine dev minor kernel after ∧ ∃ device',
        after.devices dev = some device' ∧
          (machine.build ≠ .makeRequest →
            device.sdOrigRequestFn.isSome ∨ device.sdTracingOps = none →
            device'.sdTracingOps = none) ∧
          (kernel.LetsGo machine device →
            after.snapDevices minor = none))
      (fun _ _ => True) kernel := by
  unfold leaveTable
  rw [wp_ite]
  split
  · rename_i traces
    unfold stopDevice
    rw [wp_bind, wp_deref]
    split
    · trivial
    · rename_i bdev based
      rw [wp_bind]
      apply wp_mono (tracerShouldResetMrf_looks held.2) _ fun _ _ _ => trivial
      intro reset middle looked
      rw [looked.1]
      have flushes : Concerns dev (fun _ => True) device
          (when (reset && !device.active) do
            ignoring (tracerSetupCowThread .flushThread dev)
            wakeUpCowThread dev
            tracerDestroyCowThread dev)
          (fun _ => Worked device) (fun _ _ => True) :=
        .when (fun _ => flush_worked) fun _ => Worked.refl device
      rw [wp_bind]
      apply wp_mono (flushes kernel held.2 fun _ _ _ _ => trivial) _ fun _ _ _ => trivial
      intro _ middle flushed
      obtain ⟨device', found, _, worked⟩ := flushed.device
      have left : Left machine dev minor kernel middle := by
        apply flushed.elsewhere.left
        simp [Kernel.heldOps, held.2, found, worked.alike.sdTracingOps]
      have held' : middle.Holds minor dev device' :=
        ⟨(congrFun flushed.elsewhere.table minor).trans held.1, found⟩
      have frees : ∀ {ended : Kernel} {device'' : SnapDevice}, Left machine dev minor kernel ended →
          ended.devices dev = some device'' →
          (kernel.LetsGo machine device →
            ended.snapDevices minor = none) →
          wp (moocbtFreeRequestTrackingPtr machine dev)
            (fun _ after => Left machine dev minor kernel after ∧ ∃ device',
              after.devices dev = some device' ∧
                (machine.build ≠ .makeRequest →
                  device.sdOrigRequestFn.isSome ∨ device.sdTracingOps = none →
                  device'.sdTracingOps = none) ∧
                (kernel.LetsGo machine device →
                  after.snapDevices minor = none))
            (fun _ _ => True) ended := by
        intro ended device'' left found' cleared
        have frees := @moocbtFreeRequestTrackingPtr_left machine ended dev device'' minor found'
        apply wp_mono frees _ fun _ _ _ => trivial
        intro _ after freed
        obtain ⟨freed, kept, found'', gone⟩ := freed
        refine ⟨left.trans freed, kept, found'', fun modern _ => gone modern, fun freezes => ?_⟩
        rcases freed.slots minor with same | empty
        · rw [same]
          exact cleared freezes
        · exact empty.2
      rw [wp_bind, wp_ignoring, numbered]
      apply stop_spec held'
      · intro _
        apply frees (left.trans (Kernel.ended_left found _)) (Function.update_self _ _ _)
        exact fun _ => Function.update_self _ _ _
      · intro _ keeps
        apply frees left found
        intro freezes
        apply absurd _ keeps
        exact worked.freezes flushed.elsewhere.mounted flushed.elsewhere.faults
          (freezes traces bdev based)
  · rename_i silent
    unfold vacateSlot
    rw [wp_bind, wp_read, wp_when, numbered, if_pos (decide_eq_true held.1), wp_setSlot]
    constructor
    · apply Left.of_same
      · exact fun _ _ => rfl
      · intro other
        by_cases here : other = minor
        · subst here
          exact .inr ⟨rfl, Function.update_self _ _ _⟩
        · exact .inl (Function.update_of_ne here _ _)
      · exact Nat.le_refl _
      · rfl
      · rfl
      · rfl
      · rfl
      · exact fun _ => rfl
      · rfl
    · exact ⟨device, held.2, fun _ refers => refers.resolve_left silent,
        fun _ => Function.update_self _ _ _⟩

/-- A device of the table was destroyed: it is still there, and its slot may not be free. -/
theorem tracerDestroy_left (held : kernel.Holds minor dev device)
    (numbered : device.sdMinor = minor) :
    wp (tracerDestroy machine dev)
      (fun _ after => ∃ ended device', Left machine dev minor kernel ended ∧
        Local dev (fun _ => True) (ended.recalculated machine)
          (fun after => after.sdTracingOps = device'.sdTracingOps) after ∧
        ended.devices dev = some device' ∧
        (machine.build ≠ .makeRequest →
          device.sdOrigRequestFn.isSome ∨ device.sdTracingOps = none →
          device'.sdTracingOps = none) ∧
        (kernel.LetsGo machine device →
          ended.snapDevices minor = none))
      (fun _ _ => True) kernel := by
  unfold tracerDestroy tracerDestroyTracing
  rw [wp_bind, wp_bind, wp_getDev held.2, wp_bind]
  apply wp_mono (leaveTable_left held numbered) _ fun _ _ _ => trivial
  intro _ middle left
  obtain ⟨left, device', found, gone⟩ := left
  rw [wp_bind, wp_setDev found, wp_minorRangeRecalculate]
  have found' : ((middle.setDev dev { device' with sdMinor := 0 }).recalculated machine).devices dev =
      some { device' with sdMinor := 0 } := Kernel.setDev_same _ _ _
  have owns : Owns (fun _ => True) ((middle.setDev dev { device' with sdMinor := 0 }).recalculated
      machine) { device' with sdMinor := 0 } := fun _ _ _ _ => trivial
  apply wp_mono (tearDown_concerns _ found' owns) _ fun _ _ _ => trivial
  intro _ after torn
  refine ⟨middle.setDev dev { device' with sdMinor := 0 }, { device' with sdMinor := 0 },
    left.trans (.setDev found rfl), torn.weaken ?_, Kernel.setDev_same _ _ _, gone⟩
  intro _ torn
  obtain ⟨_, _, _, same⟩ := torn
  rw [same]

/-- Nothing is being worked on any more. -/
abbrev Kernel.InOrder (machine : Machine) (terms : Terms) (kernel : Kernel) : Prop :=
  kernel.Orderly machine terms fun _ => False

theorem Left.recalculated {ended : Kernel} (left : Left machine dev minor kernel ended)
    (orderly : kernel.Orderly machine terms busy) (only : ∀ other, busy other → other = dev)
    (known : dev < kernel.fresh) (kept : (ended.devices dev).isSome) :
    (ended.recalculated machine).Orderly machine terms (· = dev) := by
  apply orderly.recalculated known only left.others
  · exact fun _ _ => left.slot
  · exact left.fresh
  · exact left.unallocated orderly.unallocated
  · intro build
    rw [left.disks build]
    exact orderly.drivers build
  · exact fun is modern => left.counted modern (orderly.counted is modern)
  · exact kept

/-- A device that is worked on goes on with what concerns it alone. -/
theorem Kernel.Orderly.alone {paths : CowPath → Prop}
    (orderly : before.Orderly machine terms (· = dev))
    (elsewhere : Elsewhere dev paths before after) (known : dev < before.fresh)
    (kept : (after.devices dev).isSome) (same : after.heldOps dev = before.heldOps dev) :
    after.Orderly machine terms (· = dev) :=
  orderly.elsewhere elsewhere known kept same (fun _ _ _ idle => absurd rfl idle)
    fun _ _ idle => absurd rfl idle

/-- A device of the table is destroyed. -/
theorem tracerDestroy_orderly (order : kernel.InOrder machine terms)
    (held : kernel.Holds minor dev device) :
    wp (tracerDestroy machine dev)
      (fun _ after => after.Orderly machine terms (· = dev) ∧
        (machine.build ≠ .makeRequest →
          device.sdOrigRequestFn.isSome ∨ device.sdTracingOps = none → after.heldOps dev = none) ∧
        (kernel.LetsGo machine device → after.Outside dev))
      (fun _ _ => True) kernel := by
  have numbered := (order.settled minor dev device held id).sdMinor
  have known := order.devices dev device held.2
  apply wp_mono (tracerDestroy_left held numbered) _ fun _ _ _ => trivial
  intro _ after destroyed
  obtain ⟨ended, device', left, torn, found, gone, cleared⟩ := destroyed
  have order' := left.recalculated order (fun _ => False.elim) known (by simp [found])
  have before : (ended.recalculated machine).heldOps dev = device'.sdTracingOps := by
    simp [Kernel.heldOps, Kernel.recalculated, found]
  obtain ⟨device'', found', _, refers⟩ := torn.device
  have after_ : after.heldOps dev = device'.sdTracingOps := by
    simp [Kernel.heldOps, found', refers]
  refine ⟨?_, ?_, ?_⟩
  · apply order'.alone torn.elsewhere
    · exact Nat.lt_of_lt_of_le known left.fresh
    · simp [found']
    · rw [after_, before]
  · intro modern why
    rw [after_]
    exact gone modern why
  · intro goes other slot
    rw [torn.elsewhere.table] at slot
    have same := order.apart held id (left.slot slot)
    rw [same] at slot
    exact absurd ((cleared goes).symm.trans slot) (by simp)

/-- A device that is freed takes no reference with it. -/
theorem kfreeDev_orderly (orderly : kernel.Orderly machine terms (· = dev))
    (without : terms.refs → machine.build ≠ .makeRequest → kernel.heldOps dev = none)
    (outside : terms.live → kernel.Outside dev) :
    wp (kfreeDev dev) (fun _ after => after.InOrder machine terms) (fun _ _ => False) kernel := by
  have gone : ∀ other, Function.update kernel.devices dev none other =
      if other = dev then none else kernel.devices other := by
    intro other
    split
    · rename_i here
      rw [here, Function.update_self]
    · rename_i away
      rw [Function.update_of_ne away]
  have kept : ∀ other device, Function.update kernel.devices dev none other = some device →
      other ≠ dev ∧ kernel.devices other = some device := by
    intro other device found
    rw [gone] at found
    split at found
    · contradiction
    · rename_i away
      exact ⟨away, found⟩
  unfold kfreeDev
  rw [wp_update]
  constructor
  · exact orderly.range
  · exact orderly.slots
  · exact fun other device found => orderly.devices other device (kept other device found).2
  · intro minor other device held _
    obtain ⟨away, found⟩ := kept other device held.2
    exact orderly.settled minor other device ⟨held.1, found⟩ away
  · intro other device found _
    obtain ⟨away, found'⟩ := kept other device found
    exact orderly.paused other device found' away
  · exact orderly.unallocated
  · exact orderly.drivers
  · intro is modern
    apply (orderly.counted is modern).congr _ rfl (Nat.le_refl _)
    funext other
    unfold Kernel.heldOps
    by_cases here : other = dev
    · subst here
      exact (show (Function.update kernel.devices other none other).bind _ = none by simp).trans
        (without is modern).symm
    · exact congrArg (fun device => Option.bind device _) (Function.update_of_ne here _ _)
  · intro is minor other slot
    have away : other ≠ dev := fun same => outside is minor (same ▸ slot)
    exact (congrArg Option.isSome (Function.update_of_ne away _ _)).trans
      (orderly.live is minor other slot)

namespace Off

variable {trops : Option Address} {good : SnapDevice → Prop}

/-- The tracing of a device that is in no slot and does not trace is torn down. -/
theorem tracerDestroyTracing (here : Off machine terms before dev trops good kernel)
    (orig : ∀ device, good device → device.sdOrigRequestFn = none) :
    wp (tracerDestroyTracing machine dev)
      (fun _ => Off machine terms before dev trops fun after =>
        ∃ device, good device ∧ after = { device with sdMinor := 0 })
      (fun _ _ => False) kernel := by
  obtain ⟨device, found, refers, holds⟩ := here.device
  have known := here.orderly.devices dev device found
  unfold Driver.tracerDestroyTracing leaveTable vacateSlot
  rw [wp_bind, wp_getDev found, wp_bind, if_neg (by simp [orig device holds]), wp_bind, wp_read,
    wp_when, if_neg (by simp [here.outside device.sdMinor]), wp_bind, wp_setDev found,
    wp_minorRangeRecalculate]
  have left : Left machine dev 0 kernel (kernel.setDev dev { device with sdMinor := 0 }) :=
    .setDev found rfl
  constructor
  · exact here.mounted
  · exact here.faults
  · exact here.table
  · exact fun other away => (Function.update_of_ne away _ _).trans (here.others other away)
  · exact left.recalculated here.orderly (fun _ => id) known (by simp)
  · exact here.outside
  · exact ⟨_, Kernel.setDev_same _ _ _, refers, device, holds, rfl⟩

theorem tracerDestroy (here : Off machine terms before dev trops good kernel)
    (orig : ∀ device, good device → device.sdOrigRequestFn = none) :
    wp (tracerDestroy machine dev)
      (fun _ => Off machine terms before dev trops fun after =>
        ∃ device, good device ∧ TornDown { device with sdMinor := 0 } after)
      (fun _ _ => True) kernel := by
  unfold Driver.tracerDestroy
  rw [wp_bind]
  apply wp_mono (here.tracerDestroyTracing orig) _ fun _ _ never => never.elim
  intro _ middle there
  apply there.goesOn
  intro device' refers began
  obtain ⟨device, holds, same⟩ := began
  apply tearDown_concerns.mono _ fun _ _ _ => trivial
  intro _ after torn
  rw [same] at torn
  refine ⟨?_, device, holds, torn⟩
  obtain ⟨_, _, _, same'⟩ := torn
  rw [same']
  rw [same] at refers
  exact refers

/-- It is freed. -/
theorem kfreeDev (here : Off machine terms before dev trops good kernel)
    (without : terms.refs → machine.build ≠ .makeRequest → trops = none) :
    wp (kfreeDev dev) (fun _ after => after.InOrder machine terms) (fun _ _ => False) kernel := by
  obtain ⟨device, found, refers, _⟩ := here.device
  apply kfreeDev_orderly here.orderly _ fun _ => here.outside
  intro is modern
  simp [Kernel.heldOps, found, refers, without is modern]

end Off

end Moocbt.Driver
