import Moocbt.Data.Occupancy
import Moocbt.Driver.Table

/-! How a device enters and leaves the table: `__tracer_setup_tracing`, its unverified sibling
and `__tracer_destroy_tracing`. -/

namespace Moocbt.Driver

open Cow (Errno Stop)
open Program
open TraceTable (Hooks OrigMrf OrigOps Residue)

variable {machine : Machine} {kernel : Kernel} {dev : Address} {device : SnapDevice}
  {bdev minor : Nat} {done : Unit → Kernel → Prop} {stopped : Stop → Kernel → Prop}

theorem Residue.refl (machine : Machine) (table : TraceTable) : Residue machine table table :=
  ⟨rfl, fun _ => rfl, fun _ => id, fun _ _ => id,
    fun _ ops found => ⟨ops.refs, Nat.le_refl _, found⟩⟩

theorem Residue.trans {before middle after : TraceTable} (left : Residue machine before middle)
    (right : Residue machine middle after) : Residue machine before after where
  slots := right.slots.trans left.slots
  disks := fun build => (right.disks build).trans (left.disks build)
  queues := fun disk there => right.queues disk (left.queues disk there)
  copies := fun address ops found => right.copies address ops (left.copies address ops found)
  tracingOps := by
    intro address ops found
    obtain ⟨refs, more, kept⟩ := left.tracingOps address ops found
    obtain ⟨refs', more', kept'⟩ := right.tracingOps address _ kept
    exact ⟨refs', Nat.le_trans more more', kept'⟩

theorem Residue.setOps {table : TraceTable} {address : Address} {ops : TracingOps}
    (stored : table.tracingOps address = some ops) :
    Residue machine table (table.setOps address { ops with refs := ops.refs + 1 }) where
  slots := rfl
  disks := fun _ => rfl
  queues := fun _ => id
  copies := fun _ _ => id
  tracingOps := by
    intro other kept found
    by_cases here : other = address
    · subst here
      cases stored.symm.trans found
      exact ⟨ops.refs + 1, Nat.le_succ _, Function.update_self _ _ _⟩
    · exact ⟨kept.refs, Nat.le_refl _, (Function.update_of_ne here _ _).trans found⟩

/-- The machine after `tracer_alloc_ops` made a copy of these operations. -/
def Kernel.alloc (kernel : Kernel) (machine : Machine) (ops : BlockDeviceOperations) : Kernel :=
  { kernel with
    fresh := kernel.fresh + 2
    copies := Function.update kernel.copies (kernel.fresh + 1)
      (some (TraceTable.copied machine ops))
    tracingOps := Function.update kernel.tracingOps kernel.fresh (some ⟨kernel.fresh + 1, 1⟩) }

theorem Kernel.setDev_alloc (kernel : Kernel) (dev : Address) (device : SnapDevice)
    (ops : BlockDeviceOperations) :
    (kernel.setDev dev device).alloc machine ops = (kernel.alloc machine ops).setDev dev device :=
  rfl

theorem tracerAllocOps_spec (found : kernel.devices dev = some device)
    (based : device.sdBaseDev = some bdev) :
    wp (tracerAllocOps machine dev)
      (fun _ after => ∃ ops,
        kernel.opsAt machine (kernel.disk machine bdev).fops = some ops ∧
        after = (kernel.alloc machine ops).setDev dev
          { device with sdTracingOps := some kernel.fresh })
      (OnError fun after => after = kernel) kernel := by
  unfold tracerAllocOps kzalloc
  rw [wp_bind, wp_attempt]
  split
  · rw [wp_bind, wp_bind, wp_read, wp_bind, wp_update, wp_pure, wp_bind, wp_bind, wp_read, wp_bind,
      wp_update, wp_pure, wp_bind, wp_read, wp_bind, wp_getDev, wp_bind, wp_deref_some based,
      wp_bind, wp_deref]
    · split
      · exact OnError.oops _
      · rename_i ops stored
        rw [wp_bind, wp_update, wp_setDev]
        · exact ⟨ops, stored, rfl⟩
        · exact found
    · exact found
  · exact fun _ _ => rfl

/-- The copy was granted. -/
theorem tracerAllocOps_tries (kernel : Kernel) :
    wp (tracerAllocOps machine dev) (fun _ _ => kernel.faults .tracingOps = none)
      (fun _ _ => True) kernel := by
  unfold tracerAllocOps
  rw [wp_bind, wp_attempt]
  cases kernel.faults .tracingOps with
  | none => exact wp_mono (wp_true _ _) (fun _ _ _ => rfl) fun _ _ => id
  | some error => trivial

theorem Kernel.Unallocated.alloc (unallocated : kernel.Unallocated)
    (ops : BlockDeviceOperations) : (kernel.alloc machine ops).Unallocated := by
  intro address above
  have copy : kernel.fresh + 1 < address := Nat.lt_of_lt_of_le (Nat.lt_succ_self _) above
  have holder : kernel.fresh < address := Nat.lt_of_succ_lt copy
  obtain ⟨copies, trops⟩ := unallocated address (Nat.le_of_lt holder)
  exact ⟨(Function.update_of_ne (Nat.ne_of_gt copy) _ _).trans copies,
    (Function.update_of_ne (Nat.ne_of_gt holder) _ _).trans trops⟩

theorem Kernel.Unallocated.setOps {address : Address} {ops kept : TracingOps}
    (unallocated : kernel.Unallocated) (stored : kernel.tracingOps address = some kept) :
    (kernel.setOps address ops).Unallocated := by
  intro other above
  refine ⟨(unallocated other above).1, ?_⟩
  have away : other ≠ address := by
    intro same
    rw [← same, (unallocated other above).2] at stored
    contradiction
  exact (Function.update_of_ne away _ _).trans (unallocated other above).2

/-- The table after a device of its own hooked the disk. -/
structure Hooked (machine : Machine) (dev : Address) (device : SnapDevice) (bdev minor : Nat)
    (before after : Kernel) : Prop where
  aside : Aside dev before after
  table : after.snapDevices = Function.update before.snapDevices minor (some dev)
  lowest : after.lowestMinor = before.lowestMinor
  highest : after.highestMinor = before.highestMinor
  unallocated : after.Unallocated
  hooks : ∃ bdOps orig trops hooked device',
    device' = { device.traces bdOps orig trops with sdActive := device.sdActive + 1 } ∧
    Hooks machine before.tracing bdev device' hooked ∧
    after.devices dev = some device' ∧ after.tracing = hooked.setSlot minor (some device')

/-- What a device that could not hook the disk has done to the references to the copies that
were there: where it found one to share it took a reference, and then the freeze failed. -/
inductive References (machine : Machine) (bdev : Nat) (before after : Kernel) : Prop
  | kept :
      (∀ address ops, before.tracingOps address = some ops → after.tracingOps address = some ops) →
      (machine.build = .makeRequest ∨ (∀ bdOps orig trops,
        OrigOps machine before.tracing bdev bdOps orig trops → False) ∨
        ∃ bdOps orig, OrigOps machine before.tracing bdev bdOps orig none) →
      References machine bdev before after
  | taken {address : Address} {ops : TracingOps} {bdOps : Option OpsPtr} {orig : Option RequestFn} :
      machine.build ≠ .makeRequest →
      OrigOps machine before.tracing bdev bdOps orig (some address) →
      before.tracingOps address = some ops →
      after.tracingOps address = some { ops with refs := ops.refs + 1 } →
      before.mounted bdev = .unmounted ∨ machine.freezing before.faults ≠ none →
      References machine bdev before after

theorem References.of_same {before before' after after' : Kernel}
    (references : References machine bdev before after) (tracing : before'.tracing = before.tracing)
    (ops : after'.tracingOps = after.tracingOps) (mounted : before'.mounted = before.mounted)
    (faults : before'.faults = before.faults) : References machine bdev before' after' := by
  have stored : before'.tracingOps = before.tracingOps := congrArg TraceTable.tracingOps tracing
  cases references with
  | kept same why =>
      apply References.kept
      · rw [stored, ops]
        exact same
      · rw [tracing]
        exact why
  | taken modern took found left why =>
      rw [← tracing] at took
      rw [← stored] at found
      rw [← ops] at left
      rw [← mounted, ← faults] at why
      exact .taken modern took found left why

/-- The device is about to hook the disk. -/
structure Preparing (machine : Machine) (dev : Address) (device : SnapDevice) (bdev : Nat)
    (before after : Kernel) : Prop where
  aside : Aside dev before after
  table : after.snapDevices = before.snapDevices
  lowest : after.lowestMinor = before.lowestMinor
  highest : after.highestMinor = before.highestMinor
  unallocated : after.Unallocated
  device : ∃ bdOps orig trops, after.devices dev = some (device.traces bdOps orig trops)
  residue : Residue machine before.tracing after.tracing
  disks : after.disks = before.disks

/-- What is left when it could not. -/
structure Unhooked (machine : Machine) (dev : Address) (device : SnapDevice) (bdev : Nat)
    (before after : Kernel) : Prop extends Preparing machine dev device bdev before after where
  references : References machine bdev before after
  legacy : machine.build = .makeRequest → after.tracing = before.tracing ∧
    (before.mounted bdev = .unmounted ∨ machine.freezing before.faults ≠ none ∨
      ∀ orig, ¬ OrigMrf machine before.tracing bdev orig)

section inject

theorem tracing_setDev_outside (outside : kernel.Outside dev) (device : SnapDevice) :
    (kernel.setDev dev device).tracing = kernel.tracing := by
  have others : ∀ other, other ≠ dev →
      (kernel.setDev dev device).devices other = kernel.devices other :=
    fun other away => Function.update_of_ne away _ _
  have slots := tracing_outside outside others rfl
  change { kernel.tracing with slots := (kernel.setDev dev device).tracing.slots } = kernel.tracing
  rw [slots]

theorem injectTracing_legacy (legacy : machine.build = .makeRequest) (range : kernel.InRange)
    (unallocated : kernel.Unallocated) (outside : kernel.Outside dev)
    (found : kernel.devices dev = some device) (based : device.sdBaseDev = some bdev) :
    wp (injectTracing machine dev minor)
      (fun _ => Hooked machine dev device bdev minor kernel)
      (OnError (Unhooked machine dev device bdev kernel)) kernel := by
  have unhooked : ∀ orig, (kernel.mounted bdev = .unmounted ∨
        machine.freezing kernel.faults ≠ none ∨
        ∀ orig, ¬ OrigMrf machine kernel.tracing bdev orig) →
      Unhooked machine dev device bdev kernel
        (kernel.setDev dev { device with sdOrigRequestFn := orig }) := by
    intro orig why
    have others : ∀ other, other ≠ dev →
        (kernel.setDev dev { device with sdOrigRequestFn := orig }).devices other =
          kernel.devices other := fun other away => Function.update_of_ne away _ _
    have slots := tracing_outside outside others rfl
    exact {
      aside := ⟨rfl, rfl, rfl, rfl, rfl, rfl, rfl, Nat.le_refl _, others⟩
      table := rfl
      lowest := rfl
      highest := rfl
      unallocated := unallocated
      device := ⟨device.bdOps, orig, device.sdTracingOps, Kernel.setDev_same _ _ _⟩
      residue := { Residue.refl machine kernel.tracing with slots := slots }
      disks := rfl
      references := .kept (fun _ _ => id) (.inl legacy)
      legacy := fun _ => ⟨tracing_setDev_outside outside _, why⟩ }
  unfold injectTracing
  rw [wp_bind, wp_getDev found, wp_bind, wp_deref_some based, if_pos legacy, wp_bind]
  apply wp_mono (moocbtFindOrigMrf_spec range found based)
  · rintro _ _ ⟨orig, took, rfl⟩
    apply start_spec (Kernel.setDev_same _ _ _)
    · intro _ _
      have others : ∀ other, other ≠ dev →
          ((kernel.setDev dev { device with sdOrigRequestFn := orig }).started machine dev
            { device with sdOrigRequestFn := orig } bdev (some .tracingFn) none minor).devices other =
          kernel.devices other := by
        intro other away
        exact (Function.update_of_ne away _ _).trans (Function.update_of_ne away _ _)
      have held := Function.update_self dev
        (some { device.traces device.bdOps orig device.sdTracingOps with
          sdActive := device.sdActive + 1 })
        (kernel.setDev dev { device with sdOrigRequestFn := orig }).devices
      exact {
        aside := ⟨rfl, rfl, rfl, rfl, rfl, rfl, rfl, Nat.le_refl _, others⟩
        table := rfl
        lowest := rfl
        highest := rfl
        unallocated := unallocated
        hooks := by
          refine ⟨device.bdOps, orig, device.sdTracingOps, _, _, rfl, .legacy legacy took, held, ?_⟩
          have slots := tracing_slots minor others held rfl
            fun other _ => outside other
          unfold TraceTable.setSlot TraceTable.setDisk
          rw [← slots]
          rfl }
    · intro error why _ _
      exact unhooked orig (why.imp_right .inl)
  · intro reason after failed error same
    obtain ⟨⟨orig, rfl⟩, none⟩ := failed error same
    exact unhooked orig (.inr (.inr none))

/-- The device has operations to hook the disk with: a copy it shares, or one of its own. -/
inductive Acquired (machine : Machine) (kernel : Kernel) (dev : Address) (device : SnapDevice)
    (bdev : Nat) : Address → Kernel → Prop
  | shared {bdOps : Option OpsPtr} {orig : Option RequestFn} {address : Address}
      {ops : TracingOps} :
      OrigOps machine kernel.tracing bdev bdOps orig (some address) →
      kernel.tracingOps address = some ops →
      Acquired machine kernel dev device bdev ops.bdOps
        ((kernel.setOps address { ops with refs := ops.refs + 1 }).setDev dev
          (device.traces bdOps orig (some address)))
  | alone {bdOps : Option OpsPtr} {orig : Option RequestFn} {ops : BlockDeviceOperations} :
      kernel.faults .tracingOps = none →
      OrigOps machine kernel.tracing bdev bdOps orig none →
      kernel.opsAt machine (kernel.disk machine bdev).fops = some ops →
      Acquired machine kernel dev device bdev (kernel.fresh + 1)
        ((kernel.alloc machine ops).setDev dev (device.traces bdOps orig (some kernel.fresh)))

theorem Acquired.found {copy : Address} {middle : Kernel}
    (acquired : Acquired machine kernel dev device bdev copy middle) :
    ∃ bdOps orig address, middle.devices dev = some (device.traces bdOps orig (some address)) := by
  cases acquired with
  | shared => exact ⟨_, _, _, Kernel.setDev_same _ _ _⟩
  | alone => exact ⟨_, _, _, Kernel.setDev_same _ _ _⟩

/-- What becomes of a device that hooks the disk with operations: it starts to trace, or the
freeze keeps it from it, or it got none. -/
theorem injectTracing_acquires (modern : machine.build ≠ .makeRequest) (range : kernel.InRange)
    (outside : kernel.Outside dev) (found : kernel.devices dev = some device)
    (based : device.sdBaseDev = some bdev) (without : device.sdTracingOps = none) :
    wp (injectTracing machine dev minor)
      (fun _ after => ∃ copy middle device', Acquired machine kernel dev device bdev copy middle ∧
        middle.devices dev = some device' ∧
        after = middle.started machine dev device' bdev none (some (.copy copy)) minor)
      (OnError fun after =>
        (∃ copy, Acquired machine kernel dev device bdev copy after ∧
          (kernel.mounted bdev = .unmounted ∨ machine.freezing kernel.faults ≠ none)) ∨
        ∃ bdOps orig, after = kernel.setDev dev (device.traces bdOps orig none) ∧
          ((∃ bdOps orig, OrigOps machine kernel.tracing bdev bdOps orig none) ∨
            ∀ bdOps orig trops, ¬ OrigOps machine kernel.tracing bdev bdOps orig trops)) kernel := by
  unfold injectTracing
  rw [wp_bind, wp_getDev found, wp_bind, wp_deref_some based, if_neg modern,
    if_pos (by simp [without]), wp_bind]
  apply wp_mono (findOrigBdops_spec range outside found based)
  · intro _ after took
    cases took with
    | @without bdOps orig took =>
        have based' : (device.traces bdOps orig none).sdBaseDev = some bdev := based
        rw [wp_bind, wp_getDev (Kernel.setDev_same _ _ _), wp_bind, wp_when,
          if_pos (by simp [SnapDevice.traces])]
        apply wp_mono (wp_and (tracerAllocOps_spec (Kernel.setDev_same _ _ _) based')
          (tracerAllocOps_tries _))
        · intro _ after allocated
          obtain ⟨⟨ops, stored, same⟩, granted⟩ := allocated
          subst same
          have held : (device.traces bdOps orig (some kernel.fresh)).sdTracingOps =
              some kernel.fresh := rfl
          rw [Kernel.setDev_alloc, Kernel.setDev_setDev]
          change wp _ _ _ ((kernel.alloc machine ops).setDev dev
            (device.traces bdOps orig (some kernel.fresh)))
          rw [wp_bind, wp_read, wp_bind, wp_getDev (Kernel.setDev_same _ _ _), wp_bind,
            wp_deref_some held, wp_bind]
          have made : (kernel.alloc machine ops).tracingOps kernel.fresh =
              some ⟨kernel.fresh + 1, 1⟩ := Function.update_self _ _ _
          have acquired : Acquired machine kernel dev device bdev (kernel.fresh + 1)
              ((kernel.alloc machine ops).setDev dev
                (device.traces bdOps orig (some kernel.fresh))) := .alone granted took stored
          apply (wp_deref_some made).mpr
          apply start_spec (Kernel.setDev_same _ _ _)
          · exact fun _ _ => ⟨_, _, _, acquired, Kernel.setDev_same _ _ _, rfl⟩
          · exact fun _ why _ _ => .inl ⟨_, acquired, why⟩
        · intro reason after failed error same
          rw [failed.1 error same]
          exact .inr ⟨bdOps, orig, rfl, .inl ⟨bdOps, orig, took⟩⟩
    | @sharing bdOps orig address ops took stored =>
        have held : (device.traces bdOps orig (some address)).sdTracingOps = some address := rfl
        rw [wp_bind, wp_getDev (Kernel.setDev_same _ _ _), wp_bind, wp_when,
          if_neg (by simp [SnapDevice.traces]),
          wp_bind, wp_read, wp_bind, wp_getDev (Kernel.setDev_same _ _ _), wp_bind,
          wp_deref_some held, wp_bind]
        have shared : (kernel.setOps address { ops with refs := ops.refs + 1 }).tracingOps address =
            some { ops with refs := ops.refs + 1 } := Function.update_self _ _ _
        have acquired : Acquired machine kernel dev device bdev ops.bdOps
            ((kernel.setOps address { ops with refs := ops.refs + 1 }).setDev dev
              (device.traces bdOps orig (some address))) := .shared took stored
        apply (wp_deref_some shared).mpr
        apply start_spec (Kernel.setDev_same _ _ _)
        · exact fun _ _ => ⟨_, _, _, acquired, Kernel.setDev_same _ _ _, rfl⟩
        · exact fun _ why _ _ => .inl ⟨_, acquired, why⟩
  · intro reason after failed error same
    obtain ⟨left, nobody⟩ := failed error same
    exact .inr ⟨none, none, left, .inr nobody⟩

/-- The machine changed only at the device and the copies of operations. -/
theorem Preparing.of_copies {middle : Kernel} {bdOps : Option OpsPtr} {orig : Option RequestFn}
    {trops : Option Address} (outside : kernel.Outside dev)
    (residue : Residue machine kernel.tracing { middle.tracing with slots := kernel.tracing.slots })
    (unallocated : middle.Unallocated) (fresh : kernel.fresh ≤ middle.fresh)
    (same : { middle with
      copies := kernel.copies, tracingOps := kernel.tracingOps, fresh := kernel.fresh } = kernel) :
    Preparing machine dev device bdev kernel
      (middle.setDev dev (device.traces bdOps orig trops)) := by
  have others : ∀ other, other ≠ dev →
      (middle.setDev dev (device.traces bdOps orig trops)).devices other =
        kernel.devices other := by
    intro other away
    rw [← same]
    exact Function.update_of_ne away _ _
  have table : middle.snapDevices = kernel.snapDevices := by rw [← same]
  constructor
  · constructor
    case fresh => exact fresh
    case devices => exact others
    all_goals
      rw [← same]
      rfl
  · exact table
  · rw [← same]
    rfl
  · rw [← same]
    rfl
  · exact unallocated
  · exact ⟨_, _, _, Kernel.setDev_same _ _ _⟩
  · exact { residue with slots := tracing_outside outside others table }
  · rw [← same]
    rfl

/-- What was stored stays when a copy is allocated. -/
theorem Kernel.Unallocated.kept (unallocated : kernel.Unallocated) (machine : Machine)
    (ops : BlockDeviceOperations) {address : Address} {stored : TracingOps}
    (found : kernel.tracingOps address = some stored) :
    (kernel.alloc machine ops).tracingOps address = some stored := by
  have away : address ≠ kernel.fresh := by
    intro same
    rw [same, (unallocated kernel.fresh (Nat.le_refl _)).2] at found
    contradiction
  exact (Function.update_of_ne away _ _).trans found

theorem Acquired.preparing {copy : Address} {middle : Kernel} (outside : kernel.Outside dev)
    (unallocated : kernel.Unallocated)
    (acquired : Acquired machine kernel dev device bdev copy middle) :
    Preparing machine dev device bdev kernel middle := by
  cases acquired with
  | shared took stored =>
      exact .of_copies outside (Residue.setOps stored) (unallocated.setOps stored)
        (Nat.le_refl _) rfl
  | @alone bdOps orig ops granted took stored =>
      have free := unallocated (kernel.fresh + 1) (Nat.le_succ _)
      apply Preparing.of_copies outside _ (unallocated.alloc ops) (Nat.le_add_right _ _) rfl
      constructor
      · rfl
      · exact fun _ => rfl
      · exact fun _ => id
      · intro address kept found
        have away : address ≠ kernel.fresh + 1 := by
          intro same
          rw [same] at found
          exact absurd (free.1.symm.trans found) (by simp)
        exact (Function.update_of_ne away _ _).trans found
      · exact fun address found stored => ⟨_, Nat.le_refl _, unallocated.kept machine ops stored⟩

theorem Acquired.references {copy : Address} {middle : Kernel}
    (modern : machine.build ≠ .makeRequest) (unallocated : kernel.Unallocated)
    (acquired : Acquired machine kernel dev device bdev copy middle)
    (why : kernel.mounted bdev = .unmounted ∨ machine.freezing kernel.faults ≠ none) :
    References machine bdev kernel middle := by
  cases acquired with
  | shared took stored => exact .taken modern took stored (Function.update_self _ _ _) why
  | @alone bdOps orig ops granted took stored =>
      exact .kept (fun _ _ => unallocated.kept machine ops) (.inr (.inr ⟨bdOps, orig, took⟩))

theorem TraceTable.eq_of_slots {table : TraceTable} {slots : Nat → Option SnapDevice}
    (same : table.slots = slots) : table = { table with slots } := by
  subst same
  rfl

/-- The device starts to trace. -/
theorem Acquired.hooked {copy : Address} {middle : Kernel} {device' : SnapDevice}
    (outside : kernel.Outside dev) (modern : machine.build ≠ .makeRequest)
    (unallocated : kernel.Unallocated)
    (acquired : Acquired machine kernel dev device bdev copy middle)
    (found : middle.devices dev = some device') :
    Hooked machine dev device bdev minor kernel
      (middle.started machine dev device' bdev none (some (.copy copy)) minor) := by
  have prepared := acquired.preparing outside unallocated
  have others : ∀ other, other ≠ dev →
      (middle.started machine dev device' bdev none (some (.copy copy)) minor).devices other =
        kernel.devices other := by
    intro other away
    exact (Function.update_of_ne away _ _).trans (prepared.aside.devices other away)
  have table : (middle.started machine dev device' bdev none (some (.copy copy)) minor).snapDevices =
      Function.update kernel.snapDevices minor (some dev) := by
    rw [← prepared.table]
    rfl
  have held := Function.update_self dev
    (some { device' with sdActive := device'.sdActive + 1 }) middle.devices
  have slots := tracing_slots minor others held table fun other _ => outside other
  exact {
    aside :=
      { prepared.aside with
        devices := others }
    table := table
    lowest := prepared.lowest
    highest := prepared.highest
    unallocated := prepared.unallocated
    hooks := by
      cases acquired with
      | @shared bdOps orig address ops took stored =>
          cases (Kernel.setDev_same _ _ _).symm.trans found
          refine ⟨bdOps, orig, some address, _, _, rfl, .shared modern took rfl stored, held, ?_⟩
          exact TraceTable.eq_of_slots slots
      | @alone bdOps orig ops granted took stored =>
          cases (Kernel.setDev_same _ _ _).symm.trans found
          have free := unallocated (kernel.fresh + 1) (Nat.le_succ _)
          have free' := unallocated kernel.fresh (Nat.le_refl _)
          refine ⟨bdOps, orig, some kernel.fresh, _, _, rfl,
            .alone modern took stored free.1 free'.2 rfl, held, ?_⟩
          exact TraceTable.eq_of_slots slots }

theorem injectTracing_ops (modern : machine.build ≠ .makeRequest) (range : kernel.InRange)
    (unallocated : kernel.Unallocated) (outside : kernel.Outside dev)
    (found : kernel.devices dev = some device) (based : device.sdBaseDev = some bdev)
    (without : device.sdTracingOps = none) :
    wp (injectTracing machine dev minor)
      (fun _ => Hooked machine dev device bdev minor kernel)
      (OnError (Unhooked machine dev device bdev kernel)) kernel := by
  apply wp_mono (injectTracing_acquires modern range outside found based without)
  · intro _ after acquires
    obtain ⟨copy, middle, device', acquired, found', same⟩ := acquires
    subst same
    exact acquired.hooked outside modern unallocated found'
  · intro reason after failed error same
    rcases failed error same with ⟨copy, acquired, why⟩ | ⟨bdOps, orig, left, why⟩
    · exact ⟨acquired.preparing outside unallocated, acquired.references modern unallocated why,
        fun legacy => absurd legacy modern⟩
    · subst left
      refine ⟨.of_copies outside (Residue.refl machine kernel.tracing) unallocated (Nat.le_refl _)
        rfl, .kept (fun _ _ => id) (.inr ?_), fun legacy => absurd legacy modern⟩
      rcases why with took | nobody
      · exact .inr took
      · exact .inl nobody

theorem injectTracing_spec (minor : Nat) (range : kernel.InRange) (unallocated : kernel.Unallocated)
    (outside : kernel.Outside dev) (found : kernel.devices dev = some device)
    (based : device.sdBaseDev = some bdev)
    (without : machine.build ≠ .makeRequest → device.sdTracingOps = none) :
    wp (injectTracing machine dev minor)
      (fun _ => Hooked machine dev device bdev minor kernel)
      (OnError (Unhooked machine dev device bdev kernel))
      kernel := by
  by_cases legacy : machine.build = .makeRequest
  · exact injectTracing_legacy legacy range unallocated outside found based
  · exact injectTracing_ops legacy range unallocated outside found based (without legacy)

end inject

section range

/-- The range after it was computed anew. -/
def Kernel.recalculated (kernel : Kernel) (machine : Machine) : Kernel :=
  { kernel with
    lowestMinor := min ((kernel.used machine.maxSnapDevices).headD (machine.maxSnapDevices - 1))
      (machine.maxSnapDevices - 1)
    highestMinor := (kernel.used machine.maxSnapDevices).getLastD 0 }

@[simp] theorem wp_minorRangeRecalculate :
    wp (minorRangeRecalculate machine) done stopped kernel ↔
      done () (kernel.recalculated machine) := Iff.rfl

theorem Kernel.recalculated_inRange
    (bounded : ∀ minor dev, kernel.snapDevices minor = some dev → minor < machine.maxSnapDevices) :
    (kernel.recalculated machine).InRange := by
  intro minor dev held
  have bound := bounded minor dev held
  have sorted : (kernel.used machine.maxSnapDevices).Pairwise (· < ·) :=
    List.Pairwise.filter _ List.pairwise_lt_range
  have member : minor ∈ kernel.used machine.maxSnapDevices := by
    unfold Kernel.used
    rw [List.mem_filter, List.mem_range]
    refine ⟨bound, ?_⟩
    rw [show kernel.snapDevices minor = some dev from held]
    rfl
  constructor
  · exact Nat.le_trans (Nat.min_le_left _ _) (Occupancy.headD_le sorted member)
  · exact Occupancy.le_getLastD sorted member

theorem Kernel.recalculated_of_table {before : Kernel}
    (table : kernel.snapDevices = before.snapDevices) :
    (kernel.recalculated machine).lowestMinor = (before.recalculated machine).lowestMinor ∧
      (kernel.recalculated machine).highestMinor = (before.recalculated machine).highestMinor := by
  unfold Kernel.recalculated Kernel.used
  rw [table]
  exact ⟨rfl, rfl⟩

/-- The range with one more minor. -/
def Kernel.included (kernel : Kernel) (minor : Nat) : Kernel :=
  { kernel with
    lowestMinor := min minor kernel.lowestMinor
    highestMinor := max minor kernel.highestMinor }

@[simp] theorem wp_minorRangeInclude :
    wp (minorRangeInclude minor) done stopped kernel ↔ done () (kernel.included minor) := Iff.rfl

theorem Kernel.included_inRange (range : kernel.InRange) : (kernel.included minor).InRange := by
  intro other dev held
  obtain ⟨low, high⟩ := range other dev held
  constructor
  · exact Nat.le_trans (Nat.min_le_right _ _) low
  · exact Nat.le_trans high (Nat.le_max_right _ _)

end range

section wired

/-- A device takes a slot. -/
theorem Kernel.Wired.entered {before after : Kernel} (wired : before.Wired machine)
    (outside : before.Outside dev) (bound : minor < machine.maxSnapDevices)
    (allocated : dev < before.fresh)
    (others : ∀ other, other ≠ dev → after.devices other = before.devices other)
    (found : after.devices dev = some device)
    (table : after.snapDevices = Function.update before.snapDevices minor (some dev))
    (fresh : before.fresh ≤ after.fresh) (range : after.InRange) (unallocated : after.Unallocated) :
    after.Wired machine := by
  have slot : ∀ other kept, after.snapDevices other = some kept →
      (other = minor ∧ kept = dev) ∨ (other ≠ minor ∧ before.snapDevices other = some kept) := by
    intro other kept held
    rw [table] at held
    by_cases here : other = minor
    · rw [here, Function.update_self] at held
      exact .inl ⟨here, (Option.some.inj held).symm⟩
    · rw [Function.update_of_ne here] at held
      exact .inr ⟨here, held⟩
  constructor
  · intro other kept held
    rcases slot other kept held with ⟨_, rfl⟩ | ⟨_, held'⟩
    · simp [found]
    · rw [others kept fun same => outside other (same ▸ held')]
      exact wired.live other kept held'
  · intro first second kept held held'
    rcases slot first kept held with ⟨rfl, rfl⟩ | ⟨_, left⟩
    · rcases slot second kept held' with ⟨rfl, _⟩ | ⟨_, right⟩
      · rfl
      · exact absurd right (outside second)
    · rcases slot second kept held' with ⟨rfl, rfl⟩ | ⟨_, right⟩
      · exact absurd left (outside first)
      · exact wired.apart first second kept left right
  · intro other kept held
    rcases slot other kept held with ⟨_, rfl⟩ | ⟨_, held'⟩
    · exact Nat.lt_of_lt_of_le allocated fresh
    · exact Nat.lt_of_lt_of_le (wired.allocated other kept held') fresh
  · intro other kept held
    rcases slot other kept held with ⟨rfl, _⟩ | ⟨_, held'⟩
    · exact bound
    · exact wired.bounded other kept held'
  · exact range
  · exact unallocated

/-- A device that is in no slot, or leaves its slot, changes. -/
theorem Kernel.Wired.left {before after : Kernel} (wired : before.Wired machine)
    (others : ∀ other, other ≠ dev → after.devices other = before.devices other)
    (table : ∀ minor kept, after.snapDevices minor = some kept →
      before.snapDevices minor = some kept ∧ kept ≠ dev)
    (fresh : before.fresh ≤ after.fresh) (range : after.InRange) (unallocated : after.Unallocated) :
    after.Wired machine where
  live := by
    intro minor kept held
    obtain ⟨held', away⟩ := table minor kept held
    rw [others kept away]
    exact wired.live minor kept held'
  apart := fun minor other kept held held' =>
    wired.apart minor other kept (table minor kept held).1 (table other kept held').1
  allocated := fun minor kept held =>
    Nat.lt_of_lt_of_le (wired.allocated minor kept (table minor kept held).1) fresh
  bounded := fun minor kept held => wired.bounded minor kept (table minor kept held).1
  range := range
  unallocated := unallocated

theorem Kernel.Outside.unchanged {before after : Kernel} (outside : before.Outside dev)
    (table : after.snapDevices = before.snapDevices) : after.Outside dev := by
  unfold Kernel.Outside
  rw [table]
  exact outside

end wired

/-- The device entered the table. -/
structure Entered (machine : Machine) (dev : Address) (device : SnapDevice) (bdev minor : Nat)
    (before after : Kernel) : Prop where
  aside : Aside dev before after
  table : after.snapDevices = Function.update before.snapDevices minor (some dev)
  wired : after.Wired machine
  hooks : ∃ bdOps orig trops hooked device',
    device' = { device.traces bdOps orig trops with
      sdMinor := minor, sdActive := device.sdActive + 1 } ∧
    Hooks machine before.tracing bdev device' hooked ∧
    after.devices dev = some device' ∧ after.tracing = hooked.setSlot minor (some device')

/-- It did not. -/
structure Refused (machine : Machine) (dev : Address) (device : SnapDevice) (bdev : Nat)
    (before after : Kernel) : Prop where
  aside : Aside dev before after
  table : after.snapDevices = before.snapDevices
  wired : after.Wired machine
  lowest : after.lowestMinor = (before.recalculated machine).lowestMinor
  highest : after.highestMinor = (before.recalculated machine).highestMinor
  device : ∃ bdOps trops, after.devices dev =
    some { device.traces bdOps none trops with sdMinor := 0 }
  references : References machine bdev before after
  residue : Residue machine before.tracing after.tracing
  legacy : machine.build = .makeRequest → after.tracing = before.tracing ∧
    (before.mounted bdev = .unmounted ∨ machine.freezing before.faults ≠ none ∨
      ∀ orig, ¬ OrigMrf machine before.tracing bdev orig)

theorem tracerSetupTracing_spec (wired : kernel.Wired machine) (outside : kernel.Outside dev)
    (bound : minor < machine.maxSnapDevices) (allocated : dev < kernel.fresh)
    (found : kernel.devices dev = some device) (based : device.sdBaseDev = some bdev)
    (without : machine.build ≠ .makeRequest → device.sdTracingOps = none) :
    wp (tracerSetupTracing machine dev minor)
      (fun _ => Entered machine dev device bdev minor kernel)
      (OnError (Refused machine dev device bdev kernel))
      kernel := by
  let begun := (kernel.setDev dev { device with sdMinor := minor }).included minor
  have outside' : begun.Outside dev := outside
  have begins : Aside dev kernel begun :=
    { Aside.refl dev kernel with devices := fun other away => Function.update_of_ne away _ _ }
  have tracing : begun.tracing = kernel.tracing := tracing_setDev_outside outside _
  have range : begun.InRange := Kernel.included_inRange wired.range
  unfold tracerSetupTracing
  rw [wp_bind, wp_setDev found, wp_bind, wp_minorRangeInclude, wp_unwinding]
  apply wp_mono (injectTracing_spec minor range wired.unallocated outside'
    (Kernel.setDev_same _ _ _) based without)
  · intro _ after hooked
    obtain ⟨bdOps, orig, trops, table, device', same, hooks, held, shown⟩ := hooked.hooks
    have aside := begins.trans hooked.aside
    constructor
    · exact aside
    · exact hooked.table
    · apply wired.entered outside bound allocated aside.devices held hooked.table aside.fresh
      · intro other kept slot
        unfold Kernel.InRange at *
        rw [hooked.table] at slot
        rw [hooked.lowest, hooked.highest]
        by_cases here : other = minor
        · subst here
          exact ⟨Nat.min_le_left _ _, Nat.le_max_left _ _⟩
        · exact range other kept ((Function.update_of_ne here _ _).symm.trans slot)
      · exact hooked.unallocated
    · rw [tracing] at hooks
      exact ⟨bdOps, orig, trops, table, device', same, hooks, held, shown⟩
  · intro reason after failed
    cases reason with
    | oops => exact OnError.oops _
    | crash => exact OnError.crash _
    | errno error =>
        have unhooked := failed error rfl
        obtain ⟨bdOps, orig, trops, held⟩ := unhooked.device
        dsimp only
        rw [wp_bind, wp_setDev held, wp_minorRangeRecalculate]
        intro _ _
        have aside := begins.trans unhooked.aside
        have outside'' := outside.unchanged unhooked.table
        let ended := (after.setDev dev
          { device.traces bdOps none trops with sdMinor := 0 }).recalculated machine
        have ends : Aside dev kernel ended := aside.trans
          { Aside.refl dev after with devices := fun other away => Function.update_of_ne away _ _ }
        have shown : ended.tracing = after.tracing := tracing_setDev_outside outside'' _
        have least := @Kernel.recalculated_of_table machine _ kernel
          (show (after.setDev dev { device.traces bdOps none trops with sdMinor := 0 }).snapDevices =
            kernel.snapDevices from unhooked.table)
        constructor
        · exact ends
        · exact unhooked.table
        · apply wired.left ends.devices
          · intro other kept slot
            have slot' : kernel.snapDevices other = some kept :=
              (congrFun unhooked.table other).symm.trans slot
            exact ⟨slot', fun same => outside other (same ▸ slot')⟩
          · exact ends.fresh
          · apply Kernel.recalculated_inRange
            intro other kept slot
            exact wired.bounded other kept ((congrFun unhooked.table other).symm.trans slot)
          · exact unhooked.unallocated
        · exact least.1
        · exact least.2
        · exact ⟨bdOps, trops, Kernel.setDev_same _ _ _⟩
        · exact unhooked.references.of_same tracing.symm rfl rfl rfl
        · have residue := unhooked.residue
          rw [tracing, ← shown] at residue
          exact residue
        · intro legacy
          have why := unhooked.legacy legacy
          rw [tracing, ← shown] at why
          exact why

end Moocbt.Driver
