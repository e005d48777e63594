import Moocbt.Driver.Counting
import Moocbt.Driver.Operating

/-! What holds of the table of devices and of the disks in every state of a run: who traces, and that
a disk nobody traces has what its driver gave it. -/

namespace Moocbt.Driver

open Program
open TraceTable (Alike Formed Hooks Operation OrigMrf Shared)

variable {machine : Machine} {files : CowPath → Option Cow.CowFile} {kernel after : Kernel}
  {minor bdev : Nat} {device : SnapDevice} {ok : Kernel → Call → Prop}

section runs

/-- What an event leaves: what operations make of the table, or the machine as it starts. -/
theorem Kernel.step_operates {call : Call} {terms : Terms} (order : kernel.InOrder machine terms)
    (wired : kernel.Wired machine) (formed : kernel.tracing.Formed machine)
    (releases : call.Releases machine kernel)
    (taken : Kernel.step machine kernel call = some after) :
    (after.Wired machine ∧
      TraceTable.Operations machine (call.Leaks machine) kernel.tracing after.tracing) ∨
    ∃ files, after = machine.boot files := by
  cases Option.some.inj taken
  apply @Kernel.settle_holds _ machine fun after =>
    (after.Wired machine ∧
      TraceTable.Operations machine (call.Leaks machine) kernel.tracing after.tracing) ∨
    ∃ files, after = machine.boot files
  · exact fun files => .inr ⟨files, rfl⟩
  · apply wp_mono (Event.program_goes order wired formed releases)
    · exact fun _ _ through => .inl ⟨through.wired, through.operations⟩
    · exact fun _ _ failed => failed.mono fun _ through => .inl ⟨through.wired, through.operations⟩

/-- What the table has when the machine starts, and keeps by each operation, it has in every state
of a run. -/
theorem Operating.reached {inv : TraceTable → Prop}
    (releases : ∀ kernel call, ok kernel call → call.Releases machine kernel)
    (boot : ∀ files, inv (machine.boot files).tracing)
    (kept : ∀ {kernel call table table'}, ok kernel call → table.Formed machine →
      Operation machine (call.Leaks machine) table table' → inv table → inv table')
    (reached : Transition.Reaches (Kernel.step machine) ok (machine.boot files) kernel) :
    kernel.Wired machine ∧ kernel.tracing.Formed machine ∧ inv kernel.tracing := by
  let terms : Terms := ⟨False, False⟩
  have holds : kernel.InOrder machine terms ∧ kernel.Wired machine ∧
      kernel.tracing.Formed machine ∧ inv kernel.tracing := by
    apply Transition.Reaches.invariant _ _ reached
    · exact ⟨.boot machine files, .boot machine files, .boot machine files, boot files⟩
    · intro before call after holds allowed taken
      obtain ⟨order, wired, formed, has⟩ := holds
      refine ⟨Kernel.Orderly.step order False.elim False.elim taken, ?_⟩
      rcases Kernel.step_operates order wired formed (releases _ _ allowed) taken with moved | booted
      · obtain ⟨wired', operations⟩ := moved
        exact ⟨wired', formed.invariant has (kept allowed) operations⟩
      · obtain ⟨files', same⟩ := booted
        rw [same]
        exact ⟨.boot machine files', .boot machine files', boot files'⟩
  exact holds.2

end runs

section slots

/-- Each slot in use holds a device that is there, was set up for this minor and was not torn down,
in no other slot; no two devices trace one block device; and a device that is destroyed leaves its
slot. -/
theorem slots_hold_live_devices
    (reached : Transition.Reaches (Kernel.step machine)
      (fun kernel call => call.Releases machine kernel) (machine.boot files) kernel) :
    (∀ minor dev, kernel.snapDevices minor = some dev →
      ∃ device, kernel.devices dev = some device ∧ TraceTable.Slotted machine minor device) ∧
    (∀ minor other dev, kernel.snapDevices minor = some dev → kernel.snapDevices other = some dev →
      minor = other) ∧
    (∀ minor other dev dev' device device', kernel.Holds minor dev device →
      kernel.Holds other dev' device' → device.unverified = false → device'.unverified = false →
      device.sdBaseDev = device'.sdBaseDev → minor = other) ∧
    ∀ minor faults outcomes after,
      (kernel.prepare ⟨.destroy minor, faults, outcomes⟩).Vacates machine minor →
      ioctlDestroy machine minor (kernel.prepare ⟨.destroy minor, faults, outcomes⟩) =
        (.ok (), after) →
      after.snapDevices minor = none ∧
        ∀ dev, kernel.snapDevices minor = some dev → after.devices dev = none := by
  obtain ⟨wired, formed, _⟩ := Operating.reached (fun _ _ releases => releases) (fun _ => trivial)
    (fun _ _ _ _ => trivial) reached
  refine ⟨?_, wired.apart, ?_, ?_⟩
  · intro minor dev slot
    obtain ⟨device, found⟩ := Option.isSome_iff_exists.mp (wired.live minor dev slot)
    have held : kernel.Holds minor dev device := ⟨slot, found⟩
    exact ⟨device, found, formed.slotted minor device held.slot⟩
  · intro minor other dev dev' device device' held held' verified verified'
    exact formed.apart minor other device device' ⟨held.slot, verified⟩ ⟨held'.slot, verified'⟩
  · intro minor faults outcomes after vacates ran
    have wired' : (kernel.prepare ⟨.destroy minor, faults, outcomes⟩).Wired machine :=
      { wired with }
    have ended := wp_done (@ioctlDestroy_spec machine _ minor True wired' formed vacates) ran
    obtain ⟨dev, device, held, destroyed⟩ := ended
    constructor
    · rw [destroyed.table, Function.update_self]
    · intro other slot
      cases held.1.symm.trans slot
      exact destroyed.freed

/-- The first of two devices was changed to incremental mode, and the second one destroyed. -/
theorem slots_hold_live_devices_changed :
    ∃ kernel device, Transition.Reaches (Kernel.step .small)
        (fun kernel call => call.Releases .small kernel) (Machine.small.boot fun _ => none) kernel ∧
      kernel.snapDevices 0 = some 8 ∧ kernel.snapDevices 1 = none ∧
      kernel.devices 8 = some device ∧ TraceTable.Slotted .small 0 device := by
  have ran : ((Transition.run
      (Transition.checked (Kernel.step .small) fun kernel call => call.Releases .small kernel)
      (Machine.small.boot fun _ => none)
      [(Event.mount 1 (some .writable)).fine, (Event.mount 2 (some .writable)).fine,
        (Event.setupSnap 0 1 ⟨1, 7⟩ 1 0 0#128).fine, (Event.setupSnap 1 2 ⟨2, 7⟩ 1 0 0#128).fine,
        (Event.transitionInc 0).fine, (Event.destroy 1).fine]).any fun kernel =>
      decide (kernel.snapDevices 0 = some 8 ∧ kernel.snapDevices 1 = none)) = true := by
    decide +kernel
  obtain ⟨kernel, reached, holds⟩ := Transition.Reaches.of_evaluated ran
  obtain ⟨slot, gone⟩ := of_decide_eq_true holds
  obtain ⟨device, found, slotted⟩ := (slots_hold_live_devices reached).1 0 8 slot
  exact ⟨kernel, device, reached, slot, gone, found, slotted⟩

end slots

section operations

variable {disk : Nat}

/-- A disk that is hooked at its operations: as its driver made them where no device traces it, and
otherwise a copy with another `submit_bio`. Each device that traces has kept what was there. -/
theorem fops_restored (modern : machine.build = .submitBio)
    (reached : Transition.Reaches (Kernel.step machine)
      (fun kernel call => call.Releases machine kernel) (machine.boot files) kernel) (disk : Nat) :
    ((∀ minor dev device bdev, kernel.Holds minor dev device → device.unverified = false →
        device.sdBaseDev = some bdev → machine.bdDisk bdev ≠ disk) →
      (kernel.disks disk).fops = .driver (machine.fops disk)) ∧
    ∀ minor dev device bdev, kernel.Holds minor dev device → device.unverified = false →
      device.sdBaseDev = some bdev → machine.bdDisk bdev = disk →
      (∃ copy, (kernel.disks disk).fops = .copy copy ∧ kernel.copies copy =
        some { machine.original disk with submitBio := some .tracingFn }) ∧
      device.bdOps = some (.driver (machine.fops disk)) ∧
      device.sdOrigRequestFn = some ((machine.original disk).submitBio.getD .nullMrf) := by
  have holds := Operating.reached (fun _ _ releases => releases) (Shared.boot machine)
    (fun _ formed operation shared => operation.shared modern formed shared) reached
  obtain ⟨_, _, shared⟩ := holds
  constructor
  · intro untraced
    apply shared.original disk
    intro minor device bdev held based
    obtain ⟨dev, held'⟩ := Kernel.holds_of_slot held.1
    exact untraced minor dev device bdev held' held.2 based
  · intro minor dev device bdev held verified based is
    obtain ⟨_, _, sharer⟩ := shared.sharers minor device bdev ⟨held.slot, verified⟩ based
    rw [← is]
    exact ⟨⟨_, sharer.fops, sharer.copy⟩, sharer.bdOps, sharer.sdOrigRequestFn⟩

/-- Two devices traced one disk, and the first was destroyed: the disk is still hooked. -/
theorem fops_restored_parted :
    ∃ kernel device copy, Transition.Reaches (Kernel.step .parted)
        (fun kernel call => call.Releases .parted kernel) (Machine.parted.boot fun _ => none)
          kernel ∧
      kernel.snapDevices 0 = none ∧ kernel.Holds 1 4 device ∧
      (kernel.disks 0).fops = .copy copy ∧
      kernel.copies copy = some { Machine.parted.original 0 with submitBio := some .tracingFn } ∧
      device.bdOps = some (.driver 0) := by
  have ran : ((Transition.run
      (Transition.checked (Kernel.step .parted) fun kernel call => call.Releases .parted kernel)
      (Machine.parted.boot fun _ => none)
      [(Event.mount 1 (some .writable)).fine, (Event.mount 2 (some .writable)).fine,
        (Event.setupSnap 0 1 ⟨1, 7⟩ 1 0 0#128).fine, (Event.setupSnap 1 2 ⟨2, 7⟩ 1 0 0#128).fine,
        (Event.destroy 0).fine]).any fun kernel =>
      decide (kernel.snapDevices 0 = none ∧ kernel.snapDevices 1 = some 4) &&
      (kernel.devices 4).any fun device =>
        decide (device.unverified = false ∧ device.sdBaseDev = some 2)) = true := by
    decide +kernel
  obtain ⟨kernel, reached, holds⟩ := Transition.Reaches.of_evaluated ran
  obtain ⟨slots, there⟩ := (Bool.and_eq_true _ _).mp holds
  obtain ⟨gone, slot⟩ := of_decide_eq_true slots
  obtain ⟨device, found, traces⟩ := (Option.any_eq_true _ _).mp there
  obtain ⟨verified, based⟩ := of_decide_eq_true traces
  have held : kernel.Holds 1 4 device := ⟨slot, found⟩
  obtain ⟨_, traced⟩ := fops_restored (by decide) reached 0
  obtain ⟨copied, bdOps, _⟩ := traced 1 4 device 2 held verified based rfl
  obtain ⟨copy, fops, copies⟩ := copied
  exact ⟨kernel, device, copy, reached, gone, held, fops, copies, bdOps⟩

end operations

section references

theorem Gendisk.get_count (gendisk : Gendisk) : gendisk.get.tracking.map MrfTracking.count =
    some ((gendisk.tracking.map MrfTracking.count).getD 0 + 1) := by
  unfold Gendisk.get
  cases gendisk.tracking with
  | none => rfl
  | some _ => rfl

/-- What the queue of a disk was set up with. -/
def Machine.originalFn (machine : Machine) (disk : Nat) : Option RequestFn :=
  (machine.makeRequestFn disk).map .driver

namespace TraceTable

variable {table after : TraceTable} {leaky : Prop} {disk : Nat}

/-- The disk that the verified device of a minor traces. -/
def traced (table : TraceTable) (machine : Machine) (minor : Nat) : Option Nat :=
  (table.slots minor).bind fun device =>
    if device.unverified then none else device.sdBaseDev.map machine.bdDisk

theorem traced_iff : table.traced machine minor = some disk ↔
    ∃ device bdev, table.Verified minor device ∧ device.sdBaseDev = some bdev ∧
      machine.bdDisk bdev = disk := by
  unfold traced Verified
  constructor
  · intro traces
    obtain ⟨device, slot, traces⟩ := Option.bind_eq_some_iff.mp traces
    cases verified : device.unverified with
    | true => simp [verified] at traces
    | false =>
        rw [verified, if_neg (by simp)] at traces
        obtain ⟨bdev, based, same⟩ := Option.map_eq_some_iff.mp traces
        exact ⟨device, bdev, ⟨slot, verified⟩, based, same⟩
  · intro traces
    obtain ⟨device, bdev, held, based, same⟩ := traces
    simp [held.1, held.2, based, same]

/-- How many references there are to the `make_request_fn` of a disk. -/
def mrfRefs (table : TraceTable) (disk : Nat) : Option Nat :=
  (table.disks disk).tracking.map MrfTracking.count

/-- The references to the `make_request_fn` of a disk are those of the devices that trace it; it is
kept as long as there is one, and is back in its place otherwise. -/
structure Retains (machine : Machine) (table : TraceTable) : Prop where
  counted : RefCount.Counted (table.traced machine) machine.maxSnapDevices table.mrfRefs
  kept : ∀ disk tracking, (table.disks disk).tracking = some tracking →
    tracking.orig = machine.originalFn disk ∧ (table.disks disk).makeRequestFn = some .tracingFn
  untouched : ∀ disk, (table.disks disk).tracking = none →
    (table.disks disk).makeRequestFn = machine.originalFn disk
  origRequestFn : ∀ minor device bdev, table.Verified minor device → device.sdBaseDev = some bdev →
    device.sdOrigRequestFn = machine.originalFn (machine.bdDisk bdev)

theorem Retains.boot (machine : Machine) (files : CowPath → Option Cow.CowFile) :
    Retains machine (machine.boot files).tracing where
  counted := .empty (fun _ => rfl) fun _ => rfl
  kept := fun disk tracking held => by
    have none : (machine.gendisk disk).tracking = some tracking := held
    exact absurd none (by simp [Machine.gendisk])
  untouched := fun _ _ => rfl
  origRequestFn := fun _ _ _ held => by
    obtain ⟨dev, slot, _⟩ := Kernel.holds_of_slot held.1
    exact absurd slot (by simp [Machine.boot])

theorem setSlot_slots (table : TraceTable) (minor : Nat) (slot : Option SnapDevice) :
    (table.setSlot minor slot).slots = Function.update table.slots minor slot := rfl

/-- A device in its slot, as the traced disks show it. -/
theorem traced_setSlot (table : TraceTable) (minor : Nat) (slot : Option SnapDevice) :
    (table.setSlot minor slot).traced machine = Function.update (table.traced machine) minor
      (slot.bind fun device =>
        if device.unverified then none else device.sdBaseDev.map machine.bdDisk) := by
  funext other
  unfold traced
  rw [setSlot_slots]
  by_cases here : other = minor
  · rw [here, Function.update_self, Function.update_self]
  · rw [Function.update_of_ne here, Function.update_of_ne here]

theorem setDisk_mrfRefs (table : TraceTable) (bdev : Nat) (gendisk : Gendisk) :
    (table.setDisk machine bdev gendisk).mrfRefs = Function.update table.mrfRefs
      (machine.bdDisk bdev) (gendisk.tracking.map MrfTracking.count) := by
  funext other
  change (Function.update table.disks (machine.bdDisk bdev) gendisk other).tracking.map _ = _
  by_cases here : other = machine.bdDisk bdev
  · rw [here, Function.update_self, Function.update_self]
  · rw [Function.update_of_ne here, Function.update_of_ne here]
    rfl

/-- A device changes in its slot, and so does its disk. -/
theorem Retains.set {gendisk : Gendisk} {slot : Option SnapDevice} (retains : Retains machine table)
    (counted : RefCount.Counted
      (Function.update (table.traced machine) minor (slot.bind fun device =>
        if device.unverified then none else device.sdBaseDev.map machine.bdDisk))
      machine.maxSnapDevices
      (Function.update table.mrfRefs (machine.bdDisk bdev) (gendisk.tracking.map MrfTracking.count)))
    (kept : ∀ tracking, gendisk.tracking = some tracking →
      tracking.orig = machine.originalFn (machine.bdDisk bdev) ∧
        gendisk.makeRequestFn = some .tracingFn)
    (untouched : gendisk.tracking = none →
      gendisk.makeRequestFn = machine.originalFn (machine.bdDisk bdev))
    (orig : ∀ device base, slot = some device → device.unverified = false →
      device.sdBaseDev = some base →
      device.sdOrigRequestFn = machine.originalFn (machine.bdDisk base)) :
    Retains machine ((table.setDisk machine bdev gendisk).setSlot minor slot) where
  counted := by
    rw [← setDisk_mrfRefs] at counted
    rw [traced_setSlot]
    exact counted
  kept := by
    intro disk tracking held
    have held : (Function.update table.disks (machine.bdDisk bdev) gendisk disk).tracking =
      some tracking := held
    change tracking.orig = machine.originalFn disk ∧
      (Function.update table.disks (machine.bdDisk bdev) gendisk disk).makeRequestFn = _
    by_cases here : disk = machine.bdDisk bdev
    · rw [here, Function.update_self] at held ⊢
      exact kept tracking held
    · rw [Function.update_of_ne here] at held ⊢
      exact retains.kept disk tracking held
  untouched := by
    intro disk free
    have free : (Function.update table.disks (machine.bdDisk bdev) gendisk disk).tracking = none :=
      free
    change (Function.update table.disks (machine.bdDisk bdev) gendisk disk).makeRequestFn = _
    by_cases here : disk = machine.bdDisk bdev
    · rw [here, Function.update_self] at free ⊢
      exact untouched free
    · rw [Function.update_of_ne here] at free ⊢
      exact retains.untouched disk free
  origRequestFn := by
    intro other device base held based
    rw [Verified, setSlot_slots] at held
    by_cases here : other = minor
    · rw [here, Function.update_self] at held
      exact orig device base held.1 held.2 based
    · rw [Function.update_of_ne here] at held
      exact retains.origRequestFn other device base held based

/-- A device takes the place of one that traces the same disk, or of none that traces. -/
theorem Retains.setSlot {slot : Option SnapDevice} (retains : Retains machine table)
    (traced : table.traced machine minor = slot.bind fun device =>
      if device.unverified then none else device.sdBaseDev.map machine.bdDisk)
    (orig : ∀ device base, slot = some device → device.unverified = false →
      device.sdBaseDev = some base →
      device.sdOrigRequestFn = machine.originalFn (machine.bdDisk base)) :
    Retains machine (table.setSlot minor slot) := by
  have same : table.setDisk machine minor (table.disk machine minor) = table := by
    simp [setDisk, disk]
  have refs : (table.disk machine minor).tracking.map MrfTracking.count =
      table.mrfRefs (machine.bdDisk minor) := rfl
  have set := @Retains.set machine minor minor table (table.disk machine minor) slot retains
  rw [same, ← traced, refs, Function.update_eq_self, Function.update_eq_self] at set
  exact set retains.counted (retains.kept _) (retains.untouched _) orig

theorem OrigMrf.of_retained {orig : Option RequestFn} {base : Nat}
    (took : OrigMrf machine (table.retained machine base) bdev orig) :
    OrigMrf machine table bdev orig := by
  cases took with
  | untraced untraced =>
      rw [table.retained_makeRequestFn] at untraced ⊢
      exact .untraced untraced
  | traced hooked held based disk =>
      rw [table.retained_makeRequestFn] at hooked
      rw [Verified, table.retained_slots] at held
      exact .traced hooked held based disk

section legacy

variable (drivers : ∀ disk, (machine.makeRequestFn disk).isSome)
include drivers

theorem originalFn_isSome (disk : Nat) : ∃ fn, machine.originalFn disk = some (.driver fn) := by
  obtain ⟨fn, same⟩ := Option.isSome_iff_exists.mp (drivers disk)
  exact ⟨fn, by rw [Machine.originalFn, same]; rfl⟩

/-- What a device takes over is what the disk was set up with. -/
theorem Retains.finds {orig : Option RequestFn} (retains : Retains machine table)
    (took : OrigMrf machine table bdev orig) : orig = machine.originalFn (machine.bdDisk bdev) := by
  cases took with
  | untraced untraced =>
      have untouched : (table.disk machine bdev).makeRequestFn =
          machine.originalFn (machine.bdDisk bdev) := by
        cases tracking : (table.disks (machine.bdDisk bdev)).tracking with
        | none => exact retains.untouched _ tracking
        | some held => exact absurd (retains.kept _ held tracking).2 untraced
      obtain ⟨fn, same⟩ := originalFn_isSome drivers (machine.bdDisk bdev)
      rw [untouched, same]
      simp [Machine.origMrf]
  | traced _ held based disk =>
      rw [← disk]
      exact retains.origRequestFn _ _ _ held based

/-- There is always something to take over. -/
theorem Retains.findable (retains : Retains machine table) (bdev : Nat) :
    ∃ orig, OrigMrf machine table bdev orig := by
  by_cases hooked : (table.disk machine bdev).makeRequestFn = some .tracingFn
  · cases tracking : (table.disks (machine.bdDisk bdev)).tracking with
    | none =>
        obtain ⟨fn, same⟩ := originalFn_isSome drivers (machine.bdDisk bdev)
        have untouched := (retains.untouched _ tracking).symm.trans hooked
        rw [same] at untouched
        exact absurd untouched (by simp)
    | some held =>
        have stored : (table.mrfRefs (machine.bdDisk bdev)).isSome := by
          simp [mrfRefs, tracking]
        obtain ⟨minor, member⟩ := (retains.counted.stored _).mp stored
        obtain ⟨device, base, held, based, disk⟩ := traced_iff.mp (RefCount.mem_holders.mp member).2
        exact ⟨_, .traced hooked held based disk⟩
  · exact ⟨_, .untraced hooked⟩

/-- A device starts to trace: there is a reference more, and the queue is hooked. -/
theorem Retains.started {hooked : TraceTable} (build : machine.build = .makeRequest)
    (retains : Retains machine table) (bound : minor < machine.maxSnapDevices)
    (free : table.slots minor = none) (verified : device.unverified = false)
    (based : device.sdBaseDev = some bdev)
    (hooks : Hooks machine (table.retained machine bdev) bdev device hooked) :
    Retains machine (hooked.setSlot minor (some device)) := by
  cases hooks with
  | shared modern => exact absurd build modern
  | alone modern => exact absurd build modern
  | legacy _ took =>
      let kept : Gendisk := { (table.disk machine bdev).get with makeRequestFn := some .tracingFn }
      have same : ((table.retained machine bdev).setDisk machine bdev
          (((table.retained machine bdev).disk machine bdev).hook machine (some .tracingFn) none)) =
          table.setDisk machine bdev kept := by
        simp [retained, build, setDisk, disk, Gendisk.hook, kept]
      have idle : table.traced machine minor = none := by
        simp [traced, free]
      have counts : kept.tracking.map MrfTracking.count =
          some ((table.mrfRefs (machine.bdDisk bdev)).getD 0 + 1) := Gendisk.get_count _
      have taken := @RefCount.Counted.take _ _ _ _ minor (machine.bdDisk bdev) _ retains.counted idle
        bound
      rw [same]
      apply retains.set
      · rw [counts]
        simpa [verified, based] using taken
      · intro held is
        refine ⟨?_, rfl⟩
        have is : (table.disk machine bdev).get.tracking = some held := is
        unfold Gendisk.get at is
        cases tracking : (table.disk machine bdev).tracking with
        | none =>
            rw [tracking] at is
            cases Option.some.inj is
            exact retains.untouched _ tracking
        | some before =>
            rw [tracking] at is
            cases Option.some.inj is
            exact (retains.kept _ before tracking).1
      · intro none
        rw [none] at counts
        exact absurd counts (by simp)
      · intro device' base same' _ based'
        cases Option.some.inj same'
        cases based.symm.trans based'
        exact retains.finds drivers took.of_retained

/-- A device that takes the place of another one of its disk takes over what that one has kept. -/
theorem Retains.replaced {hooked : TraceTable} {old : SnapDevice}
    (build : machine.build = .makeRequest) (retains : Retains machine table)
    (held : table.Verified minor old) (based : old.sdBaseDev = some bdev)
    (verified : device.unverified = false) (based' : device.sdBaseDev = some bdev)
    (hooks : Hooks machine table bdev device hooked) :
    Retains machine (hooked.setSlot minor (some device)) := by
  cases hooks with
  | shared modern => exact absurd build modern
  | alone modern => exact absurd build modern
  | legacy _ took =>
      have traces : table.traced machine minor = some (machine.bdDisk bdev) :=
        traced_iff.mpr ⟨old, bdev, held, based, rfl⟩
      have hooked : (table.disk machine bdev).makeRequestFn = some .tracingFn := by
        have stored := (retains.counted.stored (machine.bdDisk bdev)).mpr
          ⟨minor, retains.counted.mem_iff.mpr traces⟩
        obtain ⟨_, counts⟩ := Option.isSome_iff_exists.mp stored
        obtain ⟨tracking, kept, _⟩ := Option.map_eq_some_iff.mp counts
        exact (retains.kept _ tracking kept).2
      have same : table.setDisk machine bdev
          ((table.disk machine bdev).hook machine (some .tracingFn) none) = table := by
        have same : (table.disk machine bdev).hook machine (some .tracingFn) none =
            table.disk machine bdev := by
          rw [Gendisk.hook, build]
          change { table.disk machine bdev with makeRequestFn := some .tracingFn } = _
          rw [← hooked]
        rw [same]
        simp [setDisk, disk]
      rw [same]
      apply retains.setSlot
      · simp [traces, verified, based']
      · intro device' base same' _ based''
        cases Option.some.inj same'
        cases based'.symm.trans based''
        exact retains.finds drivers took

/-- A device stops to trace: there is a reference less, and the last one takes the hook with it. -/
theorem Retains.stopped (build : machine.build = .makeRequest) (retains : Retains machine table)
    (held : table.Verified minor device) (based : device.sdBaseDev = some bdev)
    (bdOps : Option OpsPtr) :
    Retains machine ((table.setDisk machine bdev
      ((table.disk machine bdev).unhook machine bdOps)).setSlot minor none) := by
  have traces : table.traced machine minor = some (machine.bdDisk bdev) :=
    traced_iff.mpr ⟨device, bdev, held, based, rfl⟩
  have stored := (retains.counted.stored (machine.bdDisk bdev)).mpr
    ⟨minor, retains.counted.mem_iff.mpr traces⟩
  obtain ⟨count, counts⟩ := Option.isSome_iff_exists.mp stored
  obtain ⟨tracking, known, same⟩ := Option.map_eq_some_iff.mp counts
  obtain ⟨orig, hooked⟩ := retains.kept _ tracking known
  obtain ⟨fn, named⟩ := originalFn_isSome drivers (machine.bdDisk bdev)
  have known : (table.disk machine bdev).tracking = some tracking := known
  have hooked : (table.disk machine bdev).makeRequestFn = some .tracingFn := hooked
  have put := retains.counted.put traces counts
  by_cases last : count - 1 = 0
  · have left : (table.disk machine bdev).unhook machine bdOps =
        { table.disk machine bdev with
          makeRequestFn := machine.originalFn (machine.bdDisk bdev), tracking := none } := by
      simp [Gendisk.unhook, build, Gendisk.put, known, same, last, orig, named]
    rw [left]
    apply retains.set
    · simpa [last] using put
    · exact fun _ never => absurd never (by simp)
    · exact fun _ => rfl
    · exact fun _ _ never => absurd never (by simp)
  · have left : (table.disk machine bdev).unhook machine bdOps =
        { table.disk machine bdev with
          tracking := some { tracking with count := tracking.count - 1 } } := by
      simp [Gendisk.unhook, build, Gendisk.put, known, same, last, hooked]
    rw [left]
    apply retains.set
    · simpa [last, same] using put
    · intro held is
      cases Option.some.inj is
      exact ⟨orig, hooked⟩
    · exact fun never => absurd never (by simp)
    · exact fun _ _ never => absurd never (by simp)

/-- Operations of the driver keep the references counted, where no setup leaves one behind. -/
theorem Operation.retains (build : machine.build = .makeRequest) (tight : ¬ leaky)
    (formed : table.Formed machine) (retains : Retains machine table)
    (operation : Operation machine leaky table after) : Retains machine after := by
  cases operation with
  | @works _ before device' slot alike =>
      apply retains.setSlot
      · simp [traced, slot, alike.unverified, alike.sdBaseDev]
      · intro device base same verified based
        cases Option.some.inj same
        rw [alike.sdOrigRequestFn]
        exact retains.origRequestFn _ before base ⟨slot, alike.unverified.symm.trans verified⟩
          (alike.sdBaseDev.symm.trans based)
  | registered _ free _ waits _ =>
      apply retains.setSlot
      · simp [traced, free, waits]
      · intro device _ same verified _
        cases Option.some.inj same
        exact absurd (verified.symm.trans waits) (by simp)
  | @dropped _ device slot orig =>
      have waits : device.unverified = true := by
        cases verified : device.unverified with
        | true => rfl
        | false =>
            obtain ⟨bdev, based⟩ := formed.verified ⟨slot, verified⟩
            have traces := formed.origRequestFn ⟨slot, verified⟩ based fun _ => .inr (drivers _)
            rw [orig] at traces
            contradiction
      apply retains.setSlot
      · simp [traced, slot, waits]
      · exact fun _ _ never => absurd never (by simp)
  | leaked why _ =>
      rcases why with leaks | nothing
      · exact absurd leaks tight
      · obtain ⟨bdev, none⟩ := nothing
        obtain ⟨orig, took⟩ := retains.findable drivers bdev
        exact absurd took (none orig)
  | started bound free _ _ verified based _ hooks =>
      exact retains.started drivers build bound free verified based hooks
  | replaced held based _ verified based' _ hooks =>
      exact retains.replaced drivers build held based verified based' hooks
  | @stopped _ _ device _ slot orig based _ =>
      have verified : device.unverified = false := by
        cases waits : device.unverified with
        | false => rfl
        | true =>
            rw [((formed.slotted _ device slot).waiting waits).sdOrigRequestFn] at orig
            contradiction
      rw [putTracking, if_pos build]
      exact retains.stopped drivers build ⟨slot, verified⟩ based _

end legacy

end TraceTable

instance (call : Call) : Decidable (call.Leaks machine) :=
  match call with
  | ⟨.setupSnap .., _, _⟩ | ⟨.mount .., _, _⟩ =>
      inferInstanceAs (Decidable (_ = _ → ¬ ((∀ _ ∈ lateSteps, _ = none) ∧ _ = none)))
  | ⟨.destroy _, _, _⟩ | ⟨.transitionInc _, _, _⟩ | ⟨.transitionSnap .., _, _⟩
  | ⟨.reload .., _, _⟩ | ⟨.reconfigure .., _, _⟩ | ⟨.openSnap _, _, _⟩ | ⟨.releaseSnap _, _, _⟩
  | ⟨.umount .., _, _⟩ | ⟨.mountReadOnly _, _, _⟩ | ⟨.write .., _, _⟩ | ⟨.work _, _, _⟩
  | ⟨.reboot, _, _⟩ => inferInstanceAs (Decidable (_ ≠ _))

/-- A disk that is hooked at its queue: there are as many references to what the queue was set up
with as devices that trace the disk, and it is back in its place where there is none. -/
theorem mrf_refs_count_tracers (build : machine.build = .makeRequest)
    (drivers : ∀ disk, (machine.makeRequestFn disk).isSome)
    (reached : Transition.Reaches (Kernel.step machine)
      (fun kernel call => call.Releases machine kernel ∧ ¬ call.Leaks machine) (machine.boot files)
      kernel) (disk : Nat) :
    ((kernel.disks disk).tracking.map MrfTracking.count).getD 0 =
      (RefCount.holders (kernel.tracing.traced machine) machine.maxSnapDevices disk).card ∧
    ((∀ minor, kernel.tracing.traced machine minor ≠ some disk) →
      (kernel.disks disk).makeRequestFn = machine.originalFn disk) ∧
    ∀ minor, kernel.tracing.traced machine minor = some disk →
      (kernel.disks disk).makeRequestFn = some .tracingFn := by
  have holds := Operating.reached (fun _ _ fine => fine.1) (TraceTable.Retains.boot machine)
    (fun fine formed operation retains =>
      TraceTable.Operation.retains drivers build fine.2 formed retains operation) reached
  obtain ⟨_, _, retains⟩ := holds
  have stored := retains.counted.stored disk
  cases tracking : (kernel.disks disk).tracking with
  | none =>
      have unheld : kernel.tracing.mrfRefs disk = none := by
        unfold TraceTable.mrfRefs
        change (kernel.disks disk).tracking.map _ = none
        rw [tracking]
        rfl
      have nobody : RefCount.holders (kernel.tracing.traced machine) machine.maxSnapDevices disk =
          ∅ := by
        rw [← Finset.not_nonempty_iff_eq_empty, ← stored, unheld]
        simp
      refine ⟨by simp [nobody], fun _ => retains.untouched disk tracking, ?_⟩
      intro minor traces
      have member := retains.counted.mem_iff.mpr traces
      rw [nobody] at member
      exact absurd member (by simp)
  | some held =>
      have counts : kernel.tracing.mrfRefs disk = some held.count := by
        unfold TraceTable.mrfRefs
        change (kernel.disks disk).tracking.map _ = _
        rw [tracking]
        rfl
      refine ⟨retains.counted.exact disk held.count counts, ?_,
        fun _ _ => (retains.kept disk held tracking).2⟩
      intro nobody
      have any := stored.mp (by simp [counts])
      obtain ⟨minor, member⟩ := any
      exact absurd (retains.counted.mem_iff.mp member) (nobody minor)

/-- Two block devices of one disk that is hooked at its queue. -/
def Machine.queued : Machine :=
  { Machine.parted with build := .makeRequest, makeRequestFn := fun _ => some 3 }

/-- Two devices traced one disk, and the first was destroyed: there is one reference left. -/
theorem mrf_refs_count_tracers_queued :
    ∃ kernel, Transition.Reaches (Kernel.step .queued)
        (fun kernel call => call.Releases .queued kernel ∧ ¬ call.Leaks .queued)
        (Machine.queued.boot fun _ => none) kernel ∧
      kernel.tracing.traced .queued 0 = none ∧ kernel.tracing.traced .queued 1 = some 0 ∧
      (kernel.disks 0).makeRequestFn = some .tracingFn ∧
      (RefCount.holders (kernel.tracing.traced .queued) 24 0).card = 1 := by
  have ran : ((Transition.run
      (Transition.checked (Kernel.step .queued) fun kernel call =>
        call.Releases .queued kernel ∧ ¬ call.Leaks .queued)
      (Machine.queued.boot fun _ => none)
      [(Event.mount 1 (some .writable)).fine, (Event.mount 2 (some .writable)).fine,
        (Event.setupSnap 0 1 ⟨1, 7⟩ 1 0 0#128).fine, (Event.setupSnap 1 2 ⟨2, 7⟩ 1 0 0#128).fine,
        (Event.destroy 0).fine]).any fun kernel =>
      decide (kernel.tracing.traced .queued 0 = none ∧ kernel.tracing.traced .queued 1 = some 0 ∧
        ((kernel.disks 0).tracking.map MrfTracking.count).getD 0 = 1)) = true := by
    decide +kernel
  obtain ⟨kernel, reached, holds⟩ := Transition.Reaches.of_evaluated ran
  obtain ⟨gone, traces, refs⟩ := of_decide_eq_true holds
  obtain ⟨counts, _, hooked⟩ := mrf_refs_count_tracers rfl (fun _ => rfl) reached 0
  exact ⟨kernel, reached, gone, traces, hooked 1 traces, counts.symm.trans refs⟩

/-- The COW thread of a first device cannot be created: its reference stays, so that the hook of the
next device that is set up stays too when that one is destroyed. -/
theorem mrf_refs_left_behind :
    ∃ kernel, Transition.run (Kernel.step .queued) (Machine.queued.boot fun _ => none)
        [(Event.mount 1 (some .writable)).fine,
          ⟨.setupSnap 0 1 ⟨1, 7⟩ 1 0 0#128, fun step => if step = .cowThread then some .enomem else none,
            []⟩,
          (Event.setupSnap 0 1 ⟨1, 7⟩ 1 0 0#128).fine, (Event.destroy 0).fine] = some kernel ∧
      kernel.snapDevices 0 = none ∧ (kernel.disks 0).makeRequestFn = some .tracingFn ∧
      (kernel.disks 0).tracking.map MrfTracking.count = some 1 := by
  have ran : ((Transition.run (Kernel.step .queued) (Machine.queued.boot fun _ => none)
      [(Event.mount 1 (some .writable)).fine,
        ⟨.setupSnap 0 1 ⟨1, 7⟩ 1 0 0#128, fun step => if step = .cowThread then some .enomem else none,
          []⟩,
        (Event.setupSnap 0 1 ⟨1, 7⟩ 1 0 0#128).fine, (Event.destroy 0).fine]).any fun kernel =>
      decide (kernel.snapDevices 0 = none ∧ (kernel.disks 0).makeRequestFn = some .tracingFn ∧
        (kernel.disks 0).tracking.map MrfTracking.count = some 1)) = true := by
    decide +kernel
  obtain ⟨kernel, found, holds⟩ := (Option.any_eq_true _ _).mp ran
  exact ⟨kernel, found, of_decide_eq_true holds⟩

end references

end Moocbt.Driver
