import Mathlib.Data.Finset.Card
import Moocbt.Driver.Hooks

/-! What tracing is about: which devices the table holds, how the disks are hooked, and the
copies of operations. One step of it is what an operation of the driver does to it. -/

namespace Moocbt.Driver

open Cow (Errno)

theorem DriverOperations.untraced (operations : DriverOperations) :
    operations.table.submitBio ≠ some .tracingFn := by
  unfold DriverOperations.table
  cases operations.submitBio <;> simp

structure TraceTable where
  slots : Nat → Option SnapDevice
  disks : Nat → Gendisk
  copies : Address → Option BlockDeviceOperations
  tracingOps : Address → Option TracingOps

def Kernel.tracing (kernel : Kernel) : TraceTable where
  slots := fun minor => (kernel.snapDevices minor).bind kernel.devices
  disks := kernel.disks
  copies := kernel.copies
  tracingOps := kernel.tracingOps

/-- A disk after `mrf_get`. -/
def Gendisk.get (gendisk : Gendisk) : Gendisk :=
  { gendisk with
    tracking :=
      match gendisk.tracking with
      | none => some ⟨gendisk.makeRequestFn, 1⟩
      | some tracking => some { tracking with count := tracking.count + 1 } }

/-- A disk after `mrf_put`, with the `make_request_fn` that returns. -/
def Gendisk.put (gendisk : Gendisk) : Option RequestFn × Gendisk :=
  match gendisk.tracking with
  | none => (none, gendisk)
  | some tracking =>
      if tracking.count - 1 = 0 then (tracking.orig, { gendisk with tracking := none })
      else (gendisk.makeRequestFn,
        { gendisk with tracking := some { tracking with count := tracking.count - 1 } })

/-- A disk the driver hooks into. -/
def Gendisk.hook (gendisk : Gendisk) (machine : Machine) (fn : Option RequestFn)
    (bdOps : Option OpsPtr) : Gendisk :=
  match machine.build with
  | .hooked => gendisk
  | .makeRequest => if fn.isSome then { gendisk with makeRequestFn := fn } else gendisk
  | .submitBio => { gendisk with fops := bdOps.getD gendisk.fops }

def Gendisk.unhook (gendisk : Gendisk) (machine : Machine) (bdOps : Option OpsPtr) : Gendisk :=
  match machine.build with
  | .hooked => gendisk
  | .makeRequest =>
      if gendisk.put.1.isSome then { gendisk.put.2 with makeRequestFn := gendisk.put.1 }
      else gendisk.put.2
  | .submitBio => { gendisk with fops := bdOps.getD gendisk.fops }

namespace TraceTable

variable {machine : Machine} {table after : TraceTable} {minor bdev : Nat} {device : SnapDevice}

def disk (table : TraceTable) (machine : Machine) (bdev : Nat) : Gendisk :=
  table.disks (machine.bdDisk bdev)

def opsAt (table : TraceTable) (machine : Machine) : OpsPtr → Option BlockDeviceOperations
  | .driver ops => some (machine.operations ops).table
  | .copy address => table.copies address

def setSlot (table : TraceTable) (minor : Nat) (device : Option SnapDevice) : TraceTable :=
  { table with slots := Function.update table.slots minor device }

def setDisk (table : TraceTable) (machine : Machine) (bdev : Nat) (gendisk : Gendisk) :
    TraceTable :=
  { table with disks := Function.update table.disks (machine.bdDisk bdev) gendisk }

/-- A copy of operations gets this many references. -/
def setOps (table : TraceTable) (address : Address) (ops : TracingOps) : TraceTable :=
  { table with tracingOps := Function.update table.tracingOps address (some ops) }

/-- A verified device of the table. -/
def Verified (table : TraceTable) (minor : Nat) (device : SnapDevice) : Prop :=
  table.slots minor = some device ∧ device.unverified = false

/-- No verified device has this base device. -/
def NotTraced (table : TraceTable) (bdev : Nat) : Prop :=
  ∀ minor device, table.Verified minor device → device.sdBaseDev ≠ some bdev

/-- The `make_request_fn` a device takes over: that of an untraced queue, or the one another
device of the disk has kept. -/
inductive OrigMrf (machine : Machine) (table : TraceTable) (bdev : Nat) : Option RequestFn → Prop
  | untraced : (table.disk machine bdev).makeRequestFn ≠ some .tracingFn →
      OrigMrf machine table bdev (machine.origMrf (table.disk machine bdev).makeRequestFn)
  | traced {minor base : Nat} {device : SnapDevice} :
      (table.disk machine bdev).makeRequestFn = some .tracingFn →
      table.Verified minor device → device.sdBaseDev = some base →
      machine.bdDisk base = machine.bdDisk bdev →
      OrigMrf machine table bdev device.sdOrigRequestFn

/-- The table with one more reference to the `make_request_fn` of a disk. -/
def retained (table : TraceTable) (machine : Machine) (bdev : Nat) : TraceTable :=
  if machine.build = .makeRequest then
    table.setDisk machine bdev (table.disk machine bdev).get
  else table

theorem retained_makeRequestFn (table : TraceTable) (machine : Machine) (bdev base : Nat) :
    ((table.retained machine bdev).disk machine base).makeRequestFn =
      (table.disk machine base).makeRequestFn := by
  unfold retained
  split
  · unfold setDisk disk
    dsimp only
    by_cases same : machine.bdDisk base = machine.bdDisk bdev
    · rw [same, Function.update_self]
      rfl
    · rw [Function.update_of_ne same]
  · rfl

theorem retained_slots (table : TraceTable) (machine : Machine) (bdev : Nat) :
    (table.retained machine bdev).slots = table.slots := by
  unfold retained
  split <;> rfl

theorem OrigMrf.retained {orig : Option RequestFn} {base : Nat}
    (took : OrigMrf machine table bdev orig) :
    OrigMrf machine (table.retained machine base) bdev orig := by
  have same := table.retained_makeRequestFn machine base bdev
  cases took with
  | untraced differs =>
      rw [← same]
      apply OrigMrf.untraced
      rw [same]
      exact differs
  | traced tracing verified basis disk =>
      have kept : (table.retained machine base).Verified _ _ :=
        ⟨(congrFun (table.retained_slots machine base) _).trans verified.1, verified.2⟩
      exact .traced (same.trans tracing) kept basis disk

/-- The operations a device takes over: those of an untraced disk, or those another device
has kept, with the copy they share. -/
inductive OrigOps (machine : Machine) (table : TraceTable) (bdev : Nat) :
    Option OpsPtr → Option RequestFn → Option Address → Prop
  | untraced {ops : BlockDeviceOperations} :
      table.opsAt machine (table.disk machine bdev).fops = some ops →
      ops.submitBio ≠ some .tracingFn →
      OrigOps machine table bdev (some (table.disk machine bdev).fops)
        (some (ops.submitBio.getD .nullMrf)) none
  | traced {minor base : Nat} {device : SnapDevice} {ops : BlockDeviceOperations} :
      table.opsAt machine (table.disk machine bdev).fops = some ops →
      ops.submitBio = some .tracingFn →
      table.Verified minor device → device.sdBaseDev = some base →
      (table.disk machine base).fops = (table.disk machine bdev).fops →
      OrigOps machine table bdev device.bdOps device.sdOrigRequestFn device.sdTracingOps

/-- What `tracer_alloc_ops` puts into the copy. -/
def copied (machine : Machine) (ops : BlockDeviceOperations) : BlockDeviceOperations :=
  if machine.build = .submitBio then { ops with submitBio := some .tracingFn } else ops

/-- A device hooks the disk of `bdev`: the legacy way, with the copy of operations another
device has made, or with one of its own. -/
inductive Hooks (machine : Machine) (table : TraceTable) (bdev : Nat) (device : SnapDevice) :
    TraceTable → Prop
  | legacy :
      machine.build = .makeRequest → OrigMrf machine table bdev device.sdOrigRequestFn →
      Hooks machine table bdev device
        (table.setDisk machine bdev
          ((table.disk machine bdev).hook machine (some .tracingFn) none))
  | shared {address : Address} {ops : TracingOps} :
      machine.build ≠ .makeRequest →
      OrigOps machine table bdev device.bdOps device.sdOrigRequestFn (some address) →
      device.sdTracingOps = some address → table.tracingOps address = some ops →
      Hooks machine table bdev device
        ((table.setDisk machine bdev
          ((table.disk machine bdev).hook machine none (some (.copy ops.bdOps)))).setOps
            address { ops with refs := ops.refs + 1 })
  | alone {address copy : Address} {ops : BlockDeviceOperations} :
      machine.build ≠ .makeRequest →
      OrigOps machine table bdev device.bdOps device.sdOrigRequestFn none →
      table.opsAt machine (table.disk machine bdev).fops = some ops →
      table.copies copy = none → table.tracingOps address = none →
      device.sdTracingOps = some address →
      Hooks machine table bdev device
        { ((table.setDisk machine bdev
            ((table.disk machine bdev).hook machine none (some (.copy copy)))).setOps
              address ⟨copy, 1⟩) with
          copies := Function.update table.copies copy (some (copied machine ops)) }

/-- A device gives its reference to a copy back. -/
def putOps (table : TraceTable) (address : Address) : TraceTable :=
  match table.tracingOps address with
  | none => table
  | some ops =>
      if ops.refs - 1 = 0 then
        { table with
          copies := Function.update table.copies ops.bdOps none
          tracingOps := Function.update table.tracingOps address none }
      else table.setOps address { ops with refs := ops.refs - 1 }

/-- `__moocbt_free_request_tracking_ptr`. -/
def putTracking (table : TraceTable) (machine : Machine) (device : SnapDevice) : TraceTable :=
  if machine.build = .makeRequest then table
  else device.sdTracingOps.elim table table.putOps

/-- Whether `__tracer_should_reset_mrf` finds another device that needs the hook. -/
def Alone (machine : Machine) (table : TraceTable) (minor bdev : Nat) : Prop :=
  ∀ other device base, other ≠ minor → table.Verified other device →
    device.sdBaseDev = some base →
    (table.disk machine base).fops ≠ (table.disk machine bdev).fops

/-- The device of a slot without its state: what changes while it works on. -/
structure Alike (before after : SnapDevice) : Prop where
  sdMinor : after.sdMinor = before.sdMinor
  unverified : after.unverified = before.unverified
  sdBaseDev : after.sdBaseDev = before.sdBaseDev
  sdBdevPath : after.sdBdevPath = before.sdBdevPath
  sdOrigRequestFn : after.sdOrigRequestFn = before.sdOrigRequestFn
  bdOps : after.bdOps = before.bdOps
  sdTracingOps : after.sdTracingOps = before.sdTracingOps
  sdFailCode : after.sdFailCode = none → before.sdFailCode = none

/-- What a setup that failed may have left behind. -/
structure Residue (machine : Machine) (before after : TraceTable) : Prop where
  slots : after.slots = before.slots
  disks : machine.build ≠ .makeRequest → after.disks = before.disks
  queues : ∀ disk, (before.disks disk).makeRequestFn.isSome →
    (after.disks disk).makeRequestFn.isSome
  copies : ∀ address ops, before.copies address = some ops → after.copies address = some ops
  tracingOps : ∀ address ops, before.tracingOps address = some ops →
    ∃ refs, ops.refs ≤ refs ∧ after.tracingOps address = some { ops with refs }

/-- A device that waits for its block device. -/
structure Waiting (device : SnapDevice) : Prop where
  sdBaseDev : device.sdBaseDev = none
  sdBdevPath : device.sdBdevPath.isSome
  sdOrigRequestFn : device.sdOrigRequestFn = none
  sdTracingOps : device.sdFailCode = none → device.sdTracingOps = none

/-- What an operation of the driver does. `leaky` says that a setup may fail late. -/
inductive Operation (machine : Machine) (leaky : Prop) (table : TraceTable) : TraceTable → Prop
  | works {minor : Nat} {device device' : SnapDevice} :
      table.slots minor = some device → Alike device device' →
      Operation machine leaky table (table.setSlot minor (some device'))
  | registered {minor : Nat} {device : SnapDevice} :
      minor < machine.maxSnapDevices → table.slots minor = none →
      device.sdMinor = minor → device.unverified = true → Waiting device →
      Operation machine leaky table (table.setSlot minor (some device))
  | dropped {minor : Nat} {device : SnapDevice} :
      table.slots minor = some device → device.sdOrigRequestFn = none →
      Operation machine leaky table (table.setSlot minor none)
  | leaked {after : TraceTable} :
      leaky ∨ (∃ bdev, ∀ orig, ¬ OrigMrf machine table bdev orig) → Residue machine table after →
      Operation machine leaky table after
  | started {minor bdev : Nat} {device : SnapDevice} {hooked : TraceTable} :
      minor < machine.maxSnapDevices → table.slots minor = none → table.NotTraced bdev →
      device.sdMinor = minor → device.unverified = false → device.sdBaseDev = some bdev →
      device.sdBdevPath.isSome → Hooks machine (table.retained machine bdev) bdev device hooked →
      Operation machine leaky table (hooked.setSlot minor (some device))
  | replaced {minor bdev : Nat} {old device : SnapDevice} {hooked : TraceTable} :
      table.Verified minor old → old.sdBaseDev = some bdev →
      device.sdMinor = minor → device.unverified = false → device.sdBaseDev = some bdev →
      device.sdBdevPath = old.sdBdevPath →
      Hooks machine table bdev device hooked →
      Operation machine leaky table (hooked.setSlot minor (some device))
  | stopped {minor bdev : Nat} {device : SnapDevice} {reset : Bool} :
      table.slots minor = some device → device.sdOrigRequestFn.isSome →
      device.sdBaseDev = some bdev →
      (machine.build ≠ .makeRequest → (reset = true ↔ Alone machine table minor bdev)) →
      Operation machine leaky table
        (((table.setDisk machine bdev
          ((table.disk machine bdev).unhook machine (if reset then device.bdOps else none))).setSlot
            minor none).putTracking machine device)

/-- A device of this block device finds a function to keep: its own takes the place of a null
pointer, but of a null `make_request_fn` only with `HAVE_BLK_MQ_MAKE_REQUEST`. -/
def FindsFn (machine : Machine) (bdev : Nat) : Prop :=
  machine.build = .makeRequest →
    machine.blkMqMakeRequest = true ∨ (machine.makeRequestFn (machine.bdDisk bdev)).isSome

/-- A device in the slot of its minor. -/
structure Slotted (machine : Machine) (minor : Nat) (device : SnapDevice) : Prop where
  bound : minor < machine.maxSnapDevices
  sdMinor : device.sdMinor = minor
  sdBdevPath : device.sdBdevPath.isSome
  verified : device.unverified = false → ∃ bdev, device.sdBaseDev = some bdev ∧
    (FindsFn machine bdev → device.sdOrigRequestFn.isSome)
  waiting : device.unverified = true → Waiting device

/-- Every slot in use holds a device that was set up for it and not torn down, no two verified
devices share a block device, and no queue lost its `make_request_fn`. -/
structure Formed (machine : Machine) (table : TraceTable) : Prop where
  slotted : ∀ minor device, table.slots minor = some device → Slotted machine minor device
  queues : ∀ disk, (machine.makeRequestFn disk).isSome → (table.disks disk).makeRequestFn.isSome
  apart : ∀ minor other device device', table.Verified minor device →
    table.Verified other device' → device.sdBaseDev = device'.sdBaseDev → minor = other

theorem Formed.verified (formed : table.Formed machine) (held : table.Verified minor device) :
    ∃ bdev, device.sdBaseDev = some bdev := by
  obtain ⟨bdev, based, _⟩ := (formed.slotted minor device held.1).verified held.2
  exact ⟨bdev, based⟩

theorem Formed.origRequestFn (formed : table.Formed machine) (held : table.Verified minor device)
    (based : device.sdBaseDev = some bdev) (finds : FindsFn machine bdev) :
    device.sdOrigRequestFn.isSome := by
  obtain ⟨base, based', traces⟩ := (formed.slotted minor device held.1).verified held.2
  cases based.symm.trans based'
  exact traces finds

theorem Formed.of_slots (formed : table.Formed machine) (same : after.slots = table.slots)
    (queues : ∀ disk, (table.disks disk).makeRequestFn.isSome →
      (after.disks disk).makeRequestFn.isSome) : after.Formed machine := by
  constructor
  · intro minor device held
    rw [same] at held
    exact formed.slotted minor device held
  · exact fun disk finds => queues disk (formed.queues disk finds)
  · intro minor other device device' held held'
    unfold Verified at held held'
    rw [same] at held held'
    exact formed.apart minor other device device' held held'

theorem Formed.setSlot (formed : table.Formed machine) (slotted : Slotted machine minor device)
    (alone : device.unverified = false → ∀ other device', other ≠ minor →
      table.Verified other device' → device'.sdBaseDev ≠ device.sdBaseDev) :
    (table.setSlot minor (some device)).Formed machine := by
  constructor
  · intro other device' held
    by_cases here : other = minor
    · subst here
      cases (Function.update_self _ _ _).symm.trans held
      exact slotted
    · exact formed.slotted other device' ((Function.update_of_ne here _ _).symm.trans held)
  · exact formed.queues
  · intro first second device' device'' held held' same
    have elsewhere : ∀ {other kept}, other ≠ minor →
        (table.setSlot minor (some device)).Verified other kept → table.Verified other kept :=
      fun away verified => ⟨(Function.update_of_ne away _ _).symm.trans verified.1, verified.2⟩
    by_cases left : first = minor
    · subst left
      cases (Function.update_self _ _ _).symm.trans held.1
      by_contra differs
      exact alone held.2 second device'' (Ne.symm differs) (elsewhere (Ne.symm differs) held')
        same.symm
    · by_cases right : second = minor
      · subst right
        cases (Function.update_self _ _ _).symm.trans held'.1
        exact absurd same (alone held'.2 first device' left (elsewhere left held))
      · exact formed.apart first second device' device'' (elsewhere left held)
          (elsewhere right held') same

theorem Formed.clearSlot (formed : table.Formed machine) (minor : Nat) :
    (table.setSlot minor none).Formed machine := by
  have elsewhere : ∀ {other kept}, (table.setSlot minor none).slots other = some kept →
      table.slots other = some kept := by
    intro other kept held
    by_cases here : other = minor
    · subst here
      exact absurd ((Function.update_self _ _ _).symm.trans held) (by simp)
    · exact (Function.update_of_ne here _ _).symm.trans held
  constructor
  · exact fun other device held => formed.slotted other device (elsewhere held)
  · exact formed.queues
  · exact fun first second device device' held held' =>
      formed.apart first second device device' ⟨elsewhere held.1, held.2⟩ ⟨elsewhere held'.1, held'.2⟩

theorem Hooks.slots (hooks : Hooks machine table bdev device after) :
    after.slots = table.slots := by
  cases hooks <;> rfl

theorem putTracking_slots (table : TraceTable) (machine : Machine) (device : SnapDevice) :
    (table.putTracking machine device).slots = table.slots := by
  unfold putTracking
  split
  · rfl
  · cases device.sdTracingOps with
    | none => rfl
    | some address =>
        change (table.putOps address).slots = table.slots
        unfold putOps
        cases table.tracingOps address with
        | none => rfl
        | some ops =>
            dsimp only
            split <;> rfl

theorem OrigMrf.isSome {orig : Option RequestFn} (took : OrigMrf machine table bdev orig)
    (formed : table.Formed machine) (legacy : machine.build = .makeRequest)
    (finds : FindsFn machine bdev) : orig.isSome := by
  cases took with
  | untraced =>
      unfold Machine.origMrf
      rcases finds legacy with replaces | there
      · rw [if_pos replaces]
        rfl
      · split
        · rfl
        · exact formed.queues _ there
  | traced _ held based same =>
      apply formed.origRequestFn held based
      unfold FindsFn at finds ⊢
      rw [same]
      exact finds

theorem OrigOps.isSome {bdOps : Option OpsPtr} {orig : Option RequestFn} {trops : Option Address}
    (took : OrigOps machine table bdev bdOps orig trops) (formed : table.Formed machine)
    (modern : machine.build ≠ .makeRequest) : orig.isSome := by
  cases took with
  | untraced => rfl
  | traced _ _ held based =>
      exact formed.origRequestFn held based fun legacy => absurd legacy modern

theorem Hooks.origRequestFn (hooks : Hooks machine table bdev device after)
    (formed : table.Formed machine) (finds : FindsFn machine bdev) :
    device.sdOrigRequestFn.isSome := by
  cases hooks with
  | legacy legacy took => exact took.isSome formed legacy finds
  | shared modern took => exact took.isSome formed modern
  | alone modern took => exact took.isSome formed modern

theorem setDisk_queue {gendisk : Gendisk} {disk : Nat}
    (keeps : (table.disk machine bdev).makeRequestFn.isSome → gendisk.makeRequestFn.isSome)
    (there : (table.disks disk).makeRequestFn.isSome) :
    ((table.setDisk machine bdev gendisk).disks disk).makeRequestFn.isSome := by
  change (Function.update table.disks (machine.bdDisk bdev) gendisk disk).makeRequestFn.isSome
  by_cases here : disk = machine.bdDisk bdev
  · subst here
    rw [Function.update_self]
    exact keeps there
  · rw [Function.update_of_ne here]
    exact there

theorem hook_queue {gendisk : Gendisk} {fn : Option RequestFn} {bdOps : Option OpsPtr}
    (there : gendisk.makeRequestFn.isSome) :
    (gendisk.hook machine fn bdOps).makeRequestFn.isSome := by
  unfold Gendisk.hook
  cases machine.build with
  | hooked => exact there
  | submitBio => exact there
  | makeRequest =>
      by_cases given : fn.isSome
      · simp [given]
      · simp [given, there]

theorem unhook_queue {gendisk : Gendisk} {bdOps : Option OpsPtr}
    (there : gendisk.makeRequestFn.isSome) :
    (gendisk.unhook machine bdOps).makeRequestFn.isSome := by
  have put : gendisk.put.2.makeRequestFn = gendisk.makeRequestFn := by
    unfold Gendisk.put
    cases gendisk.tracking with
    | none => rfl
    | some tracking =>
        dsimp only
        split <;> rfl
  unfold Gendisk.unhook
  cases machine.build with
  | hooked => exact there
  | submitBio => exact there
  | makeRequest =>
      dsimp only
      split
      · rename_i given
        exact given
      · rw [put]
        exact there

theorem Hooks.queues {disk : Nat} (hooks : Hooks machine table bdev device after)
    (there : (table.disks disk).makeRequestFn.isSome) :
    (after.disks disk).makeRequestFn.isSome := by
  cases hooks with
  | legacy => exact setDisk_queue hook_queue there
  | shared => exact setDisk_queue hook_queue there
  | alone => exact setDisk_queue hook_queue there

theorem retained_queue {disk : Nat} (there : (table.disks disk).makeRequestFn.isSome) :
    ((table.retained machine bdev).disks disk).makeRequestFn.isSome := by
  unfold retained
  split
  · exact setDisk_queue (fun here => here) there
  · exact there

theorem putTracking_disks (table : TraceTable) (machine : Machine) (device : SnapDevice) :
    (table.putTracking machine device).disks = table.disks := by
  unfold putTracking
  split
  · rfl
  · cases device.sdTracingOps with
    | none => rfl
    | some address =>
        change (table.putOps address).disks = table.disks
        unfold putOps
        cases table.tracingOps address with
        | none => rfl
        | some ops =>
            dsimp only
            split <;> rfl

theorem Alike.slotted {device' : SnapDevice} (alike : Alike device device')
    (slotted : Slotted machine minor device) : Slotted machine minor device' where
  bound := slotted.bound
  sdMinor := alike.sdMinor.trans slotted.sdMinor
  sdBdevPath := alike.sdBdevPath ▸ slotted.sdBdevPath
  verified := by
    rw [alike.unverified, alike.sdOrigRequestFn, alike.sdBaseDev]
    exact slotted.verified
  waiting := by
    intro unverified
    have waits := slotted.waiting (alike.unverified ▸ unverified)
    constructor
    · exact alike.sdBaseDev.trans waits.sdBaseDev
    · rw [alike.sdBdevPath]
      exact waits.sdBdevPath
    · exact alike.sdOrigRequestFn.trans waits.sdOrigRequestFn
    · intro code
      exact alike.sdTracingOps.trans (waits.sdTracingOps (alike.sdFailCode code))

theorem Operation.formed {leaky : Prop} (operation : Operation machine leaky table after)
    (formed : table.Formed machine) : after.Formed machine := by
  cases operation with
  | @works minor device device' held alike =>
      apply formed.setSlot (alike.slotted (formed.slotted _ _ held))
      intro verified other kept away held' same
      rw [alike.unverified] at verified
      exact away (formed.apart other minor kept device held' ⟨held, verified⟩
        (same.trans alike.sdBaseDev))
  | registered bound free sdMinor unverified waiting =>
      apply formed.setSlot ⟨bound, sdMinor, waiting.sdBdevPath, by simp [unverified], fun _ => waiting⟩
      simp [unverified]
  | dropped held none => exact formed.clearSlot _
  | leaked _ residue => exact formed.of_slots residue.slots residue.queues
  | @started minor bdev device hooked bound free apart sdMinor verified base path hooks =>
      have slots := table.retained_slots machine bdev
      have retained : (table.retained machine bdev).Formed machine :=
        formed.of_slots slots fun _ => retained_queue
      have formed' : hooked.Formed machine := retained.of_slots hooks.slots fun _ => hooks.queues
      apply formed'.setSlot
      · constructor
        · exact bound
        · exact sdMinor
        · exact path
        · exact fun _ => ⟨bdev, base, hooks.origRequestFn retained⟩
        · simp [verified]
      · intro _ other kept _ held
        rw [base]
        apply apart other kept
        unfold Verified at held
        rw [hooks.slots, slots] at held
        exact held
  | @replaced minor bdev old device hooked held oldBase sdMinor verified base path hooks =>
      have slotted := formed.slotted _ _ held.1
      apply (formed.of_slots hooks.slots fun _ => hooks.queues).setSlot
      · constructor
        · exact slotted.bound
        · exact sdMinor
        · rw [path]
          exact slotted.sdBdevPath
        · exact fun _ => ⟨bdev, base, hooks.origRequestFn formed⟩
        · simp [verified]
      · intro _ other kept away held'
        unfold Verified at held'
        rw [hooks.slots] at held'
        intro same
        exact away (formed.apart other minor kept old held' held
          (same.trans (base.trans oldBase.symm)))
  | stopped held orig base reset =>
      apply (formed.clearSlot _).of_slots
      · rw [putTracking_slots]
        rfl
      · intro disk there
        rw [putTracking_disks]
        exact setDisk_queue unhook_queue there

theorem Formed.boot (machine : Machine) (files : CowPath → Option Cow.CowFile) :
    (machine.boot files).tracing.Formed machine := by
  constructor
  · intro minor device held
    exact absurd held (by simp [Kernel.tracing, Machine.boot])
  · intro disk there
    simpa [Kernel.tracing, Machine.boot, Machine.gendisk] using there
  · intro minor other device device' held
    exact absurd held.1 (by simp [Kernel.tracing, Machine.boot])

end TraceTable

end Moocbt.Driver
