import Moocbt.Driver.TraceTable

/-! A driver that hooks `submit_bio`: the devices that trace a disk share one copy of the
operations of its driver, and there is none where no device does. -/

namespace Moocbt.Driver

/-- The table of the driver of a disk. -/
def Machine.original (machine : Machine) (disk : Nat) : BlockDeviceOperations :=
  (machine.operations (machine.fops disk)).table

theorem Gendisk.hook_submitBio {machine : Machine} (modern : machine.build = .submitBio)
    (gendisk : Gendisk) (fn : Option RequestFn) (ops : OpsPtr) :
    gendisk.hook machine fn (some ops) = { gendisk with fops := ops } := by
  unfold Gendisk.hook
  rw [modern]
  rfl

namespace TraceTable

variable {machine : Machine} {table after : TraceTable} {minor bdev : Nat} {device : SnapDevice}
  {leaky : Prop}

/-- The device uses a copy of the operations of its disk. -/
structure Sharer (machine : Machine) (table : TraceTable) (bdev : Nat) (device : SnapDevice)
    (address : Address) (ops : TracingOps) : Prop where
  sdTracingOps : device.sdTracingOps = some address
  stored : table.tracingOps address = some ops
  fops : (table.disk machine bdev).fops = .copy ops.bdOps
  copy : table.copies ops.bdOps =
    some { machine.original (machine.bdDisk bdev) with submitBio := some .tracingFn }
  bdOps : device.bdOps = some (.driver (machine.fops (machine.bdDisk bdev)))
  sdOrigRequestFn : device.sdOrigRequestFn =
    some ((machine.original (machine.bdDisk bdev)).submitBio.getD .nullMrf)

/-- The verified device of a minor refers to this copy. -/
def refers (table : TraceTable) (address : Address) (minor : Nat) : Bool :=
  (table.slots minor).any fun device =>
    !device.unverified && decide (device.sdTracingOps = some address)

theorem refers_iff {address : Address} :
    table.refers address minor = true ↔
      ∃ device, table.Verified minor device ∧ device.sdTracingOps = some address := by
  unfold refers Verified
  cases table.slots minor <;> simp

def referrers (table : TraceTable) (machine : Machine) (address : Address) : Finset Nat :=
  (Finset.range machine.maxSnapDevices).filter fun minor => table.refers address minor = true

/-- Every verified device shares the one copy of its disk, which is referred to often enough,
and a disk without a verified device has the operations of its driver. -/
structure Shared (machine : Machine) (table : TraceTable) : Prop where
  sharers : ∀ minor device bdev, table.Verified minor device → device.sdBaseDev = some bdev →
    ∃ address ops, Sharer machine table bdev device address ops
  original : ∀ disk, (∀ minor device bdev, table.Verified minor device →
    device.sdBaseDev = some bdev → machine.bdDisk bdev ≠ disk) →
    (table.disks disk).fops = .driver (machine.fops disk)
  apart : ∀ disk other copy, (table.disks disk).fops = .copy copy →
    (table.disks other).fops = .copy copy → disk = other
  one : ∀ minor other device device' bdev bdev', table.Verified minor device →
    table.Verified other device' → device.sdBaseDev = some bdev → device'.sdBaseDev = some bdev' →
    machine.bdDisk bdev = machine.bdDisk bdev' → device.sdTracingOps = device'.sdTracingOps
  counted : ∀ address ops, table.tracingOps address = some ops →
    (table.referrers machine address).card ≤ ops.refs

theorem Shared.boot (machine : Machine) (files : CowPath → Option Cow.CowFile) :
    Shared machine (machine.boot files).tracing where
  sharers := fun _ _ _ held => nomatch held.1
  original := fun _ _ => rfl
  apart := fun _ _ _ copied => nomatch copied
  one := fun _ _ _ _ _ _ held => nomatch held.1
  counted := fun _ _ stored => nomatch stored

/-- A disk with a copy is traced. -/
theorem Shared.traced (shared : Shared machine table) {disk : Nat} {copy : Address}
    (copied : (table.disks disk).fops = .copy copy) :
    ∃ minor device bdev, table.Verified minor device ∧ device.sdBaseDev = some bdev ∧
      machine.bdDisk bdev = disk := by
  by_contra untraced
  have driver := shared.original disk fun minor device bdev held based same =>
    untraced ⟨minor, device, bdev, held, based, same⟩
  rw [copied] at driver
  contradiction

theorem referrers_mono {address : Address}
    (fewer : ∀ minor, after.refers address minor = true → table.refers address minor = true) :
    (after.referrers machine address).card ≤ (table.referrers machine address).card := by
  apply Finset.card_le_card
  intro minor member
  unfold referrers at *
  rw [Finset.mem_filter] at *
  exact ⟨member.1, fewer minor member.2⟩

theorem referrers_insert {address : Address}
    (more : ∀ other, after.refers address other = true →
      other = minor ∨ table.refers address other = true) :
    (after.referrers machine address).card ≤ (table.referrers machine address).card + 1 := by
  have inside : after.referrers machine address ⊆ insert minor (table.referrers machine address) := by
    intro other member
    unfold referrers at *
    rw [Finset.mem_filter] at member
    rw [Finset.mem_insert, Finset.mem_filter]
    exact (more other member.2).imp_right fun refers => ⟨member.1, refers⟩
  exact Nat.le_trans (Finset.card_le_card inside) (Finset.card_insert_le _ _)

theorem referrers_erase {address : Address} (bound : minor < machine.maxSnapDevices)
    (held : table.refers address minor = true)
    (fewer : ∀ other, after.refers address other = true →
      other ≠ minor ∧ table.refers address other = true) :
    (after.referrers machine address).card + 1 ≤ (table.referrers machine address).card := by
  have member : minor ∈ table.referrers machine address := by
    unfold referrers
    rw [Finset.mem_filter, Finset.mem_range]
    exact ⟨bound, held⟩
  have inside : after.referrers machine address ⊆ (table.referrers machine address).erase minor := by
    intro other member
    unfold referrers at *
    rw [Finset.mem_filter] at member
    rw [Finset.mem_erase, Finset.mem_filter]
    obtain ⟨away, refers⟩ := fewer other member.2
    exact ⟨away, member.1, refers⟩
  have fewer := Finset.card_le_card inside
  have positive : 0 < (table.referrers machine address).card := Finset.card_pos.mpr ⟨minor, member⟩
  rw [Finset.card_erase_of_mem member] at fewer
  omega

theorem Alike.refl (device : SnapDevice) : Alike device device :=
  ⟨rfl, rfl, rfl, rfl, rfl, rfl, rfl, id⟩

/-- The same devices are verified and the same disks hooked; references may have been added. -/
structure Similar (table after : TraceTable) : Prop where
  disks : after.disks = table.disks
  copies : ∀ copy ops, table.copies copy = some ops → after.copies copy = some ops
  tracingOps : ∀ address ops, table.tracingOps address = some ops →
    ∃ refs, ops.refs ≤ refs ∧ after.tracingOps address = some { ops with refs }
  earlier : ∀ minor device, after.Verified minor device →
    ∃ device', table.Verified minor device' ∧ Alike device' device
  later : ∀ minor device, table.Verified minor device →
    ∃ device', after.Verified minor device' ∧ Alike device device'

theorem Similar.setSlot {slot : Option SnapDevice}
    (earlier : ∀ device, slot = some device → device.unverified = false →
      ∃ device', table.slots minor = some device' ∧ device'.unverified = false ∧ Alike device' device)
    (later : ∀ device, table.slots minor = some device → device.unverified = false →
      ∃ device', slot = some device' ∧ device'.unverified = false ∧ Alike device device') :
    Similar table (table.setSlot minor slot) where
  disks := rfl
  copies := fun _ _ => id
  tracingOps := fun _ ops stored => ⟨ops.refs, Nat.le_refl _, stored⟩
  earlier := by
    intro other device held
    by_cases at_ : other = minor
    · subst at_
      have own : (table.setSlot other slot).slots other = slot := by
        unfold TraceTable.setSlot
        exact Function.update_self other slot table.slots
      obtain ⟨device', held', verified, alike⟩ := earlier device (own.symm.trans held.1) held.2
      exact ⟨device', ⟨held', verified⟩, alike⟩
    · exact ⟨device, ⟨(Function.update_of_ne at_ _ _).symm.trans held.1, held.2⟩, .refl device⟩
  later := by
    intro other device held
    by_cases at_ : other = minor
    · subst at_
      obtain ⟨device', held', verified, alike⟩ := later device held.1 held.2
      exact ⟨device', ⟨(Function.update_self _ _ _).trans held', verified⟩, alike⟩
    · exact ⟨device, ⟨(Function.update_of_ne at_ _ _).trans held.1, held.2⟩, .refl device⟩

theorem Sharer.kept {address : Address} {ops : TracingOps} {refs : Nat} {device' : SnapDevice}
    (sharer : Sharer machine table bdev device address ops) (alike : Alike device device')
    (fops : (after.disk machine bdev).fops = (table.disk machine bdev).fops)
    (copies : ∀ ops', table.copies ops.bdOps = some ops' → after.copies ops.bdOps = some ops')
    (stored : after.tracingOps address = some { ops with refs }) :
    Sharer machine after bdev device' address { ops with refs } where
  sdTracingOps := alike.sdTracingOps.trans sharer.sdTracingOps
  stored := stored
  fops := fops.trans sharer.fops
  copy := copies _ sharer.copy
  bdOps := alike.bdOps.trans sharer.bdOps
  sdOrigRequestFn := alike.sdOrigRequestFn.trans sharer.sdOrigRequestFn

/-- What no device refers to. -/
theorem Shared.unreferred {address : Address} (shared : Shared machine table)
    (formed : table.Formed machine) (free : table.tracingOps address = none) :
    (table.referrers machine address).card = 0 := by
  rw [Finset.card_eq_zero, referrers, Finset.filter_eq_empty_iff]
  intro minor _ refers
  obtain ⟨device, held, copy⟩ := refers_iff.mp refers
  obtain ⟨bdev, based⟩ := formed.verified held
  obtain ⟨address', ops, sharer⟩ := shared.sharers minor device bdev held based
  cases copy.symm.trans sharer.sdTracingOps
  rw [sharer.stored] at free
  contradiction

theorem Shared.similar (shared : Shared machine table) (formed : table.Formed machine)
    (similar : Similar table after) :
    Shared machine after := by
  constructor
  · intro minor device bdev held based
    obtain ⟨device', held', alike⟩ := similar.earlier minor device held
    obtain ⟨address, ops, sharer⟩ :=
      shared.sharers minor device' bdev held' (alike.sdBaseDev ▸ based)
    obtain ⟨refs, _, found⟩ := similar.tracingOps address ops sharer.stored
    refine ⟨address, _, sharer.kept alike ?_ (similar.copies ops.bdOps) found⟩
    unfold disk
    rw [similar.disks]
  · intro disk untraced
    rw [similar.disks]
    apply shared.original disk
    intro minor device bdev held based
    obtain ⟨device', held', alike⟩ := similar.later minor device held
    exact untraced minor device' bdev held' (alike.sdBaseDev.trans based)
  · rw [similar.disks]
    exact shared.apart
  · intro minor other device device' bdev bdev' held held' based based' same
    obtain ⟨before, verified, alike⟩ := similar.earlier minor device held
    obtain ⟨before', verified', alike'⟩ := similar.earlier other device' held'
    rw [alike.sdTracingOps, alike'.sdTracingOps]
    exact shared.one minor other before before' bdev bdev' verified verified'
      (alike.sdBaseDev ▸ based) (alike'.sdBaseDev ▸ based') same
  · intro address ops stored
    have fewer : ∀ minor, after.refers address minor = true → table.refers address minor = true := by
      intro minor refers
      obtain ⟨device, held, copy⟩ := refers_iff.mp refers
      obtain ⟨device', held', alike⟩ := similar.earlier minor device held
      exact refers_iff.mpr ⟨device', held', alike.sdTracingOps ▸ copy⟩
    apply Nat.le_trans (referrers_mono fewer)
    cases found : table.tracingOps address with
    | some ops' =>
        obtain ⟨refs, more, found'⟩ := similar.tracingOps address ops' found
        cases stored.symm.trans found'
        exact Nat.le_trans (shared.counted address ops' found) more
    | none =>
        rw [shared.unreferred formed found]
        exact Nat.zero_le _

/-- A device took a slot and shares the copy of its disk. -/
structure Joins (machine : Machine) (minor : Nat) (device : SnapDevice) (bdev : Nat)
    (address copy : Address) (table after : TraceTable) : Prop where
  slots : after.slots = Function.update table.slots minor (some device)
  fops : (after.disk machine bdev).fops = .copy copy
  away : ∀ disk, disk ≠ machine.bdDisk bdev →
    (after.disks disk).fops = (table.disks disk).fops ∧ (table.disks disk).fops ≠ .copy copy
  sharer : ∃ ops, Sharer machine after bdev device address ops
  kept : ∀ other device' bdev' address' ops, table.Verified other device' →
    Sharer machine table bdev' device' address' ops →
    ∃ ops, Sharer machine after bdev' device' address' ops
  mates : ∀ other device' bdev', table.Verified other device' → device'.sdBaseDev = some bdev' →
    machine.bdDisk bdev' = machine.bdDisk bdev → device'.sdTracingOps = some address
  here : ∀ ops, after.tracingOps address = some ops →
    (table.referrers machine address).card + 1 ≤ ops.refs
  there : ∀ address' ops, address' ≠ address → after.tracingOps address' = some ops →
    (table.referrers machine address').card ≤ ops.refs

theorem Shared.joins {address copy : Address} (shared : Shared machine table)
    (joins : Joins machine minor device bdev address copy table after)
    (replaces : ∀ device', table.Verified minor device' → device'.sdBaseDev = some bdev)
    (verified : device.unverified = false) (based : device.sdBaseDev = some bdev) :
    Shared machine after := by
  have slot : ∀ {other device'}, after.Verified other device' →
      other = minor ∧ device' = device ∨ other ≠ minor ∧ table.Verified other device' := by
    intro other device' held
    obtain ⟨slot, verified⟩ := held
    rw [joins.slots] at slot
    by_cases at_ : other = minor
    · rw [at_, Function.update_self] at slot
      exact .inl ⟨at_, (Option.some.inj slot).symm⟩
    · rw [Function.update_of_ne at_] at slot
      exact .inr ⟨at_, slot, verified⟩
  have entered : after.Verified minor device := by
    refine ⟨?_, verified⟩
    rw [joins.slots, Function.update_self]
  have sharer : device.sdTracingOps = some address := joins.sharer.elim fun _ => Sharer.sdTracingOps
  constructor
  · intro other device' bdev' held based'
    rcases slot held with ⟨_, same⟩ | ⟨_, before⟩
    · subst same
      cases based.symm.trans based'
      exact ⟨address, joins.sharer⟩
    · obtain ⟨address', ops, shares⟩ := shared.sharers other device' bdev' before based'
      exact ⟨address', joins.kept other device' bdev' address' ops before shares⟩
  · intro disk untraced
    have differs : disk ≠ machine.bdDisk bdev :=
      fun same => untraced minor device bdev entered based same.symm
    rw [(joins.away disk differs).1]
    apply shared.original disk
    intro other device' bdev' held based' same
    by_cases at_ : other = minor
    · subst at_
      cases (replaces device' held).symm.trans based'
      exact differs same.symm
    · apply untraced other device' bdev' ⟨?_, held.2⟩ based' same
      rw [joins.slots, Function.update_of_ne at_]
      exact held.1
  · intro disk other kept first second
    have own : ∀ disk, (after.disks disk).fops = .copy kept → disk = machine.bdDisk bdev ∧ kept = copy ∨
        disk ≠ machine.bdDisk bdev ∧ (table.disks disk).fops = .copy kept ∧ kept ≠ copy := by
      intro disk copied
      by_cases at_ : disk = machine.bdDisk bdev
      · subst at_
        have fops := joins.fops
        unfold TraceTable.disk at fops
        rw [copied] at fops
        cases fops
        exact .inl ⟨rfl, rfl⟩
      · obtain ⟨same, differs⟩ := joins.away disk at_
        rw [same] at copied
        refine .inr ⟨at_, copied, fun equal => differs (equal ▸ copied)⟩
    rcases own disk first with ⟨at_, same⟩ | ⟨_, copied, differs⟩
    · rcases own other second with ⟨at_', _⟩ | ⟨_, _, differs⟩
      · exact at_.trans at_'.symm
      · exact absurd same differs
    · rcases own other second with ⟨_, same⟩ | ⟨_, copied', _⟩
      · exact absurd same differs
      · exact shared.apart disk other kept copied copied'
  · intro first second device' device'' bdev' bdev'' held held' based' based'' same
    rcases slot held with ⟨_, at_⟩ | ⟨_, before⟩
    · subst at_
      cases based.symm.trans based'
      rcases slot held' with ⟨_, at_⟩ | ⟨_, before'⟩
      · rw [at_]
      · rw [sharer, joins.mates second device'' bdev'' before' based'' same.symm]
    · rcases slot held' with ⟨_, at_⟩ | ⟨_, before'⟩
      · subst at_
        cases based.symm.trans based''
        rw [sharer, joins.mates first device' bdev' before based' same]
      · exact shared.one first second device' device'' bdev' bdev'' before before' based' based'' same
  · intro address' ops stored
    by_cases at_ : address' = address
    · subst at_
      apply Nat.le_trans _ (joins.here ops stored)
      apply referrers_insert
      intro other refers
      obtain ⟨device', held, refers'⟩ := refers_iff.mp refers
      rcases slot held with ⟨same, _⟩ | ⟨_, before⟩
      · exact .inl same
      · exact .inr (refers_iff.mpr ⟨device', before, refers'⟩)
    · apply Nat.le_trans _ (joins.there address' ops at_ stored)
      apply referrers_mono
      intro other refers
      obtain ⟨device', held, refers'⟩ := refers_iff.mp refers
      rcases slot held with ⟨_, same⟩ | ⟨_, before⟩
      · subst same
        exact absurd (Option.some.inj (refers'.symm.trans sharer)) at_
      · exact refers_iff.mpr ⟨device', before, refers'⟩

/-- What a device finds on the disk: the operations of the driver, or those another device has
kept and the copy it refers to. -/
theorem Shared.finds {bdOps : Option OpsPtr} {orig : Option RequestFn} {trops : Option Address}
    (shared : Shared machine table) (took : OrigOps machine table bdev bdOps orig trops) :
    bdOps = some (.driver (machine.fops (machine.bdDisk bdev))) ∧
    orig = some ((machine.original (machine.bdDisk bdev)).submitBio.getD .nullMrf) ∧
    ((trops = none ∧ (table.disk machine bdev).fops = .driver (machine.fops (machine.bdDisk bdev))) ∨
      ∃ minor device base address ops, table.Verified minor device ∧
        device.sdBaseDev = some base ∧ machine.bdDisk base = machine.bdDisk bdev ∧
        trops = some address ∧ Sharer machine table base device address ops) := by
  cases took with
  | @untraced ops at_ untraced =>
      have driver : (table.disk machine bdev).fops = .driver (machine.fops (machine.bdDisk bdev)) := by
        apply shared.original
        intro minor device base held based same
        obtain ⟨address, kept, sharer⟩ := shared.sharers minor device base held based
        have fops := sharer.fops
        have copy := sharer.copy
        unfold TraceTable.disk at fops at_
        rw [same] at fops
        rw [fops] at at_
        cases copy.symm.trans at_
        exact untraced rfl
      rw [driver] at at_ ⊢
      cases at_
      exact ⟨rfl, rfl, .inl ⟨rfl, rfl⟩⟩
  | @traced minor base device ops at_ traced held based same =>
      obtain ⟨address, kept, sharer⟩ := shared.sharers minor device base held based
      have disk : machine.bdDisk base = machine.bdDisk bdev :=
        shared.apart _ _ _ sharer.fops (same.symm.trans sharer.fops)
      refine ⟨?_, ?_, .inr ⟨minor, device, base, address, kept, held, based, disk,
        sharer.sdTracingOps, sharer⟩⟩
      · rw [sharer.bdOps, disk]
      · rw [sharer.sdOrigRequestFn, disk]

/-- With the copy that others share. -/
theorem Shared.joins_others {other : Nat} {mate : SnapDevice} {base : Nat} {address : Address}
    {ops : TracingOps} (shared : Shared machine table) (held : table.Verified other mate)
    (based : mate.sdBaseDev = some base) (disk : machine.bdDisk base = machine.bdDisk bdev)
    (sharer : Sharer machine table base mate address ops)
    (refers : device.sdTracingOps = some address)
    (bdOps : device.bdOps = some (.driver (machine.fops (machine.bdDisk bdev))))
    (orig : device.sdOrigRequestFn =
      some ((machine.original (machine.bdDisk bdev)).submitBio.getD .nullMrf)) :
    Joins machine minor device bdev address ops.bdOps table
      (((table.setDisk machine bdev
        { table.disk machine bdev with fops := .copy ops.bdOps }).setOps address
          { ops with refs := ops.refs + 1 }).setSlot minor (some device)) := by
  have fops : (table.disk machine bdev).fops = .copy ops.bdOps := by
    have fops := sharer.fops
    unfold TraceTable.disk at *
    rw [← disk]
    exact fops
  have disks : ∀ bdev', (((table.setDisk machine bdev
      { table.disk machine bdev with fops := .copy ops.bdOps }).setOps address
        { ops with refs := ops.refs + 1 }).setSlot minor (some device)).disk machine bdev' =
      table.disk machine bdev' := by
    intro bdev'
    unfold TraceTable.disk setSlot setOps setDisk
    dsimp only
    by_cases here : machine.bdDisk bdev' = machine.bdDisk bdev
    · rw [here, Function.update_self]
      unfold TraceTable.disk at fops
      rw [← fops]
    · rw [Function.update_of_ne here]
  constructor
  · rfl
  · rw [disks]
    exact fops
  · intro other away
    constructor
    · exact congrArg Gendisk.fops (Function.update_of_ne away _ _)
    · exact fun copied => away (shared.apart other _ ops.bdOps copied fops)
  · refine ⟨{ ops with refs := ops.refs + 1 }, refers, Function.update_self _ _ _, ?_, ?_, bdOps, orig⟩
    · rw [disks]
      exact fops
    · rw [← disk]
      exact sharer.copy
  · intro other device' bdev' address' ops' _ shares
    by_cases here : address' = address
    · subst here
      cases sharer.stored.symm.trans shares.stored
      have now : (((table.setDisk machine bdev
          { table.disk machine bdev with fops := .copy ops.bdOps }).setOps address'
            { ops with refs := ops.refs + 1 }).setSlot minor (some device)).tracingOps address' =
          some { ops with refs := ops.refs + 1 } := Function.update_self _ _ _
      exact ⟨_, shares.kept (.refl device') (by rw [disks]) (fun _ => id) now⟩
    · exact ⟨ops', shares.kept (.refl device') (by rw [disks]) (fun _ => id)
        ((Function.update_of_ne here _ _).trans shares.stored)⟩
  · intro other device' bdev' held' based'' same
    rw [← sharer.sdTracingOps]
    exact shared.one _ _ device' mate bdev' base held' held based'' based (same.trans disk.symm)
  · intro ops' stored'
    cases (Function.update_self _ _ _).symm.trans stored'
    exact Nat.succ_le_succ (shared.counted address ops sharer.stored)
  · intro address' ops' away stored'
    exact shared.counted address' ops' ((Function.update_of_ne away _ _).symm.trans stored')

/-- With a copy of its own. -/
theorem Shared.joins_alone {address copy : Address} (shared : Shared machine table)
    (formed : table.Formed machine)
    (driver : (table.disk machine bdev).fops = .driver (machine.fops (machine.bdDisk bdev)))
    (free : table.copies copy = none) (unused : table.tracingOps address = none)
    (refers : device.sdTracingOps = some address)
    (bdOps : device.bdOps = some (.driver (machine.fops (machine.bdDisk bdev))))
    (orig : device.sdOrigRequestFn =
      some ((machine.original (machine.bdDisk bdev)).submitBio.getD .nullMrf)) :
    Joins machine minor device bdev address copy table
      (setSlot
        { ((table.setDisk machine bdev
            { table.disk machine bdev with fops := .copy copy }).setOps address ⟨copy, 1⟩) with
          copies := Function.update table.copies copy
            (some { machine.original (machine.bdDisk bdev) with submitBio := some .tracingFn }) }
        minor (some device)) := by
  have own : (Function.update table.disks (machine.bdDisk bdev)
      { table.disk machine bdev with fops := .copy copy }) (machine.bdDisk bdev) =
        { table.disk machine bdev with fops := .copy copy } := Function.update_self _ _ _
  have untraced : ∀ other device' bdev' address' ops', table.Verified other device' →
      Sharer machine table bdev' device' address' ops' →
      machine.bdDisk bdev' ≠ machine.bdDisk bdev := by
    intro other device' bdev' address' ops' _ sharer same
    have fops := sharer.fops
    unfold TraceTable.disk at *
    rw [same, driver] at fops
    contradiction
  constructor
  · rfl
  · exact congrArg Gendisk.fops own
  · intro disk away
    constructor
    · exact congrArg Gendisk.fops (Function.update_of_ne away _ _)
    · intro copied
      obtain ⟨other, device', bdev', held, based, same⟩ := shared.traced copied
      obtain ⟨address', ops, sharer⟩ := shared.sharers other device' bdev' held based
      have fops := sharer.fops
      unfold TraceTable.disk at fops
      rw [same, copied] at fops
      cases fops
      rw [sharer.copy] at free
      contradiction
  · exact ⟨⟨copy, 1⟩, refers, Function.update_self _ _ _, congrArg Gendisk.fops own,
      Function.update_self _ _ _, bdOps, orig⟩
  · intro other device' bdev' address' ops' held sharer
    have away := untraced other device' bdev' address' ops' held sharer
    have here : address' ≠ address := by
      intro same
      have stored := sharer.stored
      rw [same, unused] at stored
      contradiction
    have copies : ops'.bdOps ≠ copy := by
      intro same
      have copied := sharer.copy
      rw [same, free] at copied
      contradiction
    refine ⟨ops', sharer.kept (.refl device') ?_ ?_
      ((Function.update_of_ne here _ _).trans sharer.stored)⟩
    · exact congrArg Gendisk.fops (Function.update_of_ne away _ _)
    · exact fun _ stored => (Function.update_of_ne copies _ _).trans stored
  · intro other device' bdev' held based same
    obtain ⟨address', ops', sharer⟩ := shared.sharers other device' bdev' held based
    exact absurd same (untraced other device' bdev' address' ops' held sharer)
  · intro ops stored
    cases (Function.update_self _ _ _).symm.trans stored
    rw [shared.unreferred formed unused]
  · intro address' ops away stored
    exact shared.counted address' ops ((Function.update_of_ne away _ _).symm.trans stored)

/-- A device took a slot that was free or held one with its base device, and hooked the disk. -/
theorem Shared.entered {hooked : TraceTable} (modern : machine.build = .submitBio)
    (shared : Shared machine table) (formed : table.Formed machine)
    (replaces : ∀ device', table.Verified minor device' → device'.sdBaseDev = some bdev)
    (verified : device.unverified = false) (based : device.sdBaseDev = some bdev)
    (hooks : Hooks machine table bdev device hooked) :
    Shared machine (hooked.setSlot minor (some device)) := by
  cases hooks with
  | legacy legacy =>
      rw [modern] at legacy
      contradiction
  | @shared address ops _ took refers stored =>
      obtain ⟨bdOps, orig, found⟩ := shared.finds took
      rcases found with ⟨none, _⟩ | ⟨other, mate, base, _, _, held, based', disk, same, sharer⟩
      · contradiction
      · cases same
        cases stored.symm.trans sharer.stored
        rw [Gendisk.hook_submitBio modern]
        exact shared.joins (shared.joins_others held based' disk sharer refers bdOps orig) replaces
          verified based
  | @alone address copy ops _ took at_ free unused refers =>
      obtain ⟨bdOps, orig, found⟩ := shared.finds took
      rcases found with ⟨_, driver⟩ | ⟨_, _, _, _, _, _, _, _, some, _⟩
      · rw [driver] at at_
        cases at_
        rw [Gendisk.hook_submitBio modern, copied, if_pos modern]
        exact shared.joins (shared.joins_alone formed driver free unused refers bdOps orig) replaces
          verified based
      · contradiction

theorem Gendisk.unhook_submitBio (modern : machine.build = .submitBio) (gendisk : Gendisk)
    (bdOps : Option OpsPtr) :
    gendisk.unhook machine bdOps = { gendisk with fops := bdOps.getD gendisk.fops } := by
  unfold Gendisk.unhook
  rw [modern]

/-- The devices that stay when one leaves its slot. -/
theorem Verified.stays {other : Nat} {device' : SnapDevice}
    (slots : after.slots = Function.update table.slots minor none) :
    after.Verified other device' ↔ other ≠ minor ∧ table.Verified other device' := by
  unfold Verified
  rw [slots]
  by_cases at_ : other = minor
  · simp [at_]
  · simp [at_]

/-- What a device leaves behind that gives its reference back. -/
theorem putOps_spec {address : Address} {ops : TracingOps}
    (stored : table.tracingOps address = some ops) :
    (table.putOps address).disks = table.disks ∧ (table.putOps address).slots = table.slots ∧
    (∀ copy, copy ≠ ops.bdOps ∨ 1 < ops.refs →
      (table.putOps address).copies copy = table.copies copy) ∧
    (∀ other, other ≠ address → (table.putOps address).tracingOps other = table.tracingOps other) ∧
    (1 < ops.refs →
      (table.putOps address).tracingOps address = some { ops with refs := ops.refs - 1 }) ∧
    (∀ ops', (table.putOps address).tracingOps address = some ops' → ops'.refs = ops.refs - 1) := by
  unfold putOps
  rw [stored]
  dsimp only
  split
  · rename_i last
    refine ⟨rfl, rfl, ?_, ?_, ?_, ?_⟩
    · intro copy other
      exact Function.update_of_ne (other.resolve_right (by omega)) _ _
    · exact fun other away => Function.update_of_ne away _ _
    · omega
    · intro ops' found
      exact absurd ((Function.update_self _ _ _).symm.trans found) (by simp)
  · refine ⟨rfl, rfl, fun _ _ => rfl, ?_, ?_, ?_⟩
    · exact fun other away => Function.update_of_ne away _ _
    · exact fun _ => Function.update_self _ _ _
    · intro ops' found
      cases (Function.update_self _ _ _).symm.trans found
      rfl

theorem Shared.stopped {reset : Bool} (modern : machine.build = .submitBio)
    (shared : Shared machine table) (formed : table.Formed machine)
    (held : table.Verified minor device) (based : device.sdBaseDev = some bdev)
    (alone : reset = true ↔ Alone machine table minor bdev) :
    Shared machine
      (((table.setDisk machine bdev
        ((table.disk machine bdev).unhook machine (if reset then device.bdOps else none))).setSlot
          minor none).putTracking machine device) := by
  obtain ⟨address, ops, sharer⟩ := shared.sharers minor device bdev held based
  rw [Gendisk.unhook_submitBio modern, putTracking, if_neg (by simp [modern]), sharer.sdTracingOps]
  let left := (table.setDisk machine bdev
    { table.disk machine bdev with
      fops := (if reset then device.bdOps else none).getD (table.disk machine bdev).fops }).setSlot
    minor none
  have stored : left.tracingOps address = some ops := sharer.stored
  obtain ⟨disks, slots, copies, others, more, fewer⟩ := putOps_spec stored
  change Shared machine (left.putOps address)
  have slots' : (left.putOps address).slots = Function.update table.slots minor none := slots
  have away : ∀ disk, disk ≠ machine.bdDisk bdev →
      (left.putOps address).disks disk = table.disks disk := by
    intro disk apart
    rw [disks]
    exact Function.update_of_ne apart _ _
  have here : (left.putOps address).disks (machine.bdDisk bdev) =
      { table.disk machine bdev with
        fops := (if reset then device.bdOps else none).getD (table.disk machine bdev).fops } := by
    rw [disks]
    exact Function.update_self _ _ _
  have refers : table.refers address minor = true :=
    refers_iff.mpr ⟨device, held, sharer.sdTracingOps⟩
  have narrower : ∀ address' other, (left.putOps address).refers address' other = true →
      other ≠ minor ∧ table.refers address' other = true := by
    intro address' other refers
    obtain ⟨device', held', copy⟩ := refers_iff.mp refers
    obtain ⟨apart, before⟩ := (Verified.stays slots').mp held'
    exact ⟨apart, refers_iff.mpr ⟨device', before, copy⟩⟩
  have fewer' : ((left.putOps address).referrers machine address).card + 1 ≤ ops.refs :=
    Nat.le_trans (referrers_erase (formed.slotted minor device held.1).bound refers (narrower address))
      (shared.counted address ops sharer.stored)
  -- Another device on the disk keeps it hooked, and its reference.
  have mates : ∀ other device' bdev', other ≠ minor → table.Verified other device' →
      device'.sdBaseDev = some bdev' → machine.bdDisk bdev' = machine.bdDisk bdev →
      reset = false ∧ 1 < ops.refs := by
    intro other device' bdev' apart held' based' same
    obtain ⟨address', ops', sharer'⟩ := shared.sharers other device' bdev' held' based'
    constructor
    · rw [← Bool.not_eq_true, alone]
      intro none
      apply none other device' bdev' apart held' based'
      unfold TraceTable.disk
      rw [same]
    · have one := shared.one other minor device' device bdev' bdev held' held based' based same
      have remains : (left.putOps address).refers address other = true :=
        refers_iff.mpr ⟨device', (Verified.stays slots').mpr ⟨apart, held'⟩,
          one.trans sharer.sdTracingOps⟩
      have member : other ∈ (left.putOps address).referrers machine address := by
        unfold referrers
        rw [Finset.mem_filter, Finset.mem_range]
        exact ⟨(formed.slotted other device' held'.1).bound, remains⟩
      have positive := Finset.card_pos.mpr ⟨other, member⟩
      omega
  have kept : ∀ disk copy, ((left.putOps address).disks disk).fops = .copy copy →
      (table.disks disk).fops = .copy copy := by
    intro disk copy copied
    by_cases at_ : disk = machine.bdDisk bdev
    · subst at_
      rw [here] at copied
      cases reset with
      | true =>
          simp only [if_true, sharer.bdOps, Option.getD_some] at copied
          contradiction
      | false => exact copied
    · rw [away disk at_] at copied
      exact copied
  constructor
  · intro other device' bdev' held' based'
    obtain ⟨apart, before⟩ := (Verified.stays slots').mp held'
    obtain ⟨address', ops', sharer'⟩ := shared.sharers other device' bdev' before based'
    by_cases disk : machine.bdDisk bdev' = machine.bdDisk bdev
    · obtain ⟨unset, several⟩ := mates other device' bdev' apart before based' disk
      have one := shared.one other minor device' device bdev' bdev before held based' based disk
      rw [sharer'.sdTracingOps, sharer.sdTracingOps] at one
      cases one
      cases sharer.stored.symm.trans sharer'.stored
      refine ⟨address, _, sharer'.kept (.refl device') ?_ ?_ (more several)⟩
      · unfold TraceTable.disk
        rw [disk, here, unset]
        rfl
      · rw [copies _ (.inr several)]
        exact fun _ => id
    · have differs : ops'.bdOps ≠ ops.bdOps := by
        intro same
        have fops := sharer'.fops
        rw [same] at fops
        exact disk (shared.apart _ _ _ fops sharer.fops)
      have apart' : address' ≠ address := by
        intro same
        subst same
        cases sharer.stored.symm.trans sharer'.stored
        exact differs rfl
      refine ⟨address', ops', sharer'.kept (.refl device') ?_ ?_ ?_⟩
      · exact congrArg Gendisk.fops (away _ disk)
      · rw [copies _ (.inl differs)]
        exact fun _ => id
      · rw [others address' apart']
        exact sharer'.stored
  · intro disk untraced
    by_cases at_ : disk = machine.bdDisk bdev
    · subst at_
      have none : reset = true := by
        rw [alone]
        intro other device' base apart held' based' same
        have copied : (table.disks (machine.bdDisk base)).fops = .copy ops.bdOps :=
          same.trans sharer.fops
        exact untraced other device' base ((Verified.stays slots').mpr ⟨apart, held'⟩) based'
          (shared.apart _ _ _ copied sharer.fops)
      rw [here, none, if_pos rfl, sharer.bdOps]
      rfl
    · rw [away disk at_]
      apply shared.original disk
      intro other device' bdev' held' based' same
      have apart : other ≠ minor := by
        intro equal
        subst equal
        cases held.1.symm.trans held'.1
        cases based.symm.trans based'
        exact at_ same.symm
      exact untraced other device' bdev' ((Verified.stays slots').mpr ⟨apart, held'⟩) based' same
  · exact fun disk other copy first second =>
      shared.apart disk other copy (kept disk copy first) (kept other copy second)
  · intro first second device' device'' bdev' bdev'' held' held'' based' based'' same
    exact shared.one first second device' device'' bdev' bdev'' ((Verified.stays slots').mp held').2
      ((Verified.stays slots').mp held'').2 based' based'' same
  · intro address' ops' stored'
    by_cases at_ : address' = address
    · subst at_
      have less := fewer ops' stored'
      omega
    · rw [others address' at_] at stored'
      apply Nat.le_trans _ (shared.counted address' ops' stored')
      exact referrers_mono fun other refers => (narrower address' other refers).2

/-- Operations of the driver keep the copies shared. -/
theorem Operation.shared (modern : machine.build = .submitBio) (formed : table.Formed machine)
    (shared : Shared machine table) (operation : Operation machine leaky table after) :
    Shared machine after := by
  cases operation with
  | @works minor device device' held alike =>
      apply shared.similar formed
      apply Similar.setSlot
      · intro after same verified
        cases same
        exact ⟨device, held, alike.unverified ▸ verified, alike⟩
      · intro before held' verified
        cases held.symm.trans held'
        exact ⟨device', rfl, alike.unverified.trans verified, alike⟩
  | @registered minor device bound free sdMinor unverified waiting =>
      apply shared.similar formed
      apply Similar.setSlot
      · intro after same verified
        cases same
        rw [unverified] at verified
        contradiction
      · intro before held _
        exact absurd (free.symm.trans held) (by simp)
  | @dropped minor device held none =>
      apply shared.similar formed
      apply Similar.setSlot
      · exact fun _ same => nomatch same
      · intro before held' verified
        obtain ⟨bdev, based⟩ := formed.verified ⟨held', verified⟩
        have traces := formed.origRequestFn ⟨held', verified⟩ based fun legacy =>
          absurd (modern.symm.trans legacy) (by decide)
        cases held.symm.trans held'
        rw [none] at traces
        contradiction
  | leaked _ residue =>
      apply shared.similar formed
      have same : ∀ {minor device}, after.Verified minor device ↔ table.Verified minor device := by
        intro minor device
        unfold Verified
        rw [residue.slots]
      exact ⟨residue.disks (by simp [modern]), residue.copies, residue.tracingOps,
        fun _ device held => ⟨device, same.mp held, .refl device⟩,
        fun _ device held => ⟨device, same.mpr held, .refl device⟩⟩
  | @started minor bdev device hooked bound free apart sdMinor verified based path hooks =>
      rw [retained, if_neg (by simp [modern])] at hooks
      apply shared.entered modern formed _ verified based hooks
      intro device' held
      exact absurd (free.symm.trans held.1) (by simp)
  | @replaced minor bdev old device hooked held based sdMinor verified based' path hooks =>
      apply shared.entered modern formed _ verified based' hooks
      intro device' held'
      cases held.1.symm.trans held'.1
      exact based
  | @stopped minor bdev device reset held orig based alone =>
      have verified : device.unverified = false := by
        rw [← Bool.not_eq_true]
        intro unverified
        rw [((formed.slotted minor device held).waiting unverified).sdOrigRequestFn] at orig
        contradiction
      exact shared.stopped modern formed ⟨held, verified⟩ based (alone (by simp [modern]))

end TraceTable

end Moocbt.Driver
