import Moocbt.Data.RefCount
import Moocbt.Driver.Setup

/-! What is in order between two events, whatever failed on the way: the range of the minors in
use, where the devices of the table belong, and who refers to the copies of operations. -/

namespace Moocbt.Driver

open Cow (Errno Stop)
open Program
open Occupancy (Bounds)

variable {α : Type} {machine : Machine} {kernel before after : Kernel} {dev : Address}
  {device : SnapDevice} {bdev minor : Nat} {terms : Terms} {busy : Address → Prop}

/-- The copy of operations a device refers to, and how often each is referred to. -/
def Kernel.heldOps (kernel : Kernel) (dev : Address) : Option Address :=
  (kernel.devices dev).bind SnapDevice.sdTracingOps

def Kernel.opsRefs (kernel : Kernel) (address : Address) : Option Nat :=
  (kernel.tracingOps address).map TracingOps.refs

/-- Each copy is counted by the devices that refer to it, and is there as long as one does. -/
abbrev Kernel.Counted (kernel : Kernel) : Prop :=
  RefCount.Counted kernel.heldOps kernel.fresh kernel.opsRefs

/-- The range of the minors in use. -/
abbrev Kernel.RangeExact (machine : Machine) (kernel : Kernel) : Prop :=
  Bounds kernel.snapDevices machine.maxSnapDevices kernel.lowestMinor kernel.highestMinor

/-- A device of the table that is not being worked on. -/
structure Settled (machine : Machine) (minor : Nat) (device : SnapDevice) : Prop where
  sdMinor : device.sdMinor = minor
  tracing : machine.build ≠ .makeRequest → device.unverified = false →
    device.sdTracingOps.isSome ∧ device.sdOrigRequestFn.isSome

/-- A device that waits for its block device. -/
structure Paused (device : SnapDevice) : Prop where
  active : device.active = false
  sdOrigRequestFn : device.sdOrigRequestFn = none
  sdTracingOps : device.sdFailCode = none → device.sdTracingOps = none

/-- What more is asked of the steps: that they give back references to copies of operations, and
that they leave no device that was freed in its slot. -/
structure Terms where
  refs : Prop
  live : Prop

/-- Between two steps, but for the devices that are being worked on. -/
structure Kernel.Orderly (machine : Machine) (terms : Terms) (busy : Address → Prop)
    (kernel : Kernel) : Prop where
  range : kernel.RangeExact machine
  slots : ∀ minor dev, kernel.snapDevices minor = some dev → dev < kernel.fresh
  devices : ∀ dev device, kernel.devices dev = some device → dev < kernel.fresh
  settled : ∀ minor dev device, kernel.Holds minor dev device → ¬ busy dev →
    Settled machine minor device
  paused : ∀ dev device, kernel.devices dev = some device → ¬ busy dev →
    device.unverified = true → Paused device
  unallocated : kernel.Unallocated
  drivers : machine.build = .hooked → ∀ disk, ∃ ops, (kernel.disks disk).fops = .driver ops
  counted : terms.refs → machine.build ≠ .makeRequest → kernel.Counted
  live : terms.live → ∀ minor dev, kernel.snapDevices minor = some dev →
    (kernel.devices dev).isSome

theorem Kernel.Orderly.boot (machine : Machine) (files : CowPath → Option Cow.CowFile) :
    (machine.boot files).Orderly machine terms busy where
  range := Bounds.empty fun _ => rfl
  slots := fun _ _ held => nomatch held
  devices := fun _ _ found => nomatch found
  settled := fun _ _ _ held => nomatch held.1
  paused := fun _ _ found => nomatch found
  unallocated := fun _ _ => ⟨rfl, rfl⟩
  drivers := fun _ disk => ⟨machine.fops disk, rfl⟩
  counted := fun _ _ => .empty (fun _ => rfl) fun _ => rfl
  live := fun _ _ _ held => nomatch held

theorem Kernel.occupied {kernel : Kernel} (held : kernel.snapDevices minor = some dev) :
    minor ∈ Occupancy.Occupied kernel.snapDevices := by
  change (kernel.snapDevices minor).isSome = true
  simp [held]

namespace Kernel.Orderly

theorem bounded (orderly : kernel.Orderly machine terms busy)
    (held : kernel.snapDevices minor = some dev) : minor < machine.maxSnapDevices :=
  orderly.range.within minor (Kernel.occupied held)

theorem inRange (orderly : kernel.Orderly machine terms busy) : kernel.InRange := by
  intro minor dev held
  have occupied := Kernel.occupied held
  obtain ⟨least, greatest⟩ := orderly.range.inUse ⟨minor, occupied⟩
  exact ⟨least.2 occupied, greatest.2 occupied⟩

theorem weaken {busy' : Address → Prop} (orderly : kernel.Orderly machine terms busy)
    (fewer : ∀ dev, busy dev → busy' dev) : kernel.Orderly machine terms busy' :=
  { orderly with
    settled := fun minor dev device held idle =>
      orderly.settled minor dev device held fun is => idle (fewer dev is)
    paused := fun dev device found idle =>
      orderly.paused dev device found fun is => idle (fewer dev is) }

/-- A device that is in the table is in one slot. -/
theorem apart (orderly : kernel.Orderly machine terms busy) (held : kernel.Holds minor dev device)
    (idle : ¬ busy dev) {other : Nat} (slot : kernel.snapDevices other = some dev) :
    other = minor := by
  have here := (orderly.settled minor dev device held idle).sdMinor
  have there := (orderly.settled other dev device ⟨slot, held.2⟩ idle).sdMinor
  exact there.symm.trans here

end Kernel.Orderly

/-- A step that concerns one device leaves the rest in order. -/
theorem Kernel.Orderly.elsewhere {paths : CowPath → Prop}
    (orderly : before.Orderly machine terms busy) (elsewhere : Elsewhere dev paths before after)
    (known : dev < before.fresh) (kept : (after.devices dev).isSome)
    (same : after.heldOps dev = before.heldOps dev)
    (settled : ∀ minor device, after.Holds minor dev device → ¬ busy dev →
      Settled machine minor device)
    (paused : ∀ device, after.devices dev = some device → ¬ busy dev →
      device.unverified = true → Paused device) : after.Orderly machine terms busy where
  range := by
    unfold Kernel.RangeExact
    rw [elsewhere.table, elsewhere.lowest, elsewhere.highest]
    exact orderly.range
  slots := by
    intro minor other slot
    rw [elsewhere.table] at slot
    exact Nat.lt_of_lt_of_le (orderly.slots minor other slot) elsewhere.fresh
  devices := by
    intro other device found
    by_cases here : other = dev
    · subst here
      exact Nat.lt_of_lt_of_le known elsewhere.fresh
    · rw [elsewhere.devices other here] at found
      exact Nat.lt_of_lt_of_le (orderly.devices other device found) elsewhere.fresh
  settled := by
    intro minor other device held idle
    by_cases here : other = dev
    · subst here
      exact settled minor device held idle
    · apply orderly.settled minor other device _ idle
      exact ⟨(congrFun elsewhere.table minor).symm.trans held.1,
        (elsewhere.devices other here).symm.trans held.2⟩
  paused := by
    intro other device found idle
    by_cases here : other = dev
    · subst here
      exact paused device found idle
    · rw [elsewhere.devices other here] at found
      exact orderly.paused other device found idle
  unallocated := elsewhere.unallocated orderly.unallocated
  drivers := by
    rw [elsewhere.disks]
    exact orderly.drivers
  counted := by
    intro is modern
    apply (orderly.counted is modern).congr _ _ elsewhere.fresh
    · funext other
      by_cases here : other = dev
      · subst here
        exact same
      · unfold Kernel.heldOps
        rw [elsewhere.devices other here]
    · unfold Kernel.opsRefs
      rw [elsewhere.tracingOps]
  live := by
    intro is minor other slot
    by_cases here : other = dev
    · rw [here]
      exact kept
    · rw [elsewhere.devices other here]
      apply orderly.live is minor
      rw [← elsewhere.table]
      exact slot

/-- The range is computed anew after a device has changed, and has perhaps left its slot. -/
theorem Kernel.Orderly.recalculated (orderly : before.Orderly machine terms busy)
    (known : dev < before.fresh) (only : ∀ other, busy other → other = dev)
    (others : ∀ other, other ≠ dev → after.devices other = before.devices other)
    (table : ∀ other kept, after.snapDevices other = some kept →
      before.snapDevices other = some kept)
    (fresh : before.fresh ≤ after.fresh) (unallocated : after.Unallocated)
    (drivers : machine.build = .hooked → ∀ disk, ∃ ops, (after.disks disk).fops = .driver ops)
    (counted : terms.refs → machine.build ≠ .makeRequest → after.Counted)
    (kept : (after.devices dev).isSome) :
    (after.recalculated machine).Orderly machine terms (· = dev) where
  range := by
    apply Bounds.recalculated
    intro other occupied
    obtain ⟨kept, slot⟩ := Option.isSome_iff_exists.mp
      (show (after.snapDevices other).isSome = true from occupied)
    exact orderly.bounded (table other kept slot)
  slots := fun other kept slot =>
    Nat.lt_of_lt_of_le (orderly.slots other kept (table other kept slot)) fresh
  devices := by
    intro other kept there
    apply Nat.lt_of_lt_of_le _ fresh
    by_cases here : other = dev
    · rw [here]
      exact known
    · exact orderly.devices other kept ((others other here).symm.trans there)
  settled := fun other kept keeps slot away =>
    orderly.settled other kept keeps
      ⟨table other kept slot.1, (others kept away).symm.trans slot.2⟩ fun is => away (only kept is)
  paused := fun other keeps there away =>
    orderly.paused other keeps ((others other away).symm.trans there) fun is => away (only other is)
  unallocated := unallocated
  drivers := drivers
  counted := counted
  live := by
    intro is minor other slot
    by_cases here : other = dev
    · rw [here]
      exact kept
    · exact (congrArg Option.isSome (others other here)).trans
        (orderly.live is minor other (table minor other slot))

/-- A device in no slot is being worked on. -/
structure Off (machine : Machine) (terms : Terms) (before : Kernel) (dev : Address)
    (trops : Option Address) (good : SnapDevice → Prop) (kernel : Kernel) : Prop where
  mounted : kernel.mounted = before.mounted
  faults : kernel.faults = before.faults
  table : kernel.snapDevices = before.snapDevices
  others : ∀ other, other ≠ dev → kernel.devices other = before.devices other
  orderly : kernel.Orderly machine terms (· = dev)
  outside : kernel.Outside dev
  device : ∃ device, kernel.devices dev = some device ∧ device.sdTracingOps = trops ∧ good device

namespace Off

variable {trops : Option Address} {good : SnapDevice → Prop}

theorem weaken {better : SnapDevice → Prop} (here : Off machine terms before dev trops better kernel)
    (weaker : ∀ device, better device → good device) :
    Off machine terms before dev trops good kernel :=
  { here with
    device := by
      obtain ⟨device, found, refers, holds⟩ := here.device
      exact ⟨device, found, refers, weaker device holds⟩ }

theorem next {good' : SnapDevice → Prop} (here : Off machine terms before dev trops good kernel)
    (there : Local dev (fun _ => True) kernel
      (fun after => after.sdTracingOps = trops ∧ good' after) after) :
    Off machine terms before dev trops good' after := by
  obtain ⟨device, found, refers, _⟩ := here.device
  obtain ⟨device', found', _, refers', holds'⟩ := there.device
  constructor
  · exact there.elsewhere.mounted.trans here.mounted
  · exact there.elsewhere.faults.trans here.faults
  · exact there.elsewhere.table.trans here.table
  · exact fun other away => (there.elsewhere.devices other away).trans (here.others other away)
  · apply here.orderly.elsewhere there.elsewhere (here.orderly.devices dev device found)
    · simp [found']
    · simp [Kernel.heldOps, found, found', refers, refers']
    · exact fun _ _ _ idle => absurd rfl idle
    · exact fun _ _ idle => absurd rfl idle
  · exact here.outside.unchanged there.elsewhere.table
  · exact ⟨device', found', refers', holds'⟩

/-- The device goes on with what concerns it alone. -/
theorem step {program : KernelM α} {done : α → SnapDevice → Prop}
    {stopped : Stop → SnapDevice → Prop} (here : Off machine terms before dev trops good kernel)
    (concerns : ∀ device, device.sdTracingOps = trops → good device →
      Concerns dev (fun _ => True) device program
        (fun value after => after.sdTracingOps = trops ∧ done value after)
        (fun reason after => after.sdTracingOps = trops ∧ stopped reason after)) :
    wp program (fun value => Off machine terms before dev trops (done value))
      (fun reason => Off machine terms before dev trops (stopped reason)) kernel := by
  obtain ⟨device, found, refers, holds⟩ := here.device
  apply wp_mono (concerns device refers holds kernel found fun _ _ _ _ => trivial)
  · exact fun _ _ there => here.next there
  · exact fun _ _ there => here.next there

/-- Whatever a stopped program leaves. -/
theorem goesOn {program : KernelM α} {done : α → SnapDevice → Prop}
    (here : Off machine terms before dev trops good kernel)
    (concerns : ∀ device, device.sdTracingOps = trops → good device →
      Concerns dev (fun _ => True) device program
        (fun value after => after.sdTracingOps = trops ∧ done value after) (fun _ _ => True)) :
    wp program (fun value => Off machine terms before dev trops (done value)) (fun _ _ => True)
      kernel := by
  obtain ⟨device, found, refers, holds⟩ := here.device
  apply wp_mono (concerns device refers holds kernel found fun _ _ _ _ => trivial)
  · exact fun _ _ there => here.next there
  · exact fun _ _ _ => trivial

end Off

section joining

/-- A driver that hooks a function of the kernel finds no copy to share. -/
theorem Kernel.Orderly.unshared {bdOps : Option OpsPtr} {orig : Option RequestFn}
    {trops : Option Address} (orderly : kernel.Orderly machine terms busy)
    (hooked : machine.build = .hooked)
    (took : TraceTable.OrigOps machine kernel.tracing bdev bdOps orig trops) : trops = none := by
  cases took with
  | untraced => rfl
  | traced stored traced =>
      obtain ⟨table, driver⟩ := orderly.drivers hooked (machine.bdDisk bdev)
      have stored' : kernel.tracing.opsAt machine (.driver table) = some _ := driver ▸ stored
      cases stored'
      exact absurd traced (machine.operations table).untraced

theorem Acquired.counted {copy : Address} {middle : Kernel} (counted : kernel.Counted)
    (known : dev < kernel.fresh) (found : kernel.devices dev = some device)
    (without : device.sdTracingOps = none) (unallocated : kernel.Unallocated)
    (acquired : Acquired machine kernel dev device bdev copy middle) : middle.Counted := by
  have free : kernel.heldOps dev = none := by simp [Kernel.heldOps, found, without]
  have held : ∀ {middle : Kernel} {device' : SnapDevice} {address : Address},
      device'.sdTracingOps = some address → middle.devices = kernel.devices →
      (middle.setDev dev device').heldOps =
        Function.update kernel.heldOps dev (some address) := by
    intro middle device' address refers same
    funext other
    by_cases here : other = dev
    · subst here
      simp [Kernel.heldOps, refers]
    · rw [Function.update_of_ne here]
      unfold Kernel.heldOps
      rw [show (middle.setDev dev device').devices other = middle.devices other from
        Function.update_of_ne here _ _, same]
  have more : ∀ address, RefCount.Counted (Function.update kernel.heldOps dev (some address))
      kernel.fresh (Function.update kernel.opsRefs address
        (some ((kernel.opsRefs address).getD 0 + 1))) := fun _ => counted.take free known
  cases acquired with
  | @shared bdOps orig address ops took stored =>
      apply (more address).congr (held rfl rfl) _ (Nat.le_refl _)
      funext other
      by_cases here : other = address
      · subst here
        simp [Kernel.opsRefs, Kernel.setDev, Kernel.setOps, stored]
      · simp [Kernel.opsRefs, Kernel.setDev, Kernel.setOps, here]
  | @alone bdOps orig ops granted took stored =>
      apply (more kernel.fresh).congr (held rfl rfl) _ (Nat.le_add_right _ _)
      funext other
      by_cases here : other = kernel.fresh
      · subst here
        simp [Kernel.opsRefs, Kernel.setDev, Kernel.alloc,
          (unallocated kernel.fresh (Nat.le_refl _)).2]
      · simp [Kernel.opsRefs, Kernel.setDev, Kernel.alloc, here]

theorem Kernel.Counted.of_same (counted : kernel.Counted) (changed : Kernel)
    (others : ∀ other, other ≠ dev → changed.devices other = kernel.devices other)
    (same : changed.heldOps dev = kernel.heldOps dev)
    (tracingOps : changed.tracingOps = kernel.tracingOps) (fresh : kernel.fresh ≤ changed.fresh) :
    changed.Counted := by
  apply counted.congr _ _ fresh
  · funext other
    by_cases here : other = dev
    · subst here
      exact same
    · unfold Kernel.heldOps
      rw [others other here]
  · unfold Kernel.opsRefs
    rw [tracingOps]

/-- Where there is nothing to share, a copy was allocated. -/
theorem Acquired.granted {copy : Address} {middle : Kernel}
    (acquired : Acquired machine kernel dev device bdev copy middle)
    (unshared : machine.build = .hooked → ∀ bdOps orig trops,
      TraceTable.OrigOps machine kernel.tracing bdev bdOps orig trops → trops = none)
    (build : machine.build = .hooked) : kernel.faults .tracingOps = none := by
  cases acquired with
  | shared took _ => exact absurd (unshared build _ _ _ took) (by simp)
  | alone granted => exact granted

/-- What hooking the disk does to the references. -/
theorem injectTracing_counts (range : kernel.InRange) (unallocated : kernel.Unallocated)
    (outside : kernel.Outside dev) (found : kernel.devices dev = some device)
    (based : device.sdBaseDev = some bdev) (without : device.sdTracingOps = none)
    (known : dev < kernel.fresh)
    (unshared : machine.build = .hooked → ∀ bdOps orig trops,
      TraceTable.OrigOps machine kernel.tracing bdev bdOps orig trops → trops = none) :
    wp (injectTracing machine dev minor)
      (fun _ after => Hooked machine dev device bdev minor kernel after ∧
        (machine.build = .hooked → kernel.faults .tracingOps = none) ∧
        (machine.build ≠ .makeRequest → kernel.Counted → after.Counted))
      (OnError fun after => Unhooked machine dev device bdev kernel after ∧
        (machine.build ≠ .makeRequest → after.heldOps dev ≠ none →
          (kernel.mounted bdev = .unmounted ∨ machine.freezing kernel.faults ≠ none) ∧
          (machine.build = .hooked → kernel.faults .tracingOps = none)) ∧
        (machine.build ≠ .makeRequest → kernel.Counted → after.Counted)) kernel := by
  by_cases legacy : machine.build = .makeRequest
  · apply wp_mono (injectTracing_legacy legacy range unallocated outside found based)
    · exact fun _ _ hooked =>
        ⟨hooked, fun build => absurd (legacy.symm.trans build) (by simp), (absurd legacy ·)⟩
    · exact fun _ _ failed => failed.mono fun _ unhooked =>
        ⟨unhooked, (absurd legacy ·), (absurd legacy ·)⟩
  · apply wp_mono (injectTracing_acquires legacy range outside found based without)
    · intro _ after acquires
      obtain ⟨copy, middle, device', acquired, found', same⟩ := acquires
      subst same
      refine ⟨acquired.hooked outside legacy unallocated found', acquired.granted unshared, ?_⟩
      · intro _ counted
        apply (acquired.counted counted known found without unallocated).of_same (middle.started ..)
        · exact fun other away => Function.update_of_ne away _ _
        · simp [Kernel.heldOps, Kernel.started, found']
        · rfl
        · exact Nat.le_refl _
    · intro reason after failed error same
      rcases failed error same with ⟨copy, acquired, why⟩ | ⟨bdOps, orig, left, why⟩
      · refine ⟨⟨acquired.preparing outside unallocated, acquired.references legacy unallocated why,
          (absurd · legacy)⟩, fun _ _ => ⟨why, acquired.granted unshared⟩, ?_⟩
        exact fun _ counted => acquired.counted counted known found without unallocated
      · subst left
        have held : (kernel.setDev dev (device.traces bdOps orig none)).heldOps dev = none := by
          simp [Kernel.heldOps, SnapDevice.traces]
        refine ⟨⟨.of_copies outside (Residue.refl machine kernel.tracing) unallocated
          (Nat.le_refl _) rfl, .kept (fun _ _ => id) (.inr ?_), (absurd · legacy)⟩, ?_, ?_⟩
        · rcases why with took | nobody
          · exact .inr took
          · exact .inl nobody
        · exact fun _ has => absurd held has
        · intro _ counted
          apply counted.of_same (kernel.setDev dev (device.traces bdOps orig none))
            (fun other away => Function.update_of_ne away _ _) _ rfl (Nat.le_refl _)
          rw [held]
          simp [Kernel.heldOps, found, without]

/-- What a device takes over from one that traces is there. -/
theorem Kernel.Orderly.took {bdOps : Option OpsPtr} {orig : Option RequestFn}
    {trops : Option Address} (orderly : kernel.Orderly machine terms (· = dev))
    (outside : kernel.Outside dev) (modern : machine.build ≠ .makeRequest)
    (took : TraceTable.OrigOps machine kernel.tracing bdev bdOps orig trops) : orig.isSome := by
  cases took with
  | untraced => rfl
  | traced _ _ verified =>
      obtain ⟨other, held⟩ := Kernel.holds_of_slot verified.1
      have away : other ≠ dev := fun same => outside _ (same ▸ held.1)
      exact ((orderly.settled _ other _ held away).tracing modern verified.2).2

/-- The device took the slot of a minor. -/
structure Joined (machine : Machine) (terms : Terms) (dev : Address) (device : SnapDevice)
    (minor : Nat) (before after : Kernel) : Prop where
  aside : Aside dev before after
  table : after.snapDevices = Function.update before.snapDevices minor (some dev)
  orderly : after.Orderly machine terms fun _ => False
  device : ∃ bdOps orig trops, after.devices dev = some
    { device.traces bdOps orig trops with sdMinor := minor, sdActive := device.sdActive + 1 }
  granted : machine.build = .hooked → before.faults .tracingOps = none

/-- It could not. -/
structure Turned (machine : Machine) (terms : Terms) (dev : Address) (device : SnapDevice)
    (bdev : Nat) (before after : Kernel) : Prop where
  aside : Aside dev before after
  table : after.snapDevices = before.snapDevices
  orderly : after.Orderly machine terms (· = dev)
  device : ∃ bdOps trops, after.devices dev = some
      { device.traces bdOps none trops with sdMinor := 0 } ∧
    (machine.build ≠ .makeRequest → trops ≠ none →
      (before.mounted bdev = .unmounted ∨ machine.freezing before.faults ≠ none) ∧
      (machine.build = .hooked → before.faults .tracingOps = none))

/-- What hooks the disk with the copy it refers to has what the disk was hooked with before. -/
theorem Kernel.Orderly.hooks {hooked : TraceTable}
    (orderly : kernel.Orderly machine terms (· = dev)) (outside : kernel.Outside dev)
    (modern : machine.build ≠ .makeRequest)
    (hooks : TraceTable.Hooks machine kernel.tracing bdev device hooked) :
    device.sdTracingOps.isSome ∧ device.sdOrigRequestFn.isSome := by
  cases hooks with
  | legacy build => exact absurd build modern
  | shared _ took refers =>
      rw [refers]
      exact ⟨rfl, orderly.took outside modern took⟩
  | alone _ took _ _ _ refers =>
      rw [refers]
      exact ⟨rfl, orderly.took outside modern took⟩

theorem Gendisk.hook_hooked (build : machine.build = .hooked) (gendisk : Gendisk)
    (fn : Option RequestFn) (bdOps : Option OpsPtr) : gendisk.hook machine fn bdOps = gendisk := by
  simp [Gendisk.hook, build]

/-- A driver that hooks a function of the kernel leaves the disks alone. -/
theorem Hooks.disks {table hooked : TraceTable} (build : machine.build = .hooked)
    (hooks : TraceTable.Hooks machine table bdev device hooked) : hooked.disks = table.disks := by
  have same : ∀ fn bdOps, Function.update table.disks (machine.bdDisk bdev)
      ((table.disk machine bdev).hook machine fn bdOps) = table.disks := by
    intro fn bdOps
    rw [Gendisk.hook_hooked build]
    exact Function.update_eq_self _ _
  cases hooks with
  | legacy => exact same _ _
  | shared => exact same _ _
  | alone => exact same _ _

/-- The machine before the disk is hooked, with the minor in the range. -/
structure Begins (dev : Address) (minor : Nat) (before begun : Kernel) : Prop where
  aside : Aside dev before begun
  tracing : begun.tracing = before.tracing
  lowest : begun.lowestMinor = min minor before.lowestMinor
  highest : begun.highestMinor = max minor before.highestMinor
  table : begun.snapDevices = before.snapDevices

theorem Hooked.orderly {begun : Kernel} (orderly : before.Orderly machine terms (· = dev))
    (outside : before.Outside dev) (begins : Begins dev minor before begun)
    (known : dev < before.fresh) (bound : minor < machine.maxSnapDevices)
    (verified : device.unverified = false) (numbered : device.sdMinor = minor)
    (hooked : Hooked machine dev device bdev minor begun after)
    (counted : terms.refs → machine.build ≠ .makeRequest → after.Counted) :
    after.Orderly machine terms fun _ => False := by
  obtain ⟨bdOps, orig, trops, table, device', same, hooks, found, shown⟩ := hooked.hooks
  have aside := begins.aside.trans hooked.aside
  have slots : after.snapDevices = Function.update before.snapDevices minor (some dev) := by
    rw [hooked.table, begins.table]
  have slot : ∀ other kept, after.snapDevices other = some kept →
      (other = minor ∧ kept = dev) ∨ (kept ≠ dev ∧ before.snapDevices other = some kept) := by
    intro other kept held
    rw [slots] at held
    by_cases here : other = minor
    · rw [here, Function.update_self] at held
      exact .inl ⟨here, (Option.some.inj held).symm⟩
    · rw [Function.update_of_ne here] at held
      exact .inr ⟨fun is => outside other (is ▸ held), held⟩
  constructor
  · unfold Kernel.RangeExact
    rw [slots, hooked.lowest, hooked.highest, begins.lowest, begins.highest]
    exact orderly.range.insert bound dev
  · intro other kept held
    apply Nat.lt_of_lt_of_le _ aside.fresh
    rcases slot other kept held with here | there
    · rw [here.2]
      exact known
    · exact orderly.slots other kept there.2
  · intro other kept there
    apply Nat.lt_of_lt_of_le _ aside.fresh
    by_cases here : other = dev
    · rw [here]
      exact known
    · exact orderly.devices other kept ((aside.devices other here).symm.trans there)
  · intro other kept keeps held _
    rcases slot other kept held.1 with here | there
    · rw [here.2] at held
      cases found.symm.trans held.2
      rw [here.1]
      constructor
      · rw [same]
        exact numbered
      · intro modern _
        rw [begins.tracing] at hooks
        exact orderly.hooks outside modern hooks
    · exact orderly.settled other kept keeps
        ⟨there.2, (aside.devices kept there.1).symm.trans held.2⟩ there.1
  · intro other keeps there _ waits
    by_cases here : other = dev
    · rw [here] at there
      cases found.symm.trans there
      rw [same] at waits
      exact absurd (verified.symm.trans waits) (by simp)
    · exact orderly.paused other keeps ((aside.devices other here).symm.trans there) here waits
  · exact hooked.unallocated
  · intro build disk
    have disks : after.tracing.disks = before.tracing.disks := by
      rw [shown, ← begins.tracing]
      exact (show (table.setSlot minor _).disks = table.disks from rfl).trans
        (Hooks.disks build hooks)
    rw [show after.disks = before.disks from disks]
    exact orderly.drivers build disk
  · exact counted
  · intro is other kept held
    rcases slot other kept held with here | there
    · simp [here.2, found]
    · rw [aside.devices kept there.1]
      exact orderly.live is other kept there.2

theorem Unhooked.orderly {begun ended : Kernel} {device' : SnapDevice}
    (orderly : before.Orderly machine terms (· = dev)) (begins : Begins dev minor before begun)
    (known : dev < before.fresh) (unhooked : Unhooked machine dev device bdev begun after)
    (ends : ended = (after.setDev dev device').recalculated machine)
    (held : after.heldOps dev = device'.sdTracingOps)
    (counted : terms.refs → machine.build ≠ .makeRequest → after.Counted) :
    ended.Orderly machine terms (· = dev) := by
  have aside := begins.aside.trans unhooked.aside
  rw [ends]
  apply orderly.recalculated known fun _ => id
  · intro other away
    exact (Function.update_of_ne away _ _).trans (aside.devices other away)
  · intro other kept slot
    have slot' : after.snapDevices other = some kept := slot
    rw [unhooked.table, begins.table] at slot'
    exact slot'
  · exact aside.fresh
  · exact unhooked.unallocated
  · intro build disk
    have disks : after.disks = before.disks :=
      unhooked.disks.trans (congrArg TraceTable.disks begins.tracing)
    change ∃ ops, (after.disks disk).fops = .driver ops
    rw [disks]
    exact orderly.drivers build disk
  · intro is modern
    apply (counted is modern).of_same
    · exact fun other away => Function.update_of_ne away _ _
    · simp [Kernel.heldOps] at held ⊢
      rw [held]
    · rfl
    · exact Nat.le_refl _
  · simp

theorem tracerSetupTracing_joins (orderly : kernel.Orderly machine terms (· = dev))
    (outside : kernel.Outside dev) (found : kernel.devices dev = some device)
    (verified : device.unverified = false) (without : device.sdTracingOps = none)
    (based : device.sdBaseDev = some bdev) (bound : minor < machine.maxSnapDevices) :
    wp (tracerSetupTracing machine dev minor)
      (fun _ => Joined machine terms dev device minor kernel)
      (OnError (Turned machine terms dev device bdev kernel)) kernel := by
  let begun := (kernel.setDev dev { device with sdMinor := minor }).included minor
  have known := orderly.devices dev device found
  have begins : Begins dev minor kernel begun := by
    refine ⟨?_, tracing_setDev_outside outside _, rfl, rfl, rfl⟩
    exact { Aside.refl dev kernel with devices := fun other away => Function.update_of_ne away _ _ }
  have held : begun.heldOps dev = kernel.heldOps dev := by
    simp [Kernel.heldOps, begun, Kernel.included, found]
  have counted : terms.refs → machine.build ≠ .makeRequest → begun.Counted := fun is modern =>
    (orderly.counted is modern).of_same begun begins.aside.devices held rfl (Nat.le_refl _)
  have unshared : machine.build = .hooked → ∀ bdOps orig trops,
      TraceTable.OrigOps machine begun.tracing bdev bdOps orig trops → trops = none := by
    rw [begins.tracing]
    exact fun hooked _ _ _ took => orderly.unshared hooked took
  have outside' : begun.Outside dev := outside
  have unallocated : begun.Unallocated := orderly.unallocated
  have range : begun.InRange := Kernel.included_inRange orderly.inRange
  unfold tracerSetupTracing
  rw [wp_bind, wp_setDev found, wp_bind, wp_minorRangeInclude, wp_unwinding]
  apply wp_mono (injectTracing_counts range unallocated outside' (Kernel.setDev_same _ _ _) based
    without known unshared)
  · intro _ after injected
    obtain ⟨hooked, granted, counts⟩ := injected
    obtain ⟨bdOps, orig, trops, _, device', same, _, found', _⟩ := hooked.hooks
    constructor
    · exact begins.aside.trans hooked.aside
    · exact hooked.table
    · apply hooked.orderly orderly outside begins known bound
      · exact verified
      · rfl
      · exact fun is modern => counts modern (counted is modern)
    · rw [same] at found'
      exact ⟨bdOps, orig, trops, found'⟩
    · exact granted
  · intro reason after failed
    cases reason with
    | oops => exact OnError.oops _
    | crash => exact OnError.crash _
    | errno error =>
        obtain ⟨unhooked, why, counts⟩ := failed error rfl
        obtain ⟨bdOps, orig, trops, found'⟩ := unhooked.device
        dsimp only
        rw [wp_bind, wp_setDev found', wp_minorRangeRecalculate]
        intro _ _
        have held' : after.heldOps dev = trops := by simp [Kernel.heldOps, found', SnapDevice.traces]
        constructor
        · have ends : ∀ device', Aside dev after ((after.setDev dev device').recalculated machine) :=
            fun _ =>
              { Aside.refl dev after with
                devices := fun other away => Function.update_of_ne away _ _ }
          exact (begins.aside.trans unhooked.aside).trans (ends _)
        · exact unhooked.table
        · exact unhooked.orderly orderly begins known rfl held'
            fun is modern => counts modern (counted is modern)
        · refine ⟨bdOps, trops, Kernel.setDev_same _ _ _, fun modern has => ?_⟩
          rw [← held'] at has
          exact why modern has

end joining

end Moocbt.Driver
