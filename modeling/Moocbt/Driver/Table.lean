import Moocbt.Driver.Steps
import Moocbt.Driver.TraceTable

/-! What the functions that start and stop tracing do to the table, the disks and the copies of
operations. -/

namespace Moocbt.Driver

open Cow (Errno Stop)
open Program

variable {machine : Machine} {kernel : Kernel} {dev : Address} {device : SnapDevice} {bdev : Nat}
  {done : Unit → Kernel → Prop} {stopped : Stop → Kernel → Prop}

@[simp] theorem wp_setSlot (minor : Nat) (slot : Option Address) :
    wp (setSlot minor slot) done stopped kernel ↔
      done () { kernel with snapDevices := Function.update kernel.snapDevices minor slot } := Iff.rfl

@[simp] theorem wp_setDisk (disk : Nat) (change : Gendisk → Gendisk) :
    wp (setDisk disk change) done stopped kernel ↔
      done () { kernel with
        disks := Function.update kernel.disks disk (change (kernel.disks disk)) } := Iff.rfl

theorem wp_mrfPut {done : Option RequestFn → Kernel → Prop} (disk : Nat) :
    wp (mrfPut disk) done stopped kernel ↔
      done (kernel.disks disk).put.1
        { kernel with disks := Function.update kernel.disks disk (kernel.disks disk).put.2 } := by
  unfold mrfPut Gendisk.put
  rw [wp_bind, wp_read]
  cases kernel.disks disk |>.tracking with
  | none => simp
  | some tracking =>
      dsimp only
      rw [wp_ite]
      split
      · rw [wp_bind, wp_setDisk]
        rfl
      · rw [wp_bind, wp_setDisk]
        rfl

def Kernel.setDisk (kernel : Kernel) (disk : Nat) (gendisk : Gendisk) : Kernel :=
  { kernel with disks := Function.update kernel.disks disk gendisk }

theorem Kernel.setDisk_same (kernel : Kernel) (disk : Nat) :
    kernel.setDisk disk (kernel.disks disk) = kernel := by simp [Kernel.setDisk]

theorem wp_setRequestFn (fn : Option RequestFn) :
    wp (setRequestFn machine bdev fn) done stopped kernel ↔
      done () (kernel.setDisk (machine.bdDisk bdev)
        (if fn.isSome then { kernel.disk machine bdev with makeRequestFn := fn }
          else kernel.disk machine bdev)) := by
  unfold setRequestFn
  rw [wp_when]
  split
  · rfl
  · unfold Kernel.disk
    rw [Kernel.setDisk_same]

theorem wp_setFops (bdOps : Option OpsPtr) :
    wp (setFops machine bdev bdOps) done stopped kernel ↔
      done () (kernel.setDisk (machine.bdDisk bdev)
        { kernel.disk machine bdev with
          fops := bdOps.getD (kernel.disk machine bdev).fops }) := by
  unfold setFops
  cases bdOps with
  | none =>
      change done () kernel ↔ done () (kernel.setDisk _ (kernel.disks (machine.bdDisk bdev)))
      rw [Kernel.setDisk_same]
  | some ops => rfl

theorem wp_hookDisk (fn : Option RequestFn) (bdOps : Option OpsPtr) :
    wp (hookDisk machine bdev fn bdOps) done stopped kernel ↔
      done () (kernel.setDisk (machine.bdDisk bdev)
        ((kernel.disk machine bdev).hook machine fn bdOps)) := by
  unfold hookDisk Gendisk.hook
  cases machine.build with
  | hooked =>
      change done () kernel ↔ done () (kernel.setDisk _ (kernel.disks (machine.bdDisk bdev)))
      rw [Kernel.setDisk_same]
  | makeRequest => exact wp_setRequestFn fn
  | submitBio => exact wp_setFops bdOps

theorem wp_unhookDisk (bdOps : Option OpsPtr) :
    wp (unhookDisk machine bdev bdOps) done stopped kernel ↔
      done () (kernel.setDisk (machine.bdDisk bdev)
        ((kernel.disk machine bdev).unhook machine bdOps)) := by
  unfold unhookDisk Gendisk.unhook
  cases machine.build with
  | hooked =>
      change done () kernel ↔ done () (kernel.setDisk _ (kernel.disks (machine.bdDisk bdev)))
      rw [Kernel.setDisk_same]
  | makeRequest =>
      dsimp only
      rw [wp_bind, wp_mrfPut, wp_setRequestFn]
      unfold Kernel.setDisk Kernel.disk
      simp only [Function.update_self, Function.update_idem]
  | submitBio => exact wp_setFops bdOps

/-- The machine after a device started to trace. -/
def Kernel.started (kernel : Kernel) (machine : Machine) (dev : Address) (device : SnapDevice)
    (bdev : Nat) (fn : Option RequestFn) (bdOps : Option OpsPtr) (minor : Nat) : Kernel :=
  { kernel with
    snapDevices := Function.update kernel.snapDevices minor (some dev)
    disks := Function.update kernel.disks (machine.bdDisk bdev)
      ((kernel.disk machine bdev).hook machine fn bdOps)
    devices := Function.update kernel.devices dev
      (some { device with sdActive := device.sdActive + 1 }) }

theorem startTracing_spec (found : kernel.devices dev = some device) (fn : Option RequestFn)
    (bdOps : Option OpsPtr) (minor : Nat)
    (holds : done () (kernel.started machine dev device bdev fn bdOps minor)) :
    wp (startTracing machine dev bdev fn bdOps minor) done stopped kernel := by
  unfold startTracing
  rw [wp_bind, wp_setSlot, wp_bind, wp_hookDisk, wp_setDev]
  · exact holds
  · exact found

/-- The machine after the device in a slot stopped to trace. -/
def Kernel.ended (kernel : Kernel) (machine : Machine) (dev : Address) (device : SnapDevice)
    (bdev : Nat) (bdOps : Option OpsPtr) (minor : Nat) : Kernel :=
  { kernel with
    snapDevices := Function.update kernel.snapDevices minor none
    disks := Function.update kernel.disks (machine.bdDisk bdev)
      ((kernel.disk machine bdev).unhook machine bdOps)
    devices := Function.update kernel.devices dev
      (some { device with sdActive := device.sdActive - 1 }) }

theorem stopTracing_spec {minor : Nat} (held : kernel.Holds minor dev device)
    (bdOps : Option OpsPtr) (holds : done () (kernel.ended machine dev device bdev bdOps minor)) :
    wp (stopTracing machine bdev bdOps minor) done stopped kernel := by
  unfold stopTracing
  rw [wp_bind, wp_read, wp_bind, wp_deref, held.1]
  dsimp only
  rw [wp_bind, wp_setDev held.2, wp_bind, wp_unhookDisk, wp_setSlot]
  exact holds

/-- What is seen of a freeze that fails. -/
def Machine.freezing (machine : Machine) (faults : Step → Option Errno) : Option Errno :=
  if machine.freezeSb then none else faults .freeze

/-- The freeze does not keep tracing from being stopped. -/
def Kernel.Freezes (machine : Machine) (kernel : Kernel) (bdev : Nat) (device : SnapDevice) :
    Prop :=
  kernel.mounted bdev = .unmounted ∨ device.sdFailCode ≠ none ∨
    ∀ error, machine.freezing kernel.faults = some error → error = .enoent

instance (kernel : Kernel) (bdev : Nat) (device : SnapDevice) :
    Decidable (kernel.Freezes machine bdev device) := by
  unfold Kernel.Freezes
  have code : Decidable (∀ error, machine.freezing kernel.faults = some error → error = .enoent) :=
    decidable_of_iff (∀ error ∈ machine.freezing kernel.faults, error = .enoent) Iff.rfl
  infer_instance

theorem wp_tryFreezeBdev :
    wp (tryFreezeBdev machine bdev) done stopped kernel ↔
      if kernel.mounted bdev = .unmounted then stopped (.errno .enoent) kernel
      else
        match machine.freezing kernel.faults with
        | none => done () kernel
        | some error => stopped (.errno error) kernel := by
  unfold tryFreezeBdev Machine.freezing
  rw [wp_bind, wp_read, wp_ite, wp_stop, wp_ite]
  split
  · exact Iff.rfl
  · split
    · exact Iff.rfl
    · exact wp_attempt .freeze

theorem start_spec (found : kernel.devices dev = some device) (fn : Option RequestFn)
    (bdOps : Option OpsPtr) (minor : Nat)
    (starts : kernel.mounted bdev ≠ .unmounted → machine.freezing kernel.faults = none →
      done () (kernel.started machine dev device bdev fn bdOps minor))
    (fails : ∀ error, kernel.mounted bdev = .unmounted ∨ machine.freezing kernel.faults ≠ none →
      stopped (.errno error) kernel) :
    wp (tracerTransitionTracing machine dev bdev fn bdOps minor true) done stopped kernel := by
  unfold tracerTransitionTracing
  rw [wp_bind, wp_catching, wp_tryFreezeBdev]
  split
  · rename_i unmounted
    exact fails _ (.inl unmounted)
  · rename_i mounted
    split
    · rename_i freezes
      exact startTracing_spec found fn bdOps minor (starts mounted freezes)
    · rename_i error fault
      exact fails _ (.inr (by simp [fault]))

theorem stop_spec {minor : Nat} (held : kernel.Holds minor dev device) (fn : Option RequestFn)
    (bdOps : Option OpsPtr)
    (ends : kernel.Freezes machine bdev device →
      done () (kernel.ended machine dev device bdev bdOps minor))
    (fails : ∀ error, ¬ kernel.Freezes machine bdev device → stopped (.errno error) kernel) :
    wp (tracerTransitionTracing machine dev bdev fn bdOps minor false) done stopped kernel := by
  have refused : ∀ error, (kernel.Freezes machine bdev device ↔
        error = .enoent ∨ device.sdFailCode ≠ none) →
      wp (do
          let device ← getDev dev
          when (decide (error ≠ .enoent ∧ device.sdFailCode = none)) (Program.stop (.errno error)))
        (fun value middle => wp (stopTracing machine bdev bdOps minor) done stopped middle)
        stopped kernel := by
    intro error same
    rw [wp_bind, wp_getDev held.2, wp_when]
    split
    · rename_i bad
      apply fails error
      rw [same]
      simpa using bad
    · rename_i good
      apply stopTracing_spec held bdOps
      apply ends
      rw [same]
      by_cases absent : error = .enoent
      · exact .inl absent
      · apply Or.inr
        simpa [absent] using good
  unfold tracerTransitionTracing
  rw [wp_bind, wp_catching, wp_tryFreezeBdev]
  split
  · rename_i unmounted
    apply refused .enoent
    simp [Kernel.Freezes, unmounted]
  · rename_i mounted
    split
    · rename_i freezes
      apply stopTracing_spec held bdOps
      apply ends
      simp [Kernel.Freezes, freezes]
    · rename_i error fault
      apply refused error
      simp [Kernel.Freezes, mounted, fault, or_comm]

theorem Kernel.setDev_setDev (kernel : Kernel) (dev : Address) (first second : SnapDevice) :
    (kernel.setDev dev first).setDev dev second = kernel.setDev dev second := by
  simp [Kernel.setDev]

theorem Kernel.setDev_self (found : kernel.devices dev = some device) :
    kernel.setDev dev device = kernel := by
  unfold Kernel.setDev
  rw [← found, Function.update_eq_self]

/-- No operations in memory that was not allocated. -/
def Kernel.Unallocated (kernel : Kernel) : Prop :=
  ∀ address, kernel.fresh ≤ address →
    kernel.copies address = none ∧ kernel.tracingOps address = none

/-- The table refers to devices that live, each slot to its own, and the walks see all of them;
memory that was not allocated holds no operations. -/
structure Kernel.Wired (machine : Machine) (kernel : Kernel) : Prop where
  live : ∀ minor dev, kernel.snapDevices minor = some dev → (kernel.devices dev).isSome
  apart : ∀ minor other dev, kernel.snapDevices minor = some dev →
    kernel.snapDevices other = some dev → minor = other
  allocated : ∀ minor dev, kernel.snapDevices minor = some dev → dev < kernel.fresh
  bounded : ∀ minor dev, kernel.snapDevices minor = some dev → minor < machine.maxSnapDevices
  range : kernel.InRange
  unallocated : kernel.Unallocated

theorem Kernel.Wired.boot (machine : Machine) (files : CowPath → Option Cow.CowFile) :
    (machine.boot files).Wired machine where
  live := fun _ _ held => nomatch held
  apart := fun _ _ _ held => nomatch held
  allocated := fun _ _ held => nomatch held
  bounded := fun _ _ held => nomatch held
  range := fun _ _ held => nomatch held
  unallocated := fun _ _ => ⟨rfl, rfl⟩

/-- The device is in no slot. -/
def Kernel.Outside (kernel : Kernel) (dev : Address) : Prop :=
  ∀ minor, kernel.snapDevices minor ≠ some dev

/-- A change of how devices trace that concerns one device. -/
structure Aside (dev : Address) (before after : Kernel) : Prop where
  mounted : after.mounted = before.mounted
  faults : after.faults = before.faults
  outcomes : after.outcomes = before.outcomes
  cows : after.cows = before.cows
  cowDev : after.cowDev = before.cowDev
  files : after.files = before.files
  immutable : after.immutable = before.immutable
  fresh : before.fresh ≤ after.fresh
  devices : ∀ other, other ≠ dev → after.devices other = before.devices other

theorem Aside.refl (dev : Address) (kernel : Kernel) : Aside dev kernel kernel :=
  ⟨rfl, rfl, rfl, rfl, rfl, rfl, rfl, Nat.le_refl _, fun _ _ => rfl⟩

theorem Aside.trans {before middle after : Kernel} (left : Aside dev before middle)
    (right : Aside dev middle after) : Aside dev before after where
  mounted := right.mounted.trans left.mounted
  faults := right.faults.trans left.faults
  outcomes := right.outcomes.trans left.outcomes
  cows := right.cows.trans left.cows
  cowDev := right.cowDev.trans left.cowDev
  files := right.files.trans left.files
  immutable := right.immutable.trans left.immutable
  fresh := Nat.le_trans left.fresh right.fresh
  devices := fun other away => (right.devices other away).trans (left.devices other away)

theorem Aside.apart {before after : Kernel} (aside : Aside dev before after)
    (paths : CowPath → Prop) : Apart dev paths before after where
  mounted := aside.mounted
  faults := aside.faults
  fresh := aside.fresh
  devices := aside.devices
  cows := fun _ _ _ found _ => by rw [aside.cows]; exact found
  objects := fun _ _ found => .inr (by rw [← aside.cows]; exact found)
  cowDev := fun _ _ => by rw [aside.cowDev]
  files := fun _ _ => by rw [aside.files]
  immutable := fun _ _ => by rw [aside.immutable]

/-- What the slots show when one device has changed, in no slot or in this one. -/
theorem tracing_slots {before after : Kernel} (minor : Nat)
    (others : ∀ other, other ≠ dev → after.devices other = before.devices other)
    (found : after.devices dev = some device)
    (slots : after.snapDevices = Function.update before.snapDevices minor (some dev))
    (apart : ∀ other, other ≠ minor → before.snapDevices other ≠ some dev) :
    after.tracing.slots = Function.update before.tracing.slots minor (some device) := by
  funext other
  unfold Kernel.tracing
  dsimp only
  rw [slots]
  by_cases here : other = minor
  · subst here
    simp [found]
  · rw [Function.update_of_ne here, Function.update_of_ne here]
    cases held : before.snapDevices other with
    | none => rfl
    | some kept =>
        apply others
        intro same
        exact apart other here (same ▸ held)

theorem tracing_outside {before after : Kernel} (outside : before.Outside dev)
    (others : ∀ other, other ≠ dev → after.devices other = before.devices other)
    (slots : after.snapDevices = before.snapDevices) :
    after.tracing.slots = before.tracing.slots := by
  funext minor
  unfold Kernel.tracing
  dsimp only
  rw [slots]
  cases held : before.snapDevices minor with
  | none => rfl
  | some kept =>
      apply others
      intro same
      exact outside minor (same ▸ held)

theorem Kernel.Holds.slot {minor : Nat} (held : kernel.Holds minor dev device) :
    kernel.tracing.slots minor = some device := by
  unfold Kernel.tracing
  dsimp only
  rw [held.1]
  exact held.2

theorem Kernel.holds_of_slot {minor : Nat} (slot : kernel.tracing.slots minor = some device) :
    ∃ dev, kernel.Holds minor dev device :=
  Option.bind_eq_some_iff.mp slot

theorem Kernel.Holds.of_setDev {minor : Nat} {other : Address} {device device' : SnapDevice}
    (outside : kernel.Outside dev) (held : (kernel.setDev dev device').Holds minor other device) :
    kernel.Holds minor other device := by
  refine ⟨held.1, ?_⟩
  have away : other ≠ dev := by
    intro same
    exact outside minor (same ▸ held.1)
  exact (Function.update_of_ne away _ _).symm.trans held.2

theorem moocbtFindOrigMrf_spec (range : kernel.InRange) (found : kernel.devices dev = some device)
    (based : device.sdBaseDev = some bdev) :
    wp (moocbtFindOrigMrf machine dev)
      (fun _ after => ∃ orig, TraceTable.OrigMrf machine kernel.tracing bdev orig ∧
        after = kernel.setDev dev { device with sdOrigRequestFn := orig })
      (OnError fun after =>
        (∃ orig, after = kernel.setDev dev { device with sdOrigRequestFn := orig }) ∧
          ∀ orig, ¬ TraceTable.OrigMrf machine kernel.tracing bdev orig)
      kernel := by
  unfold moocbtFindOrigMrf
  rw [wp_bind, wp_read, wp_bind, wp_getDev found, wp_bind, wp_deref_some based, wp_ite]
  split
  · rename_i untraced
    rw [wp_setDev found]
    exact ⟨_, .untraced untraced, rfl⟩
  · rename_i traced
    rw [wp_bind]
    apply wp_mono (tracerForEach_reads range baseTest_reads)
    · rintro holder _ ⟨rfl, holds⟩
      cases holder with
      | none =>
          dsimp only
          rw [wp_bind, wp_setDev found]
          refine fun _ _ => ⟨⟨_, rfl⟩, ?_⟩
          intro orig took
          cases took with
          | untraced differs => exact traced differs
          | traced _ verified basis same =>
              obtain ⟨other, held⟩ := Kernel.holds_of_slot verified.1
              have missed := holds _ other _ held
              simp only [verified.2, basis, Option.some.injEq, true_and, exists_eq_left',
                Bool.false_eq_true, false_iff] at missed
              exact missed (decide_eq_true same)
      | some pair =>
          obtain ⟨minor, other⟩ := pair
          obtain ⟨owner, held, accepted⟩ := holds
          obtain ⟨verified, base, basis, disk⟩ := accepted.mp rfl
          dsimp only
          rw [wp_bind, wp_getDev held.2, wp_setDev found]
          exact ⟨_, .traced (not_not.mp traced) ⟨held.slot, verified⟩ basis
            (by simpa using disk), rfl⟩
    · rintro _ _ ⟨_, rfl⟩
      exact OnError.oops _

/-- The device after it took over how its disk is to be traced. -/
def SnapDevice.traces (device : SnapDevice) (bdOps : Option OpsPtr)
    (sdOrigRequestFn : Option RequestFn) (sdTracingOps : Option Address) : SnapDevice :=
  { device with bdOps, sdOrigRequestFn, sdTracingOps }

def Kernel.setOps (kernel : Kernel) (address : Address) (ops : TracingOps) : Kernel :=
  { kernel with tracingOps := Function.update kernel.tracingOps address (some ops) }

theorem Kernel.setDev_setOps (kernel : Kernel) (dev address : Address) (device : SnapDevice)
    (ops : TracingOps) :
    (kernel.setDev dev device).setOps address ops = (kernel.setOps address ops).setDev dev device :=
  rfl

theorem tracingOpsGet_spec {done : Option Address → Kernel → Prop} (trops : Option Address)
    (none : trops = none → done none kernel)
    (shares : ∀ address ops, trops = some address → kernel.tracingOps address = some ops →
      done trops (kernel.setOps address { ops with refs := ops.refs + 1 }))
    (oops : stopped .oops kernel) : wp (tracingOpsGet trops) done stopped kernel := by
  unfold tracingOpsGet
  cases trops with
  | none => exact none rfl
  | some address =>
      dsimp only
      rw [wp_bind, wp_read, wp_bind, wp_deref]
      split
      · exact oops
      · rename_i ops stored
        exact shares address ops rfl stored

/-- What `find_orig_bdops` leaves: a device without a copy of operations, or one that shares
that of another. -/
inductive FoundOps (machine : Machine) (kernel : Kernel) (dev : Address) (device : SnapDevice)
    (bdev : Nat) : Kernel → Prop
  | without {bdOps : Option OpsPtr} {orig : Option RequestFn} :
      TraceTable.OrigOps machine kernel.tracing bdev bdOps orig none →
      FoundOps machine kernel dev device bdev (kernel.setDev dev (device.traces bdOps orig none))
  | sharing {bdOps : Option OpsPtr} {orig : Option RequestFn} {address : Address}
      {ops : TracingOps} :
      TraceTable.OrigOps machine kernel.tracing bdev bdOps orig (some address) →
      kernel.tracingOps address = some ops →
      FoundOps machine kernel dev device bdev
        ((kernel.setOps address { ops with refs := ops.refs + 1 }).setDev dev
          (device.traces bdOps orig (some address)))

theorem findOrigBdops_spec (range : kernel.InRange) (outside : kernel.Outside dev)
    (found : kernel.devices dev = some device) (based : device.sdBaseDev = some bdev) :
    wp (findOrigBdops machine dev) (fun _ => FoundOps machine kernel dev device bdev)
      (OnError fun after =>
        after = kernel.setDev dev (device.traces none none none) ∧
          ∀ bdOps orig trops, ¬ TraceTable.OrigOps machine kernel.tracing bdev bdOps orig trops)
      kernel := by
  unfold findOrigBdops
  rw [wp_bind, wp_read, wp_bind, wp_getDev found, wp_bind, wp_deref_some based, wp_bind, wp_deref]
  split
  · exact OnError.oops _
  · rename_i ops stored
    rw [wp_bind, wp_setDev found, wp_ite]
    split
    · rename_i untraced
      rw [wp_setDev (Kernel.setDev_same _ _ _), Kernel.setDev_setDev]
      exact .without (.untraced stored untraced)
    · rename_i traced
      rw [wp_bind]
      have range' : (kernel.setDev dev { device with sdTracingOps := none }).InRange := range
      apply wp_mono (tracerForEach_reads range' baseTest_reads)
      · rintro holder _ ⟨rfl, holds⟩
        cases holder with
        | none =>
            dsimp only
            rw [wp_bind, wp_setDev (Kernel.setDev_same _ _ _), Kernel.setDev_setDev]
            refine fun _ _ => ⟨rfl, ?_⟩
            intro bdOps orig trops took
            cases took with
            | untraced stored' untraced =>
                cases stored.symm.trans stored'
                exact traced untraced
            | traced _ _ verified basis same =>
                obtain ⟨other, held⟩ := Kernel.holds_of_slot verified.1
                have away : other ≠ dev := fun same => outside _ (same ▸ held.1)
                have held' : (kernel.setDev dev { device with sdTracingOps := none }).Holds _ other _ :=
                  ⟨held.1, (Function.update_of_ne away _ _).trans held.2⟩
                have missed := holds _ other _ held'
                simp only [verified.2, basis, Option.some.injEq, true_and, exists_eq_left',
                  Bool.false_eq_true, false_iff] at missed
                exact missed (decide_eq_true same)
        | some pair =>
            obtain ⟨minor, other⟩ := pair
            obtain ⟨owner, held, accepted⟩ := holds
            obtain ⟨verified, base, basis, disk⟩ := accepted.mp rfl
            have took : TraceTable.OrigOps machine kernel.tracing bdev owner.bdOps
                owner.sdOrigRequestFn owner.sdTracingOps :=
              .traced stored (not_not.mp traced) ⟨(held.of_setDev outside).slot, verified⟩ basis
                (of_decide_eq_true disk)
            dsimp only
            rw [wp_bind, wp_getDev held.2, wp_bind]
            apply tracingOpsGet_spec
            · intro without
              rw [wp_setDev (Kernel.setDev_same _ _ _), Kernel.setDev_setDev]
              rw [without] at took
              exact .without took
            · intro address ops shares stored
              rw [Kernel.setDev_setOps, wp_setDev (Kernel.setDev_same _ _ _), Kernel.setDev_setDev,
                shares]
              rw [shares] at took
              exact .sharing took stored
            · exact OnError.oops _
      · rintro _ _ ⟨_, rfl⟩
        exact OnError.oops _

end Moocbt.Driver
