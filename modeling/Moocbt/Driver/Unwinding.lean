import Moocbt.Driver.Activation
import Moocbt.Driver.Sharing
import Moocbt.Driver.Snapping

/-! What a change of the mode of a device leaves when it fails before the new device is in the
table. -/

namespace Moocbt.Driver

open Cow (Created CowManager CowState Denied Errno Stop)
open Program
open TraceTable (Shared)

variable {machine : Machine} {kernel : Kernel} {dev oldDev cow : Address}
  {device old : SnapDevice} {bdev minor : Nat} {path : CowPath} {paths : CowPath → Prop}

section references

/-- How the disks are hooked: those that are traced through `submit_bio` share the copies of their
operations, and a driver that hooks a function of the kernel leaves the operations alone. -/
structure HookedUp (machine : Machine) (table : TraceTable) : Prop where
  shared : machine.build = .submitBio → Shared machine table
  drivers : machine.build = .hooked → ∀ disk, ∃ ops, (table.disks disk).fops = .driver ops

/-- A reference of another device is taken, and kept, exactly where the driver hooks
`submit_bio`. -/
theorem References.kept_iff {before after : Kernel} (hooked : HookedUp machine before.tracing)
    (held : before.tracing.Verified minor device) (based : device.sdBaseDev = some bdev)
    (references : References machine bdev before after) :
    (∀ address ops, before.tracingOps address = some ops → after.tracingOps address = some ops) ↔
      machine.build ≠ .submitBio := by
  cases references with
  | kept same why =>
      refine ⟨fun _ modern => ?_, fun _ => same⟩
      have shared := hooked.shared modern
      obtain ⟨address, ops, sharer⟩ := shared.sharers minor device bdev held based
      rcases why with legacy | none | ⟨bdOps, orig, took⟩
      · rw [modern] at legacy
        contradiction
      · have stored : before.tracing.opsAt machine (before.tracing.disk machine bdev).fops =
            some { machine.original (machine.bdDisk bdev) with submitBio := some .tracingFn } := by
          rw [sharer.fops]
          exact sharer.copy
        exact none _ _ _ (.traced stored rfl held based rfl)
      · obtain ⟨_, _, ⟨_, driver⟩ | ⟨_, _, _, _, _, _, _, _, some, _⟩⟩ := shared.finds took
        · rw [sharer.fops] at driver
          contradiction
        · contradiction
  | @taken address ops bdOps orig modern took stored left _ =>
      constructor
      · intro same _
        have refs := (same address ops stored).symm.trans left
        simp only [Option.some.injEq] at refs
        have differs := congrArg TracingOps.refs refs
        simp at differs
      · intro other
        have build : machine.build = .hooked := by
          cases build : machine.build with
          | hooked => rfl
          | makeRequest => exact absurd build modern
          | submitBio => exact absurd build other
        have tracer : ∃ found : BlockDeviceOperations, before.tracing.opsAt machine
            (before.tracing.disk machine bdev).fops = some found ∧
            found.submitBio = some .tracingFn := by
          generalize same : some address = trops at took
          cases took with
          | untraced => contradiction
          | traced found traces => exact ⟨_, found, traces⟩
        obtain ⟨found, at_, traces⟩ := tracer
        obtain ⟨driver, same⟩ := hooked.drivers build (machine.bdDisk bdev)
        unfold TraceTable.disk at at_
        rw [same] at at_
        cases at_
        exact absurd traces (DriverOperations.untraced _)

end references

/-- An active device of the table and its manager, which has its file open. -/
structure Active (machine : Machine) (kernel : Kernel) (minor bdev : Nat) (dev : Address)
    (device : SnapDevice) (cow : Address) (object : CowObject) : Prop where
  wired : kernel.Wired machine
  lowest : kernel.lowestMinor = (kernel.recalculated machine).lowestMinor
  highest : kernel.highestMinor = (kernel.recalculated machine).highestMinor
  hooked : HookedUp machine kernel.tracing
  held : kernel.Holds minor dev device
  sdMinor : device.sdMinor = minor
  verified : device.unverified = false
  based : device.sdBaseDev = some bdev
  sdCow : device.sdCow = some cow
  stored : kernel.cows cow = some object
  allocated : cow < kernel.fresh
  owner : ∀ owner, kernel.cowDev cow = some owner → owner < kernel.fresh
  immutable : kernel.immutable object.path = true

/-- The snapshot device that is to take the place of a device. -/
def SnapDevice.nextSnap (old : SnapDevice) : SnapDevice :=
  { SnapDevice.newSnap with
    sdSize := old.sdSize
    sdBaseDev := old.sdBaseDev
    sdBdevPath := old.sdBdevPath }

/-- What the creation of its COW file does. -/
def Kernel.nextCreation (kernel : Kernel) (machine : Machine) (old : SnapDevice)
    (object : CowObject) (path : CowPath) (fallocatedSpace : Nat) : Except Stop Unit × CowState :=
  kernel.creation path old.sdSize (machine.cacheSize 0)
    (machine.maxFileSize old.sdSize
      (if fallocatedSpace = 0 then old.sdFallocSize else fallocatedSpace))
    object.cm.uuid ((object.cm.seqid + 1) % word64)

/-- The new snapshot device gets as far as its tracing. -/
structure Reaches (kernel : Kernel) (bdev : Nat) (path : CowPath)
    (reply : Except Stop Unit × CowState) : Prop extends kernel.Hosts bdev path reply where
  steps : kernel.Fine snapSteps

/-- What it has left when it cannot trace, or could not be set up. -/
structure Stuck (machine : Machine) (before : Kernel) (dev : Address) (paths : CowPath → Prop)
    (bdev : Nat) (path : CowPath) (reply : Except Stop Unit × CowState)
    (after : Kernel) : Prop where
  backed : Backed dev paths before after
  tracingOps :
    (∀ address ops, before.tracingOps address = some ops → after.tracingOps address = some ops) ↔
      ¬ (machine.build = .submitBio ∧ Reaches before bdev path reply)
  created : before.Creates path → Created reply.2
  device : ∃ device, after.devices dev = some device ∧ Owns paths after device
  file : Closed none dev path (before.unwound path reply.2) after ∨ before.Creates path ∧
    ∃ cow, Quiet dev (Made before.mounted path cow reply.2) false (Holding none (some cow)) after

section snapshot

variable {before : Kernel} {reply : Except Stop Unit × CowState} {object : CowObject}

theorem Stuck.of_local {good : SnapDevice → Prop} (here : Local dev paths before good kernel)
    (never : ¬ Reaches before bdev path reply) (created : before.Creates path → Created reply.2)
    (file : Closed none dev path (before.unwound path reply.2) kernel ∨ before.Creates path ∧
      ∃ cow, Quiet dev (Made before.mounted path cow reply.2) false (Holding none (some cow))
        kernel) :
    Stuck machine before dev paths bdev path reply kernel := by
  obtain ⟨device, found, owns, _⟩ := here.device
  refine ⟨here.elsewhere.backed, ?_, created, ⟨device, found, owns⟩, file⟩
  rw [here.elsewhere.tracingOps]
  exact ⟨fun _ both => never both.2, fun _ _ _ => id⟩

/-- The new device takes the slot of the old one, or cannot trace. -/
theorem nextSnap_traces (active : Active machine before minor bdev oldDev old cow object)
    (outside : before.Outside dev)
    (here : Local dev paths before (fun after => after.sdBaseDev = some bdev ∧
      after.sdTracingOps = none) kernel)
    (allocated : dev < kernel.fresh) (reaches : Reaches before bdev path reply)
    (created : Created reply.2) (creates : before.Creates path) {made : Address}
    (quiet : Quiet dev (Made before.mounted path made reply.2) false (Holding none (some made))
      kernel) :
    wp (tracerSetupTracing machine dev minor) (fun _ after => after.snapDevices minor = some dev)
      (OnError (Stuck machine before dev paths bdev path reply)) kernel := by
  obtain ⟨device, found, owns, based, without⟩ := here.device
  have wired : kernel.Wired machine := here.elsewhere.wired active.wired (by simp [found])
  have tracing : kernel.tracing = before.tracing := here.elsewhere.tracing_outside outside
  have bound : minor < machine.maxSnapDevices := active.wired.bounded _ _ active.held.1
  have traces := tracerSetupTracing_spec wired (outside.unchanged here.elsewhere.table) bound
    allocated found based fun _ => without
  apply wp_mono (wp_and traces (Quiet.stable.tracerSetupTracing kernel quiet))
  · intro _ after ⟨entered, _⟩
    rw [entered.table]
    exact Function.update_self _ _ _
  · intro reason after ⟨failed, quiet⟩ error same
    have refused := failed error same
    have range := @Kernel.recalculated_of_table machine kernel before here.elsewhere.table
    have references : References machine bdev before after :=
      refused.references.of_same tracing.symm rfl here.elsewhere.mounted.symm
        here.elsewhere.faults.symm
    constructor
    · constructor
      · exact here.elsewhere.toApart.trans (refused.aside.apart paths)
      · exact refused.table.trans here.elsewhere.table
      · rw [refused.lowest, range.1, active.lowest]
      · rw [refused.highest, range.2, active.highest]
    · rw [references.kept_iff active.hooked ⟨active.held.slot, active.verified⟩ active.based]
      exact ⟨fun other both => other both.1, fun never modern => never ⟨modern, reaches⟩⟩
    · exact fun _ => created
    · obtain ⟨bdOps, trops, held⟩ := refused.device
      refine ⟨_, held, ?_⟩
      intro cow object has stored
      rw [refused.aside.cows] at stored
      exact owns cow object has stored
    · exact .inr ⟨creates, made, quiet⟩

/-- The rest of the setup of a new device whose manager has created its file. -/
theorem nextSnap_prepared (active : Active machine before minor bdev oldDev old cow object)
    (outside : before.Outside dev)
    (here : Local dev paths before (fun after => after.sdBaseDev = some bdev ∧
      after.sdTracingOps = none) kernel)
    (allocated : dev < kernel.fresh) (hosts : before.Hosts bdev path reply)
    (created : Created reply.2) (creates : before.Creates path) {made : Address}
    (quiet : Quiet dev (Made before.mounted path made reply.2) false (Holding none (some made))
      kernel)
    (orig : Option RequestFn) :
    wp (do
        prepareSnap dev orig
        tracerSetupTracing machine dev minor)
      (fun _ after => after.snapDevices minor = some dev)
      (OnError (Stuck machine before dev paths bdev path reply)) kernel := by
  obtain ⟨device, found, owns, based, without⟩ := here.device
  have fine : kernel.Fine snapSteps ↔ before.Fine snapSteps := by
    unfold Kernel.Fine
    rw [here.elsewhere.faults]
  have prepares := wp_and (prepareSnap_tries orig kernel)
    (wp_and (prepareSnap_concerns orig kernel found owns) (prepareSnap_quiet orig kernel quiet))
  rw [wp_bind]
  apply wp_mono prepares
  · intro _ middle ⟨⟨_, all⟩, there, quiet⟩
    apply nextSnap_traces active outside _ _ ⟨hosts, fine.mp all⟩ created creates quiet
    · obtain ⟨next, held, owns, base, trops⟩ := there.device
      exact ⟨here.elsewhere.trans there.elsewhere, next, held, owns, base.trans based,
        trops.trans without⟩
    · exact Nat.lt_of_lt_of_le allocated there.elsewhere.fresh
  · intro reason middle ⟨failed, there, quiet⟩ error same
    have left : Local dev paths before (fun _ => True) middle :=
      ⟨here.elsewhere.trans there.elsewhere, there.device⟩
    apply Stuck.of_local left _ (fun _ => created) (.inr ⟨creates, made, quiet⟩)
    intro reaches
    exact failed error same (fine.mpr reaches.steps)

/-- The whole setup of a new device, from its base device on. -/
theorem nextSnap_spec (active : Active machine kernel minor bdev oldDev old cow object)
    (guarded : kernel.immutable path = false → paths path) (fallocatedSpace : Nat)
    (orig : Option RequestFn) :
    wp (do
        tracerSetupCow machine kernel.fresh bdev path (.new old.sdSize
          (if fallocatedSpace = 0 then old.sdFallocSize else fallocatedSpace) 0 object.cm.uuid
          ((object.cm.seqid + 1) % word64))
        prepareSnap kernel.fresh orig
        tracerSetupTracing machine kernel.fresh minor)
      (fun _ after => after.snapDevices minor = some kernel.fresh)
      (OnError (Stuck machine kernel kernel.fresh paths bdev path
        (kernel.nextCreation machine old object path fallocatedSpace)))
      (kernel.begun old.nextSnap) := by
  have outside := active.wired.outside
  have found := kernel.begun_same old.nextSnap
  have owns : Owns paths (kernel.begun old.nextSnap) old.nextSnap := fun _ _ has => nomatch has
  have begun : Elsewhere kernel.fresh paths kernel (kernel.begun old.nextSnap) :=
    { Elsewhere.refl kernel.fresh paths kernel with
      fresh := Nat.le_succ _
      devices := fun other away => Function.update_of_ne away _ _ }
  have idle : Idle false (Holding none none) old.nextSnap := ⟨rfl, rfl, rfl, rfl⟩
  let space := if fallocatedSpace = 0 then old.sdFallocSize else fallocatedSpace
  have creates := @tracerSetupCow_creates machine _ _ _ bdev path old.sdSize 0
    ((object.cm.seqid + 1) % word64) object.cm.uuid none found idle space
  have concerns := @tracerSetupCow_local machine (kernel.begun old.nextSnap) kernel.fresh
    old.nextSnap bdev path paths guarded found owns old.sdSize space 0
    ((object.cm.seqid + 1) % word64) object.cm.uuid
  have reply : (kernel.begun old.nextSnap).creation path old.sdSize (machine.cacheSize 0)
      (machine.maxFileSize old.sdSize space) object.cm.uuid ((object.cm.seqid + 1) % word64) =
    kernel.nextCreation machine old object path fallocatedSpace := rfl
  rw [reply] at creates
  generalize kernel.nextCreation machine old object path fallocatedSpace = reply at creates ⊢
  rw [wp_bind]
  apply wp_mono (wp_and creates concerns)
  · intro _ middle ⟨⟨hosts, opened⟩, there⟩
    apply nextSnap_prepared active outside _ _ _ opened.created opened.creates opened.quiet
    · obtain ⟨device, held, owns, _, _, _, same⟩ := there.device
      subst same
      exact ⟨begun.trans there.elsewhere, _, held, owns, active.based, rfl⟩
    · exact Nat.lt_of_lt_of_le (Nat.lt_succ_self _) there.elsewhere.fresh
    · exact ⟨hosts.free, hosts.ok, hosts.mounted, hosts.here⟩
  · intro reason middle ⟨failed, there⟩ error same
    have gives := failed error same
    have here := there error same
    have left : Local kernel.fresh paths kernel (OnlyCow old.nextSnap) middle :=
      ⟨begun.trans here.elsewhere, here.device⟩
    apply Stuck.of_local left _ gives.created (.inl gives.closed)
    intro reaches
    exact gives.why ⟨reaches.free, reaches.ok, reaches.mounted, reaches.here⟩

/-- What is left once the new device is freed. -/
structure Failed (machine : Machine) (before : Kernel) (dev : Address) (paths : CowPath → Prop)
    (bdev : Nat) (path : CowPath) (reply : Except Stop Unit × CowState)
    (after : Kernel) : Prop where
  backed : Backed dev paths before after
  tracingOps :
    (∀ address ops, before.tracingOps address = some ops → after.tracingOps address = some ops) ↔
      ¬ (machine.build = .submitBio ∧ Reaches before bdev path reply)
  created : before.Creates path → Created reply.2
  file : after.files path = before.unwound path reply.2

theorem Stuck.unwound (stuck : Stuck machine before dev paths bdev path reply kernel) :
    wp (unwindSnap dev) (fun _ => Failed machine before dev paths bdev path reply)
      (OnError fun _ => False) kernel := by
  obtain ⟨device, found, owns⟩ := stuck.device
  have unlinks : wp (unwindSnap dev)
      (fun _ after => after.files path = before.unwound path reply.2) (fun _ _ => True) kernel := by
    rcases stuck.file with closed | ⟨creates, cow, quiet⟩
    · exact unwindSnap_closed closed
    · rw [Kernel.unwound, if_pos creates]
      exact unwindSnap_unlinks (stuck.created creates) quiet
  have all := wp_and (unwindSnap_silent kernel) (wp_and (unwindSnap_backed found owns) unlinks)
  apply wp_mono all
  · intro _ after ended
    obtain ⟨_, ⟨backed, same⟩, file⟩ := ended
    refine ⟨stuck.backed.trans backed, ?_, stuck.created, file⟩
    rw [same]
    exact stuck.tracingOps
  · exact fun _ _ both error same => both.1 error same

/-- What an error of `tracer_active_inc_to_snap` leaves: the machine as it was, where no device
was allocated; else the new device in the table, or what could be put back. -/
theorem tracerActiveIncToSnap_fails
    (active : Active machine kernel minor bdev oldDev old cow object) (path : CowPath)
    (fallocatedSpace : Nat) :
    wp (tracerActiveIncToSnap machine oldDev path fallocatedSpace) (fun _ _ => True)
      (OnError fun after =>
        kernel.faults .tracerAlloc ≠ none ∧ after = kernel ∨
        kernel.faults .tracerAlloc = none ∧
          (after.snapDevices minor = some kernel.fresh ∨
            Failed machine kernel kernel.fresh
              (fun other => other = path ∧ kernel.immutable path = false) bdev path
              (kernel.nextCreation machine old object path fallocatedSpace) after)) kernel := by
  have differs : oldDev ≠ kernel.fresh :=
    Nat.ne_of_lt (active.wired.allocated _ _ active.held.1)
  unfold tracerActiveIncToSnap
  rw [wp_bind, wp_tracerAlloc]
  cases fault : kernel.faults .tracerAlloc with
  | some error => exact fun _ _ => .inl ⟨by simp, rfl⟩
  | none =>
      have found : (kernel.begun .newSnap).devices oldDev = some old :=
        (kernel.begun_other differs _).trans active.held.2
      have stored : (kernel.begun .newSnap).cows cow = some object := active.stored
      dsimp only
      rw [wp_bind, wp_setDev (kernel.begun_same _), kernel.begun_setDev]
      change wp _ _ _ (kernel.begun .newSnap)
      rw [wp_bind, wp_read, wp_bind, wp_getDev found, wp_bind, wp_deref_some active.sdCow, wp_bind,
        wp_deref_some stored]
      unfold tracerCopyBaseDev
      rw [wp_bind, wp_setDev (kernel.begun_same _), kernel.begun_setDev]
      change wp _ _ _ (kernel.begun old.nextSnap)
      have based : old.nextSnap.sdBaseDev = some bdev := active.based
      rw [wp_bind, wp_unwinding, wp_bind, wp_getDev (kernel.begun_same _), wp_bind,
        wp_deref_some based]
      have spec := @nextSnap_spec machine _ _ _ _ _ _ path
        (fun other => other = path ∧ kernel.immutable path = false) _ active
        (fun free => ⟨rfl, free⟩) fallocatedSpace old.sdOrigRequestFn
      rw [← active.sdMinor] at spec
      simp only [prepareSnap, bind_assoc] at spec
      apply wp_mono spec
      · intro _ middle slot
        apply wp_mono (KeepsTable.incToSnap.wp middle)
        · exact fun _ _ _ => trivial
        · intro _ after same _ _
          rw [same, ← active.sdMinor]
          exact .inr ⟨rfl, .inl slot⟩
      · intro reason middle failed
        cases reason with
        | oops => exact OnError.oops _
        | crash => exact OnError.crash _
        | errno error =>
            apply wp_mono (failed error rfl).unwound
            · exact fun _ _ failed _ _ => .inr ⟨rfl, .inr failed⟩
            · exact fun _ _ never error same => (never error same).elim

end snapshot

end Moocbt.Driver
