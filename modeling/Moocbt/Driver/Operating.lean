import Moocbt.Driver.SetupOperations

/-! Whatever an event does, it does to the table of devices by the operations of the driver. -/

namespace Moocbt.Driver

open Cow (Errno Stop)
open Program
open TraceTable (Alike Operation)

variable {α : Type} {machine : Machine} {kernel before middle after : Kernel}
  {dev oldDev : Address} {device old : SnapDevice} {bdev minor : Nat} {leaky : Prop} {terms : Terms}

section changes

/-- A device in no slot is being worked on. -/
structure Spare (machine : Machine) (leaky : Prop) (dev : Address) (good : SnapDevice → Prop)
    (before after : Kernel) : Prop extends Through machine leaky before after where
  table : after.snapDevices = before.snapDevices
  others : ∀ other, other ≠ dev → after.devices other = before.devices other
  allocated : dev < after.fresh
  device : ∃ device, after.devices dev = some device ∧ good device

/-- A device that was allocated. -/
theorem Kernel.Wired.begun (wired : kernel.Wired machine) (device : SnapDevice) :
    Spare machine leaky kernel.fresh (· = device) kernel (kernel.begun device) := by
  have others : ∀ other, other ≠ kernel.fresh →
      (kernel.begun device).devices other = kernel.devices other :=
    fun other away => kernel.begun_other away device
  have wired' : (kernel.begun device).Wired machine := by
    constructor
    · intro minor other slot
      have away : other ≠ kernel.fresh := fun same => wired.outside minor (same ▸ slot)
      rw [others other away]
      exact wired.live minor other slot
    · exact wired.apart
    · exact fun minor other slot => Nat.lt_succ_of_lt (wired.allocated minor other slot)
    · exact wired.bounded
    · exact wired.range
    · exact fun address above => wired.unallocated address (Nat.le_of_succ_le above)
  have tracing : (kernel.begun device).tracing = kernel.tracing :=
    @tracing_setDev_outside { kernel with fresh := kernel.fresh + 1 } _ wired.outside device
  refine ⟨⟨rfl, wired', ?_⟩, rfl, others, Nat.lt_succ_self _, device, kernel.begun_same device, rfl⟩
  rw [tracing]

namespace Spare

variable {good good' : SnapDevice → Prop}

theorem weaken (here : Spare machine leaky dev good before kernel)
    (weaker : ∀ device, good device → good' device) : Spare machine leaky dev good' before kernel :=
  { here with device := here.device.imp fun _ holds => ⟨holds.1, weaker _ holds.2⟩ }

theorem next (outside : before.Outside dev) (here : Spare machine leaky dev good before middle)
    (there : Local dev (fun _ => True) middle good' after) :
    Spare machine leaky dev good' before after := by
  obtain ⟨device, found, _, holds⟩ := there.device
  refine ⟨here.toThrough.trans ⟨there.elsewhere.faults, ?_, ?_⟩, ?_, ?_, ?_, device, found, holds⟩
  · exact there.elsewhere.wired here.wired (by simp [found])
  · rw [there.elsewhere.tracing_outside (outside.unchanged here.table)]
  · exact there.elsewhere.table.trans here.table
  · exact fun other away =>
      (there.elsewhere.devices other away).trans (here.others other away)
  · exact Nat.lt_of_lt_of_le here.allocated there.elsewhere.fresh

theorem set (outside : before.Outside dev) (here : Spare machine leaky dev good before kernel)
    {device : SnapDevice} (holds : good' device) :
    Spare machine leaky dev good' before (kernel.setDev dev device) :=
  here.next outside ⟨Elsewhere.setDev dev _ kernel _, _, Kernel.setDev_same _ _ _,
    fun _ _ _ _ => trivial, holds⟩

theorem setDev (outside : before.Outside dev) (here : Spare machine leaky dev good before kernel)
    {change : SnapDevice → SnapDevice} (keeps : ∀ device, good device → good' (change device)) :
    wp (Driver.setDev dev change) (fun _ => Spare machine leaky dev good' before)
      (fun _ _ => False) kernel := by
  obtain ⟨device, found, holds⟩ := here.device
  rw [wp_setDev found]
  exact here.set outside (keeps device holds)

/-- What the device does on its own. -/
theorem works {program : KernelM α} (outside : before.Outside dev)
    (here : Spare machine leaky dev good before kernel) (works : Works dev program)
    (stable : ∀ device device', good device → Alike device device' → good device') :
    wp program (fun _ => Spare machine leaky dev good before)
      (fun _ => Spare machine leaky dev good before) kernel := by
  obtain ⟨device, found, holds⟩ := here.device
  have next : ∀ {after : Kernel}, Local dev (fun _ => True) kernel (Alike device) after →
      Spare machine leaky dev good before after := fun there =>
    here.next outside (there.weaken fun device' alike => stable device device' holds alike)
  apply wp_mono (works device kernel found fun _ _ _ _ => trivial)
  · exact fun _ _ => next
  · exact fun _ _ => next

theorem frees (outside : before.Outside dev) (here : Spare machine leaky dev good before kernel) :
    wp (kfreeDev dev) (fun _ => Through machine leaky before) (fun _ _ => False) kernel := by
  apply wp_mono (kfreeDev_frees here.wired (outside.unchanged here.table)) _ fun _ _ => False.elim
  intro _ after freed
  refine here.toThrough.trans ⟨freed.aside.faults, freed.wired, ?_⟩
  rw [freed.tracing]

end Spare

/-- A device that can take the place of another one. -/
structure Successor (old device : SnapDevice) : Prop where
  unverified : device.unverified = false
  sdBaseDev : device.sdBaseDev = old.sdBaseDev
  sdBdevPath : device.sdBdevPath = old.sdBdevPath
  sdTracingOps : device.sdTracingOps = none

theorem Successor.stable (device device' : SnapDevice) (follows : Successor old device)
    (alike : Alike device device') : Successor old device' where
  unverified := alike.unverified.trans follows.unverified
  sdBaseDev := alike.sdBaseDev.trans follows.sdBaseDev
  sdBdevPath := alike.sdBdevPath.trans follows.sdBdevPath
  sdTracingOps := alike.sdTracingOps.trans follows.sdTracingOps

/-- It takes the slot of the old device, or is still in none. -/
theorem Spare.takesOver (wired : before.Wired machine) (outside : before.Outside dev)
    (here : Spare machine leaky dev (Successor old) before kernel)
    (held : before.Holds minor oldDev old) (verified : old.unverified = false)
    (based : old.sdBaseDev = some bdev) (modern : machine.build ≠ .makeRequest → leaky) :
    wp (tracerSetupTracing machine dev minor)
      (fun _ => Swapped machine leaky dev oldDev minor before)
      (OnError (Spare machine leaky dev (fun _ => True) before)) kernel := by
  obtain ⟨device, found, follows⟩ := here.device
  have differs : oldDev ≠ dev := fun same => outside minor (same ▸ held.1)
  have held' : kernel.Holds minor oldDev old :=
    ⟨(congrFun here.table minor).trans held.1, (here.others oldDev differs).trans held.2⟩
  apply wp_mono (tracerSetupTracing_spec here.wired (outside.unchanged here.table)
    (wired.bounded minor oldDev held.1) here.allocated found (follows.sdBaseDev.trans based)
    fun _ => follows.sdTracingOps)
  · intro _ after entered
    obtain ⟨bdOps, orig, trops, hooked, device', same, hooks, found', shown⟩ := entered.hooks
    have operation : Operation machine leaky kernel.tracing after.tracing := by
      rw [shown]
      apply Operation.replaced ⟨held'.slot, verified⟩ based _ _ _ _ hooks
      · rw [same]
      · rw [same]
        exact follows.unverified
      · rw [same]
        exact follows.sdBaseDev.trans based
      · rw [same]
        exact follows.sdBdevPath
    have table : after.snapDevices = Function.update before.snapDevices minor (some dev) := by
      rw [entered.table, here.table]
    have others : ∀ other, other ≠ dev → after.devices other = before.devices other :=
      fun other away => (entered.aside.devices other away).trans (here.others other away)
    refine ⟨⟨?_, updated table, ?_, entered.wired, here.operations.tail operation⟩, ?_, ?_, ?_, ?_⟩
    · exact entered.aside.faults.trans here.faults
    · exact fun other kept _ slot => others kept fun same => outside other (same ▸ slot)
    · rw [table, Function.update_self]
    · intro other slot
      rw [table] at slot
      by_cases there : other = minor
      · rw [there, Function.update_self] at slot
        exact differs (Option.some.inj slot).symm
      · rw [Function.update_of_ne there] at slot
        exact there (wired.apart other minor oldDev slot held.1)
    · simp [found']
    · rw [others oldDev differs, held.2]
      rfl
  · intro reason after failed
    refine failed.mono fun after refused => ?_
    obtain ⟨_, _, found'⟩ := refused.device
    refine ⟨here.toThrough.trans ⟨refused.aside.faults, refused.wired, ?_⟩, ?_, ?_, ?_, _, found',
      trivial⟩
    · by_cases legacy : machine.build = .makeRequest
      · rw [(refused.legacy legacy).1]
      · exact .single (.leaked (.inl (modern legacy)) refused.residue)
    · exact refused.table.trans here.table
    · exact fun other away => (refused.aside.devices other away).trans (here.others other away)
    · exact Nat.lt_of_lt_of_le here.allocated refused.aside.fresh

namespace Swapped

theorem onError (here : Swapped machine leaky dev oldDev minor before after) {reason : Stop} :
    OnError (Through machine leaky before) reason after := fun _ _ => .of_moved here.toMoved

theorem newWorks {program : KernelM α} (works : Works dev program) :
    Maintains (Swapped machine leaky dev oldDev minor before) program := newStep works

theorem oldWorks {program : KernelM α} (works : Works oldDev program) :
    Maintains (Swapped machine leaky dev oldDev minor before) program := by
  apply @oldStep _ _ _ _ _ _ _ _ (fun _ _ => True) (fun _ _ => True)
  exact fun old => (works old).mono (fun _ _ _ => trivial) fun _ _ _ => trivial

/-- The manager of the new device works on its file. -/
theorem runCow {cow : Address} (program : Cow.CowM α)
    (here : Swapped machine leaky dev oldDev minor before kernel) :
    wp (Driver.runCow cow program) (fun _ => Swapped machine leaky dev oldDev minor before)
      (fun _ => Swapped machine leaky dev oldDev minor before) kernel := by
  cases stored : kernel.cows cow with
  | none =>
      rw [wp_runCow_freed stored]
      exact here
  | some object =>
      have next : ∀ state, Swapped machine leaky dev oldDev minor before
          (kernel.putCow cow object state) := by
        intro state
        have wired : (kernel.putCow cow object state).Wired machine := { here.wired with }
        exact { here with wired := wired }
      rw [wp_runCow stored]
      apply wp_mono (wp_true program _)
      · exact fun _ state _ => next state
      · exact fun _ state _ => next state

theorem ends (here : Swapped machine leaky dev oldDev minor before kernel) :
    wp (kfreeDev oldDev) (fun _ => Through machine leaky before)
      (OnError (Through machine leaky before)) kernel := by
  apply wp_mono here.frees
  · exact fun _ _ moved => .of_moved moved
  · exact fun _ _ => False.elim

/-- The end of `tracer_active_snap_to_inc`. -/
theorem snapToInc (here : Swapped machine leaky dev oldDev minor before kernel) :
    wp
      (do
        tracerDestroyCowThread oldDev
        let stopped ← getDev oldDev
        match stopped.sdFailCode with
        | some error => do
            tracerSetFailState dev error
            wakeUpCowThread dev
            tracerDestroySnap oldDev
            kfreeDev oldDev
            .stop (.errno error)
        | none => do
            wakeUpCowThread dev
            let device ← getDev dev
            let cow ← deref device.sdCow
            ignoring (Driver.runCow cow Cow.cowTruncateToIndex)
            tracerDestroySnap oldDev
            kfreeDev oldDev)
      (fun _ => Through machine leaky before) (OnError (Through machine leaky before)) kernel := by
  rw [wp_bind]
  apply wp_mono (oldWorks .tracerDestroyCowThread kernel here) _ fun _ _ there => there.onError
  intro _ _ here
  obtain ⟨stopped, found⟩ := Option.isSome_iff_exists.mp here.old
  rw [wp_bind, wp_getDev found]
  cases stopped.sdFailCode with
  | some error =>
      dsimp only
      rw [wp_bind]
      apply wp_mono (newWorks (.tracerSetFailState error) _ here) _ fun _ _ there => there.onError
      intro _ _ here
      rw [wp_bind]
      apply wp_mono (newWorks .wakeUpCowThread _ here) _ fun _ _ there => there.onError
      intro _ _ here
      rw [wp_bind]
      apply wp_mono (oldWorks .tracerDestroySnap _ here) _ fun _ _ there => there.onError
      intro _ _ here
      rw [wp_bind]
      apply wp_mono here.ends _ fun _ _ => id
      exact fun _ _ through _ _ => through
  | none =>
      dsimp only
      rw [wp_bind]
      apply wp_mono (newWorks .wakeUpCowThread _ here) _ fun _ _ there => there.onError
      intro _ _ here
      obtain ⟨device, found⟩ := Option.isSome_iff_exists.mp here.device
      rw [wp_bind, wp_getDev found, wp_bind, wp_deref]
      split
      · exact OnError.oops _
      · rename_i cow _
        have truncates : wp (ignoring (Driver.runCow cow Cow.cowTruncateToIndex))
            (fun _ => Swapped machine leaky dev oldDev minor before)
            (OnError (Swapped machine leaky dev oldDev minor before)) _ :=
          wp_catching_errors (wp_mono (here.runCow _) (fun _ _ => id) fun _ _ there _ _ => there)
            fun _ _ => id
        rw [wp_bind]
        apply wp_mono truncates _ fun _ _ failed => failed.mono fun _ there => .of_moved there.toMoved
        intro _ _ here
        rw [wp_bind]
        apply wp_mono (oldWorks .tracerDestroySnap _ here) _ fun _ _ there => there.onError
        exact fun _ _ here => here.ends

/-- The end of `tracer_active_inc_to_snap`. -/
theorem incToSnap (here : Swapped machine leaky dev oldDev minor before kernel) :
    wp
      (do
        tracerDestroyCowThread oldDev
        wakeUpCowThread dev
        tracerDestroyCowPath oldDev
        ignoring (tracerDestroyCow oldDev .syncAndFree)
        kfreeDev oldDev)
      (fun _ => Through machine leaky before) (OnError (Through machine leaky before)) kernel := by
  have syncs : Works oldDev (ignoring (tracerDestroyCow oldDev .syncAndFree)) :=
    .catching (.tracerDestroyCow _) fun _ => .pure ()
  rw [wp_bind]
  apply wp_mono (oldWorks .tracerDestroyCowThread kernel here) _ fun _ _ there => there.onError
  intro _ _ here
  rw [wp_bind]
  apply wp_mono (newWorks .wakeUpCowThread _ here) _ fun _ _ there => there.onError
  intro _ _ here
  rw [wp_bind]
  apply wp_mono (oldWorks .tracerDestroyCowPath _ here) _ fun _ _ there => there.onError
  intro _ _ here
  rw [wp_bind]
  apply wp_mono (oldWorks syncs _ here) _ fun _ _ there => there.onError
  exact fun _ _ here => here.ends

end Swapped

/-- A device that is given up. -/
abbrev Spare.Idle (machine : Machine) (leaky : Prop) (dev : Address) (before after : Kernel) :
    Prop := Spare machine leaky dev (fun _ => True) before after

theorem tracerActiveSnapToInc_goes (wired : kernel.Wired machine)
    (held : kernel.Holds minor oldDev old) (numbered : old.sdMinor = minor)
    (verified : old.unverified = false) (based : old.sdBaseDev = some bdev)
    (modern : machine.build ≠ .makeRequest → leaky) :
    Goes machine leaky (tracerActiveSnapToInc machine oldDev) kernel := by
  have outside := wired.outside
  have differs : oldDev ≠ kernel.fresh := Nat.ne_of_lt (wired.allocated minor oldDev held.1)
  unfold Goes tracerActiveSnapToInc
  rw [wp_bind, wp_tracerAlloc]
  cases alloc : kernel.faults .tracerAlloc with
  | some error => exact fun _ _ => .refl wired
  | none =>
      dsimp only
      rw [wp_bind, wp_setDev (kernel.begun_same _), kernel.begun_setDev, wp_bind,
        wp_getDev ((kernel.begun_other differs _).trans held.2)]
      unfold tracerCopyBaseDev tracerCopyCowPath tracerCopyCow setCowDev
      rw [wp_bind, wp_setDev (kernel.begun_same _), kernel.begun_setDev, wp_bind,
        wp_setDev (kernel.begun_same _), kernel.begun_setDev, wp_bind, wp_bind, wp_deref]
      split
      · exact OnError.oops _
      · rename_i cow has
        rw [wp_bind, wp_update]
        generalize kept : Kernel.begun kernel _ = begun
        have begins : Spare.Idle machine leaky kernel.fresh kernel begun := by
          rw [← kept]
          exact (wired.begun _).weaken fun _ _ => trivial
        let handed : Kernel :=
          { begun with cowDev := Function.update begun.cowDev cow (some kernel.fresh) }
        have wired' : handed.Wired machine := { begins.wired with }
        have hands : Spare.Idle machine leaky kernel.fresh kernel handed :=
          { begins with wired := wired' }
        have found' : handed.devices kernel.fresh = some _ := kept ▸ kernel.begun_same _
        change wp (setDev kernel.fresh _) _ _ handed
        rw [wp_setDev found', wp_bind]
        change wp _ _ _ (handed.setDev kernel.fresh old.newInc)
        have here : Spare machine leaky kernel.fresh (Successor old) kernel
            (handed.setDev kernel.fresh old.newInc) := hands.set outside ⟨rfl, rfl, rfl, rfl⟩
        have traces : wp
            (do
              tracerSetupCowThread .cowThread kernel.fresh
              setDev kernel.fresh fun device =>
                { device with sdOrigRequestFn := old.sdOrigRequestFn }
              tracerSetupTracing machine kernel.fresh old.sdMinor)
            (fun _ => Swapped machine leaky kernel.fresh oldDev minor kernel)
            (OnError (Spare.Idle machine leaky kernel.fresh kernel))
            (handed.setDev kernel.fresh old.newInc) := by
          rw [wp_bind]
          apply wp_mono (here.works outside (.tracerSetupCowThread _) Successor.stable)
          · intro _ middle there
            have hooks : wp
                (setDev kernel.fresh fun device =>
                  { device with sdOrigRequestFn := old.sdOrigRequestFn })
                (fun _ => Spare machine leaky kernel.fresh (Successor old) kernel)
                (fun _ _ => False) middle :=
              there.setDev outside fun _ follows => { follows with }
            rw [wp_bind]
            apply wp_mono hooks _ fun _ _ => False.elim
            intro _ _ poised
            rw [numbered]
            exact poised.takesOver wired outside held verified based modern
          · exact fun _ _ there _ _ => there.weaken fun _ _ => trivial
        have cleans : ∀ middle, Spare.Idle machine leaky kernel.fresh kernel middle →
            wp
              (do
                tracerDestroyCowThread kernel.fresh
                kfreeDev kernel.fresh)
              (fun _ => Through machine leaky kernel) (OnError (Through machine leaky kernel))
              middle := by
          intro middle idle
          rw [wp_bind]
          apply wp_mono (idle.works outside .tracerDestroyCowThread fun _ _ _ _ => trivial)
          · exact fun _ _ there => wp_mono (there.frees outside) (fun _ _ => id) fun _ _ => False.elim
          · exact fun _ _ there _ _ => there.toThrough
        apply wp_mono (wp_unwinding_errors traces fun _ => cleans)
        · exact fun _ _ swapped => swapped.snapToInc
        · exact fun _ _ => id

theorem Spare.unwindSnap (outside : before.Outside dev)
    (here : Spare.Idle machine leaky dev before kernel) :
    wp (unwindSnap dev) (fun _ => Through machine leaky before)
      (OnError (Through machine leaky before)) kernel := by
  have goesOn : ∀ {program : KernelM Unit} {kernel : Kernel},
      Spare.Idle machine leaky dev before kernel → Works dev program →
      wp program (fun _ => Spare.Idle machine leaky dev before)
        (OnError (Through machine leaky before)) kernel := by
    intro program kernel here works
    apply wp_mono (here.works outside works fun _ _ _ _ => trivial) fun _ _ => id
    exact fun _ _ there _ _ => there.toThrough
  unfold Driver.unwindSnap
  rw [wp_bind]
  apply wp_mono (goesOn here .tracerDestroyCowThread) _ fun _ _ => id
  intro _ _ here
  rw [wp_bind]
  apply wp_mono (goesOn here .tracerDestroySnap) _ fun _ _ => id
  intro _ _ here
  rw [wp_bind]
  apply wp_mono (goesOn here .tracerDestroyCowPath) _ fun _ _ => id
  intro _ _ here
  rw [wp_bind]
  apply wp_mono (goesOn here (.tracerDestroyCow .free)) _ fun _ _ => id
  exact fun _ _ here => wp_mono (here.frees outside) (fun _ _ => id) fun _ _ => False.elim

theorem tracerActiveIncToSnap_goes (wired : kernel.Wired machine)
    (held : kernel.Holds minor oldDev old) (numbered : old.sdMinor = minor)
    (verified : old.unverified = false) (based : old.sdBaseDev = some bdev)
    (modern : machine.build ≠ .makeRequest → leaky) (path : CowPath) (fallocatedSpace : Nat) :
    Goes machine leaky (tracerActiveIncToSnap machine oldDev path fallocatedSpace) kernel := by
  have outside := wired.outside
  have differs : oldDev ≠ kernel.fresh := Nat.ne_of_lt (wired.allocated minor oldDev held.1)
  unfold Goes tracerActiveIncToSnap
  rw [wp_bind, wp_tracerAlloc]
  cases alloc : kernel.faults .tracerAlloc with
  | some error => exact fun _ _ => .refl wired
  | none =>
      have found : (kernel.begun .newSnap).devices oldDev = some old :=
        (kernel.begun_other differs _).trans held.2
      dsimp only
      rw [wp_bind, wp_setDev (kernel.begun_same _), kernel.begun_setDev]
      change wp _ _ _ (kernel.begun .newSnap)
      rw [wp_bind, wp_read, wp_bind, wp_getDev found, wp_bind, wp_deref]
      split
      · exact OnError.oops _
      · rename_i cow has
        rw [wp_bind, wp_deref]
        split
        · exact OnError.oops _
        · rename_i object stored
          unfold tracerCopyBaseDev
          rw [wp_bind, wp_setDev (kernel.begun_same _), kernel.begun_setDev]
          change wp _ _ _ (kernel.begun old.nextSnap)
          have here : Spare machine leaky kernel.fresh (Successor old) kernel
              (kernel.begun old.nextSnap) := by
            apply (wired.begun _).weaken
            intro device same
            rw [same]
            exact ⟨rfl, rfl, rfl, rfl⟩
          have goesOn : ∀ {α : Type} {program : KernelM α} {middle : Kernel},
              Spare machine leaky kernel.fresh (Successor old) kernel middle →
              Works kernel.fresh program →
              wp program (fun _ => Spare machine leaky kernel.fresh (Successor old) kernel)
                (OnError (Spare.Idle machine leaky kernel.fresh kernel)) middle := by
            intro α program middle here works
            apply wp_mono (here.works outside works Successor.stable) fun _ _ => id
            exact fun _ _ there _ _ => there.weaken fun _ _ => trivial
          have body : wp
              (do
                let device ← getDev kernel.fresh
                let bdev ← deref device.sdBaseDev
                tracerSetupCow machine kernel.fresh bdev path (.new device.sdSize
                  (if fallocatedSpace = 0 then old.sdFallocSize else fallocatedSpace)
                  device.sdCacheSize object.cm.uuid ((object.cm.seqid + 1) % word64))
                tracerSetupCowPath kernel.fresh
                tracerSetupSnap kernel.fresh
                tracerSetupCowThread .cowThread kernel.fresh
                setDev kernel.fresh fun device =>
                  { device with sdOrigRequestFn := old.sdOrigRequestFn }
                tracerSetupTracing machine kernel.fresh old.sdMinor)
              (fun _ => Swapped machine leaky kernel.fresh oldDev minor kernel)
              (OnError (Spare.Idle machine leaky kernel.fresh kernel))
              (kernel.begun old.nextSnap) := by
            have based' : old.nextSnap.sdBaseDev = some bdev := based
            rw [wp_bind, wp_getDev (kernel.begun_same _), wp_bind, wp_deref_some based', wp_bind]
            apply wp_mono (goesOn here (.tracerSetupCow _ _ _)) _ fun _ _ => id
            intro _ _ here
            rw [wp_bind]
            apply wp_mono (goesOn here .tracerSetupCowPath) _ fun _ _ => id
            intro _ _ here
            rw [wp_bind]
            apply wp_mono (goesOn here .tracerSetupSnap) _ fun _ _ => id
            intro _ _ here
            rw [wp_bind]
            apply wp_mono (goesOn here (.tracerSetupCowThread _)) _ fun _ _ => id
            intro _ middle here
            have hooks : wp
                (setDev kernel.fresh fun device =>
                  { device with sdOrigRequestFn := old.sdOrigRequestFn })
                (fun _ => Spare machine leaky kernel.fresh (Successor old) kernel)
                (fun _ _ => False) middle :=
              here.setDev outside fun _ follows => { follows with }
            rw [wp_bind]
            apply wp_mono hooks _ fun _ _ => False.elim
            intro _ _ poised
            rw [numbered]
            exact poised.takesOver wired outside held verified based modern
          have cleans : ∀ middle, Spare.Idle machine leaky kernel.fresh kernel middle →
              wp (unwindSnap kernel.fresh) (fun _ => Through machine leaky kernel)
                (OnError (Through machine leaky kernel)) middle :=
            fun _ idle => idle.unwindSnap outside
          rw [wp_bind]
          apply wp_mono (wp_unwinding_errors body fun _ => cleans)
          · exact fun _ _ swapped => swapped.incToSnap
          · exact fun _ _ => id

theorem ioctlTransitionInc_goes (order : kernel.InOrder machine terms)
    (wired : kernel.Wired machine) (formed : kernel.tracing.Formed machine)
    (modern : machine.build ≠ .makeRequest → leaky) :
    Goes machine leaky (ioctlTransitionInc machine minor) kernel := by
  apply change_first (Through.refl wired)
  intro dev device held changes
  have verified := order.verified held changes.active
  obtain ⟨bdev, based⟩ := formed.verified ⟨held.slot, verified⟩
  exact tracerActiveSnapToInc_goes wired held (formed.slotted minor device held.slot).sdMinor
    verified based modern

theorem ioctlTransitionSnap_goes (order : kernel.InOrder machine terms)
    (wired : kernel.Wired machine) (formed : kernel.tracing.Formed machine)
    (modern : machine.build ≠ .makeRequest → leaky) (path : CowPath) (fallocatedSpace : Nat) :
    Goes machine leaky (ioctlTransitionSnap machine minor path fallocatedSpace) kernel := by
  apply change_first (Through.refl wired)
  intro dev device held changes
  have verified := order.verified held changes.active
  obtain ⟨bdev, based⟩ := formed.verified ⟨held.slot, verified⟩
  exact tracerActiveIncToSnap_goes wired held (formed.slotted minor device held.slot).sdMinor
    verified based modern path fallocatedSpace

end changes

section activation

theorem Unplaced.through {good : SnapDevice → Prop}
    (unplaced : Unplaced machine leaky dev (fun _ => True) good before after) :
    Through machine leaky before after :=
  ⟨unplaced.apart.faults, unplaced.wired, unplaced.operations⟩

/-- A device that was taken from its slot is set up there anew, once it has a base device. -/
theorem verify_spec {bdevPath : Nat} (blank : Blank machine before dev minor)
    (here : Beside machine dev (fun _ => True) before
      (fun after => after = device.withBase machine bdevPath) kernel)
    (apart : before.tracing.NotTraced (machine.bdevAt bdevPath))
    (verified : device.unverified = false) (orig : device.sdOrigRequestFn = none)
    (trops : device.sdTracingOps = none) (mountBdev relPath : Nat) (isSnap : Bool) :
    wp (verify machine dev minor mountBdev relPath isSnap)
      (fun _ => Through machine (Leaky machine before.faults) before)
      (OnError (Unplaced machine (Leaky machine before.faults) dev (fun _ => True)
        (fun after => after.sdOrigRequestFn = none) before)) kernel := by
  unfold verify
  rw [wp_bind, wp_attempt]
  cases kernel.faults .concatPath with
  | some error =>
      refine fun _ _ => (here.weaken ?_).unplaced
      intro _ same
      rw [same]
      exact orig
  | none =>
      have based : (device.withBase machine bdevPath).sdBaseDev =
          some (machine.bdevAt bdevPath) := rfl
      have path : (device.withBase machine bdevPath).sdBdevPath.isSome := rfl
      apply wp_mono (@setup_based machine kernel dev _ _ minor (fun _ => True) isSnap before
        ⟨mountBdev, relPath⟩ trivial blank here apart based path verified orig trops
        fun current => .reload current.sdSize current.sdCacheSize (!isSnap))
      · exact fun _ _ placed => .of_moved (placed.moved blank.outside)
      · exact fun _ _ => id

theorem TraceTable.setSlot_setSlot (table : TraceTable) (minor : Nat)
    (first second : Option SnapDevice) :
    (table.setSlot minor first).setSlot minor second = table.setSlot minor second := by
  simp [TraceTable.setSlot]

/-- A device that waits has a fail code from now on. -/
theorem Registered.fails {relPath bdevPath cacheSize : Nat} {isSnap : Bool}
    (blank : Blank machine before dev minor) (error : Errno)
    (based : device.sdBaseDev = none) (orig : device.sdOrigRequestFn = none)
    (registered : Registered machine dev (fun _ => True) minor
      (device.registered minor bdevPath relPath cacheSize isSnap) before after) :
    Through machine leaky before
      (after.setDev dev ((device.registered minor bdevPath relPath cacheSize isSnap).failed error)) := by
  let failed := (device.registered minor bdevPath relPath cacheSize isSnap).failed error
  have slot : after.snapDevices minor = some dev := by
    rw [registered.table, Function.update_self]
  have elsewhere : Elsewhere dev (fun _ => True) after (after.setDev dev failed) :=
    .setDev dev _ after failed
  have found : (after.setDev dev failed).devices dev = some failed := Kernel.setDev_same _ _ _
  refine ⟨registered.apart.faults, elsewhere.wired registered.wired (by simp), .single ?_⟩
  rw [elsewhere.tracing_inside registered.wired slot found, registered.tracing,
    TraceTable.setSlot_setSlot]
  refine .registered blank.bound (Kernel.slots_none blank.free) rfl rfl ⟨based, rfl, orig, ?_⟩
  intro code
  have code : device.sdFailCode.orElse (fun _ => some error) = none := code
  cases was : device.sdFailCode with
  | none => simp [was] at code
  | some _ => simp [was] at code

/-- A device whose activation failed waits again. -/
theorem unverify_spec (blank : Blank machine before dev minor)
    (here : Unplaced machine leaky dev (fun _ => True)
      (fun after => after.sdOrigRequestFn = none) before kernel)
    (bdevPath relPath cacheSize : Nat) (isSnap : Bool) (error : Errno) :
    wp (unverify machine dev minor bdevPath relPath cacheSize isSnap error)
      (fun _ => Through machine leaky before) (OnError (Through machine leaky before)) kernel := by
  unfold unverify
  rw [wp_bind]
  apply wp_mono (here.destroyed blank.outside fun _ => id) _
    fun _ _ failed => failed.mono fun _ => False.elim
  intro _ torn gone
  obtain ⟨device, found, owns, given, orig, _, _, _, same⟩ := gone.device
  have begun : Beside machine dev (fun _ => True) torn (fun after => after = device) torn :=
    ⟨(Aside.refl dev torn).apart _, gone.allocated, rfl, rfl, gone.wired, device, found, owns, rfl⟩
  have blank' : Blank machine torn dev minor :=
    ⟨blank.outside.unchanged gone.table, blank.bound, (congrFun gone.table minor).trans blank.free⟩
  have based : device.sdBaseDev = none := by rw [same]
  have orig : device.sdOrigRequestFn = none := by
    rw [same]
    exact orig
  have waits : wp
      (ignoring (tracerSetupUnverified machine dev minor bdevPath relPath cacheSize isSnap))
      (fun _ after => Registered machine dev (fun _ => True) minor
          (device.registered minor bdevPath relPath cacheSize isSnap) torn after ∨
        Unplaced machine leaky dev (fun _ => True) (fun _ => True) torn after)
      (OnError fun _ => False) torn := by
    have spec := @tracerSetupUnverified_spec machine torn dev device minor (fun _ => True) leaky torn
      blank' begun orig bdevPath relPath cacheSize isSnap
    apply wp_catching_errors (wp_mono spec (fun _ _ => .inl) fun _ _ => id)
    exact fun _ _ => .inr
  rw [wp_bind]
  apply wp_mono waits _ fun _ _ failed => failed.mono fun _ => False.elim
  intro _ after either
  rcases either with registered | unplaced
  · unfold tracerSetFailState
    rw [wp_setDev registered.found]
    exact gone.through.trans (registered.fails blank' error based orig)
  · obtain ⟨device', found', _, _⟩ := unplaced.device
    have here : Through machine leaky before after := gone.through.trans unplaced.through
    have outside := blank'.outside.unchanged unplaced.table
    apply wp_mono (Works.tracerSetFailState error device' after found' fun _ _ _ _ => trivial)
    · exact fun _ _ there => here.trans (.of_moved (there.moved_outside minor outside here.wired))
    · exact fun _ _ there _ _ =>
        here.trans (.of_moved (there.moved_outside minor outside here.wired))

/-- A device that waits for its block device is to become active, or waits again. -/
theorem tracerUnverifiedToActive_goes (wired : kernel.Wired machine)
    (formed : kernel.tracing.Formed machine) (held : kernel.Holds minor dev device)
    (waits : device.unverified = true) (fine : device.sdFailCode = none)
    (late : Leaky machine kernel.faults → leaky) (mountBdev : Nat) (isSnap : Bool) :
    Goes machine leaky (tracerUnverifiedToActive machine dev mountBdev isSnap) kernel := by
  have slotted := formed.slotted minor device held.slot
  have waiting := slotted.waiting waits
  have numbered := slotted.sdMinor
  have orig := waiting.sdOrigRequestFn
  unfold Goes tracerUnverifiedToActive
  rw [wp_bind, wp_read, wp_bind, wp_getDev held.2, wp_bind]
  apply wp_mono (tracerDestroyTracing_vacates wired held numbered orig) _ fun _ _ => False.elim
  intro _ vacated left
  have drops : Through machine leaky kernel vacated := by
    refine ⟨left.aside.faults, left.wired, .single ?_⟩
    rw [left.tracing]
    exact .dropped held.slot orig
  have outside : vacated.Outside dev := outside_cleared wired held.1 left.table
  have free : vacated.snapDevices minor = none := by
    rw [left.table, Function.update_self]
  have blank : Blank machine vacated dev minor := ⟨outside, slotted.bound, free⟩
  have allocated : dev < vacated.fresh :=
    Nat.lt_of_lt_of_le (wired.allocated minor dev held.1) left.aside.fresh
  have here : Beside machine dev (fun _ => True) vacated
      (fun after => after = { device with sdMinor := 0 }) vacated :=
    ⟨(Aside.refl dev vacated).apart _, allocated, rfl, rfl, left.wired, _, left.device,
      fun _ _ _ _ => trivial, rfl⟩
  let revived : SnapDevice :=
    { device with
      sdMinor := 0, active := true, unverified := false, sdBdevPath := none, sdCowPath := none }
  have flags := here.setDev (f := fun device =>
      { device with active := true, unverified := false, sdBdevPath := none, sdCowPath := none })
    outside (fun after => after = revived) fun _ same => by
      rw [same]
      exact ⟨fun _ _ _ _ _ => trivial, rfl⟩
  rw [wp_bind]
  apply wp_mono flags _ fun _ _ => False.elim
  intro _ middle here
  rw [wp_bind, wp_deref]
  split
  · exact OnError.oops _
  · rename_i bdevPath _
    rw [wp_bind, wp_deref]
    split
    · exact OnError.oops _
    · rename_i relPath _
      have leaks : Leaky machine vacated.faults → leaky := by
        rw [left.aside.faults]
        exact late
      have ends : ∀ {program : KernelM Unit} {last : Kernel},
          wp program (fun _ => Through machine (Leaky machine vacated.faults) vacated)
            (OnError (Through machine (Leaky machine vacated.faults) vacated)) last →
          wp program (fun _ => Through machine leaky kernel)
            (OnError (Through machine leaky kernel)) last := by
        intro program last goes
        apply wp_mono goes
        · exact fun _ _ through => drops.trans (through.weaken leaks)
        · exact fun _ _ failed => failed.mono fun _ through => drops.trans (through.weaken leaks)
      have parks : ∀ error after,
          Unplaced machine (Leaky machine vacated.faults) dev (fun _ => True)
            (fun after => after.sdOrigRequestFn = none) vacated after →
          wp (unverify machine dev minor bdevPath relPath device.sdCacheSize isSnap error)
            (fun _ => Through machine leaky kernel)
            (OnError (Through machine leaky kernel)) after :=
        fun error _ unplaced =>
          ends (unverify_spec blank unplaced bdevPath relPath device.sdCacheSize isSnap error)
      rw [numbered, wp_bind]
      have unbased : ∀ {last : Kernel},
          Beside machine dev (fun _ => True) vacated (OnlyBase revived) last →
          Unplaced machine (Leaky machine vacated.faults) dev (fun _ => True)
            (fun after => after.sdOrigRequestFn = none) vacated last := by
        intro last only
        refine (only.weaken ?_).unplaced
        intro _ changed
        obtain ⟨_, _, _, same⟩ := changed
        rw [same]
        exact orig
      refine wp_returned_errors (wp_mono (tracerSetupBaseDev_beside bdevPath blank.outside here) ?_
        fun _ _ only _ _ => unbased only) ?_
      · intro _ based there
        obtain ⟨apart, there⟩ := there
        apply wp_catching_errors
        · apply wp_mono (verify_spec blank there apart rfl orig (waiting.sdTracingOps fine)
            mountBdev relPath isSnap)
          · exact fun _ _ through => drops.trans (through.weaken leaks)
          · exact fun _ _ => id
        · exact parks
      · intro error based unplaced
        dsimp only
        rw [wp_bind]
        apply wp_mono (parks error based unplaced) _ fun _ _ => id
        intro _ _ through
        rw [wp_when]
        split
        · exact OnError.oops _
        · exact through

theorem autoTransitionActive_goes (wired : kernel.Wired machine)
    (formed : kernel.tracing.Formed machine)
    (fine : ∀ dev device, kernel.Holds minor dev device → device.unverified = true →
      device.sdFailCode = none ∧ (Leaky machine kernel.faults → leaky)) (mountBdev : Nat) :
    Goes machine leaky (autoTransitionActive machine minor mountBdev) kernel := by
  apply slotted_first
  intro dev device held
  rw [wp_ite]
  split
  · rename_i waits
    obtain ⟨code, late⟩ := fine dev device held waits
    exact tracerUnverifiedToActive_goes wired formed held waits code late mountBdev _
  · rename_i verified
    have verified : device.unverified = false := by simpa using verified
    have activates := @Works.tracerDormantToActive machine dev device verified mountBdev
    have moved : ∀ {after : Kernel}, Local dev (fun _ => True) kernel (Alike device) after →
        Through machine leaky kernel after :=
      fun there => .of_moved (there.moved held wired fun _ => id)
    apply wp_mono (activates kernel held.2 fun _ _ _ _ => trivial)
    · exact fun _ _ => moved
    · exact fun _ _ there _ _ => moved there

theorem handleBdevMountWritable_goes (wired : kernel.Wired machine)
    (formed : kernel.tracing.Formed machine) (late : Leaky machine kernel.faults → leaky) :
    Goes machine leaky (handleBdevMountWritable machine bdev) kernel := by
  apply writable_first wired.range (Through.refl wired)
  intro minor dev device held fine
  apply autoTransitionActive_goes wired formed
  intro dev' device' held' _
  cases held.1.symm.trans held'.1
  cases held.2.symm.trans held'.2
  exact ⟨fine, late⟩

end activation

section mounts

theorem SysResult.apply_goes (wired : kernel.Wired machine) (result : SysResult) (bdev : Nat) :
    wp (result.apply bdev)
      (fun _ after => Through machine leaky kernel after ∧
        after.snapDevices = kernel.snapDevices ∧ after.devices = kernel.devices)
      (fun _ _ => False) kernel := by
  cases result with
  | none => exact ⟨.refl wired, rfl, rfl⟩
  | some mounted =>
      have wired' : Kernel.Wired machine
          { kernel with mounted := Function.update kernel.mounted bdev mounted } := { wired with }
      exact ⟨⟨rfl, wired', .refl⟩, rfl, rfl⟩

theorem postUmountFailed_goes (wired : kernel.Wired machine) (formed : kernel.tracing.Formed machine)
    (mountBdev : Nat) (dozes : kernel.Dozes (some minor)) :
    Goes machine leaky (postUmountFailed machine minor mountBdev) kernel := by
  apply slotted_first
  intro dev device held
  rw [wp_bind, wp_deref]
  split
  · exact OnError.oops _
  · rw [wp_bind, wp_read]
    cases kernel.faults .umountBdev with
    | some error => exact (Works.tracerSetFailState enodev).goes wired held
    | none =>
        apply autoTransitionActive_goes wired formed
        intro dev' device' held' waits
        exact absurd ((dozes minor dev' device' rfl held').symm.trans waits) (by simp)

theorem postUmountUnlocked_goes (wired : kernel.Wired machine) :
    Goes machine leaky (postUmountUnlocked (kernel.snapDevices minor)) kernel := by
  unfold Goes postUmountUnlocked
  rw [wp_bind, wp_deref]
  split
  · exact OnError.oops _
  · rename_i dev slot
    obtain ⟨device, found⟩ := Option.isSome_iff_exists.mp (wired.live minor dev slot)
    rw [wp_bind, wp_getDev found, wp_bind, wp_deref]
    split
    · exact OnError.oops _
    · rw [wp_bind, wp_read]
      exact (Works.when (.tracerSetFailState .eio)).goes wired ⟨slot, found⟩

/-- What follows the hook of an umount, which moved the device of this minor. -/
theorem umounted_goes {moved : Option Nat} (wired : kernel.Wired machine)
    (formed : kernel.tracing.Formed machine) (dozes : kernel.Dozes moved) (result : SysResult) :
    Goes machine leaky
      (do
        result.apply bdev
        postUmountCheck machine moved bdev result.isNone) kernel := by
  have applies := @SysResult.apply_goes machine kernel leaky wired result bdev
  unfold Goes
  rw [wp_bind]
  apply wp_mono applies _ fun _ _ => False.elim
  intro _ after applied
  obtain ⟨through, table, devices⟩ := applied
  have formed' := through.formed formed
  have dozes : after.Dozes moved := by
    intro minor dev device is held
    apply dozes minor dev device is
    unfold Kernel.Holds at held ⊢
    rw [table, devices] at held
    exact held
  unfold postUmountCheck
  cases moved with
  | none => exact through
  | some minor =>
      dsimp only
      rw [wp_ite]
      split
      · exact through.next (postUmountFailed_goes through.wired formed' bdev dozes)
      · rw [wp_bind, wp_read]
        exact through.next (postUmountUnlocked_goes through.wired)

theorem umount_goes (order : kernel.InOrder machine terms) (wired : kernel.Wired machine)
    (formed : kernel.tracing.Formed machine) (throughMount : Bool) (result : SysResult) :
    Goes machine leaky (umount machine bdev throughMount result) kernel := by
  have moves : wp (handleBdevMountNowrite bdev throughMount)
      (fun moved after => Through machine leaky kernel after ∧ after.Dozes moved)
      (OnError (Through machine leaky kernel)) kernel := by
    apply nowrite_first wired.range (Through.refl wired)
    · exact ⟨.refl wired, fun _ _ _ moved => by simp at moved⟩
    · intro minor dev device held active
      have verified := order.verified held active
      have moved : ∀ {after : Kernel}, Local dev (fun _ => True) kernel (Alike device) after →
          Through machine leaky kernel after :=
        fun there => .of_moved (there.moved held wired fun _ => id)
      apply wp_mono (Works.tracerActiveToDormant device kernel held.2 fun _ _ _ _ => trivial)
      · intro _ after there
        refine ⟨moved there, ?_⟩
        intro other dev' device' is held'
        cases Option.some.inj is
        obtain ⟨kept, found, _, alike⟩ := there.device
        have slot := (congrFun there.elsewhere.table minor).symm.trans held'.1
        cases held.1.symm.trans slot
        cases found.symm.trans held'.2
        exact alike.unverified.trans verified
      · exact fun _ _ there _ _ => moved there
  unfold Goes umount
  rw [wp_bind, wp_handle]
  apply wp_mono moves
  · intro moved middle hooked
    exact hooked.1.next (umounted_goes hooked.1.wired (hooked.1.formed formed) hooked.2 result)
  · intro reason after failed
    cases reason with
    | errno error =>
        have through := failed error rfl
        have nothing : after.Dozes none := fun _ _ _ moved => by simp at moved
        exact through.next (umounted_goes through.wired (through.formed formed) nothing result)
    | oops => exact OnError.oops _
    | crash => exact OnError.crash _

theorem mount_goes (wired : kernel.Wired machine) (formed : kernel.tracing.Formed machine)
    (late : Leaky machine kernel.faults → leaky) (result : SysResult) :
    Goes machine leaky (mount machine bdev result) kernel := by
  have applies := @SysResult.apply_goes machine kernel leaky wired result bdev
  unfold Goes mount
  rw [wp_bind]
  apply wp_mono applies _ fun _ _ => False.elim
  intro _ after applied
  have through := applied.1
  have late' : Leaky machine after.faults → leaky := by
    rw [through.faults]
    exact late
  rw [wp_when]
  split
  · have goes := @handleBdevMountWritable_goes machine after bdev leaky through.wired
      (through.formed formed) late'
    exact through.next (wp_catching_errors goes fun _ _ => id)
  · exact through

theorem mountReadOnly_goes (wired : kernel.Wired machine) :
    Goes machine leaky (mountReadOnly bdev) kernel := by
  unfold Goes mountReadOnly
  rw [wp_bind, wp_read, wp_when]
  split
  · exact wp_mono (SysResult.apply_goes wired _ bdev) (fun _ _ applied => applied.1)
      fun _ _ => False.elim
  · exact .refl wired

end mounts

section events

/-- Whether a call may leave something behind that a setup took: in the build that counts the
references to a `make_request_fn`, where it fails late. -/
def Call.Leaks (machine : Machine) (call : Call) : Prop :=
  match call.event with
  | .setupSnap .. | .mount .. => Leaky machine call.faults
  | _ => machine.build ≠ .makeRequest

/-- The program of an event is a sequence of operations on the table. -/
theorem Event.program_goes {call : Call} (order : kernel.InOrder machine terms)
    (wired : kernel.Wired machine) (formed : kernel.tracing.Formed machine)
    (releases : call.Releases machine kernel) :
    Goes machine (call.Leaks machine) (call.event.program machine) (kernel.prepare call) := by
  have order : (kernel.prepare call).InOrder machine terms := { order with }
  have wired : (kernel.prepare call).Wired machine := { wired with }
  have formed : (kernel.prepare call).tracing.Formed machine := formed
  unfold Call.Releases at releases
  unfold Call.Leaks
  cases call with
  | mk event faults outcomes =>
      cases event with
      | setupSnap => exact ioctlSetupSnap_goes wired id _ _ _ _ _
      | reload => exact ioctlReload_goes wired _ _ _ _
      | destroy => exact ioctlDestroy_goes wired formed releases
      | transitionInc => exact ioctlTransitionInc_goes order wired formed id
      | transitionSnap => exact ioctlTransitionSnap_goes order wired formed id _ _
      | reconfigure => exact ioctlReconfigure_goes wired _
      | openSnap => exact snapRefs_goes wired (· + 1)
      | releaseSnap => exact snapRefs_goes wired (· - 1)
      | umount => exact umount_goes order wired formed _ _
      | mount => exact mount_goes wired formed id _
      | mountReadOnly => exact mountReadOnly_goes wired
      | write => exact traceWrite_goes wired _
      | work => exact cowThreadStep_goes wired
      | reboot => exact OnError.crash _

end events

end Moocbt.Driver
