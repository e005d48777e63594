import Moocbt.Driver.Unwinding
import Moocbt.Driver.Upkeep

/-! A change of the mode of a device leaves the table in order: the new device takes the slot of the
old one, or is freed. -/

namespace Moocbt.Driver

open Cow (Errno Stop)
open Program

variable {α : Type} {machine : Machine} {kernel before after : Kernel} {dev oldDev cow : Address}
  {device old : SnapDevice} {bdev minor : Nat} {terms : Terms}

/-- The new device is in the slot of the old one, which is still there. -/
structure Replaced (machine : Machine) (terms : Terms) (dev oldDev : Address) (kernel : Kernel) :
    Prop where
  order : kernel.InOrder machine terms
  outside : kernel.Outside oldDev
  device : (kernel.devices dev).isSome
  old : (kernel.devices oldDev).isSome

namespace Replaced

theorem minds {program : KernelM α} {who : Address} (is : who = dev ∨ who = oldDev)
    (here : Replaced machine terms dev oldDev kernel) (minds : Minds who program) :
    wp program (fun _ => Replaced machine terms dev oldDev)
      (OnError (Replaced machine terms dev oldDev)) kernel := by
  have known : (kernel.devices who).isSome := by
    rcases is with same | same
    · rw [same]
      exact here.device
    · rw [same]
      exact here.old
  obtain ⟨device, found⟩ := Option.isSome_iff_exists.mp known
  have next : ∀ {after : Kernel}, Local who (fun _ => True) kernel (Steady device) after →
      Replaced machine terms dev oldDev after := by
    intro after there
    have kept : ∀ other, (kernel.devices other).isSome → (after.devices other).isSome := by
      intro other was
      by_cases same : other = who
      · obtain ⟨device', found', _⟩ := there.device
        rw [same]
        simp [found']
      · rw [there.elsewhere.devices other same]
        exact was
    exact ⟨there.orderly here.order found, here.outside.unchanged there.elsewhere.table,
      kept dev here.device, kept oldDev here.old⟩
  apply wp_mono (minds device kernel found fun _ _ _ _ => trivial)
  · exact fun _ _ there => next there
  · exact fun _ _ there error same => next (there.weaken fun _ steady => steady error same)

/-- What the new device does on its own, and the old one. -/
theorem newStep {program : KernelM α} (here : Replaced machine terms dev oldDev kernel)
    (minds : Minds dev program) :
    wp program (fun _ => Replaced machine terms dev oldDev)
      (OnError (Replaced machine terms dev oldDev)) kernel := here.minds (.inl rfl) minds

theorem oldStep {program : KernelM α} (here : Replaced machine terms dev oldDev kernel)
    (minds : Minds oldDev program) :
    wp program (fun _ => Replaced machine terms dev oldDev)
      (OnError (Replaced machine terms dev oldDev)) kernel := here.minds (.inr rfl) minds

theorem frees (here : Replaced machine terms dev oldDev kernel)
    (never : terms.refs → machine.build = .makeRequest) :
    wp (kfreeDev oldDev) (fun _ after => after.InOrder machine terms) (fun _ _ => False) kernel := by
  apply kfreeDev_orderly (here.order.weaken fun _ => False.elim)
  · exact fun is modern => absurd (never is) modern
  · exact fun _ => here.outside

/-- A manager works on its file. -/
theorem runCow (here : Replaced machine terms dev oldDev kernel) (program : Cow.CowM α) :
    wp (runCow cow program) (fun _ => Replaced machine terms dev oldDev)
      (OnError (Replaced machine terms dev oldDev)) kernel := by
  cases stored : kernel.cows cow with
  | none =>
      rw [wp_runCow_freed stored]
      exact OnError.oops _
  | some object =>
      have next : ∀ state, Replaced machine terms dev oldDev (kernel.putCow cow object state) := by
        intro state
        have order : (kernel.putCow cow object state).InOrder machine terms := { here.order with }
        exact ⟨order, here.outside, here.device, here.old⟩
      rw [wp_runCow stored]
      apply wp_mono (wp_true program _)
      · exact fun _ state _ => next state
      · exact fun _ state _ _ _ => next state

end Replaced

/-- The new device takes the slot of the old one. -/
theorem Off.takesOver (here : Off machine terms before dev none (Poised (some bdev)) kernel)
    (order : before.InOrder machine terms) (held : before.Holds minor oldDev old) :
    wp (Driver.tracerSetupTracing machine dev minor)
      (fun _ after => Replaced machine terms dev oldDev after ∧
        (machine.build = .hooked → before.faults .tracingOps = none))
      (OnError (Spoilt machine terms dev bdev before)) kernel := by
  apply wp_mono (here.joins (order.bounded held.1)) _ fun _ _ => id
  intro _ after joins
  obtain ⟨device, joined⟩ := joins
  have differs : oldDev ≠ dev := by
    intro same
    apply here.outside minor
    rw [here.table, ← same]
    exact held.1
  refine ⟨⟨joined.orderly, ?_, ?_, ?_⟩, ?_⟩
  · intro other slot
    rw [joined.table, here.table] at slot
    by_cases inside : other = minor
    · rw [inside, Function.update_self] at slot
      exact differs (Option.some.inj slot).symm
    · rw [Function.update_of_ne inside] at slot
      exact inside (order.apart held id slot)
  · obtain ⟨_, _, _, found⟩ := joined.device
    simp [found]
  · rw [joined.aside.devices oldDev differs, here.others oldDev differs, held.2]
    rfl
  · rw [← here.faults]
    exact joined.granted

/-- A device that can be freed: it keeps no copy of operations from being given back. -/
def Freeable (machine : Machine) (terms : Terms) (before : Kernel) (dev : Address)
    (after : Kernel) : Prop :=
  ∃ trops, Off machine terms before dev trops (fun _ => True) after ∧
    (terms.refs → machine.build ≠ .makeRequest → trops = none)

theorem Freeable.minds {program : KernelM α} (here : Freeable machine terms before dev kernel)
    (minds : Minds dev program) :
    wp program (fun _ => Freeable machine terms before dev)
      (OnError (Freeable machine terms before dev)) kernel := by
  obtain ⟨trops, there, without⟩ := here
  apply wp_mono (there.minds minds fun _ _ holds _ => holds)
  · exact fun _ _ there => ⟨trops, there, without⟩
  · exact fun _ _ failed => failed.mono fun _ there => ⟨trops, there, without⟩

theorem Freeable.frees (here : Freeable machine terms before dev kernel) :
    wp (kfreeDev dev) (fun _ after => after.InOrder machine terms) (fun _ _ => False) kernel := by
  obtain ⟨_, there, without⟩ := here
  exact there.kfreeDev without

/-- A device without a base device cannot trace. -/
theorem Off.baseless
    (here : Off machine terms before dev none (Poised none) kernel) :
    wp (Driver.tracerSetupTracing machine dev minor) (fun _ _ => False)
      (fun reason _ => reason = .oops) kernel := by
  obtain ⟨device, found, _, poised⟩ := here.device
  have found' : ((kernel.setDev dev { device with sdMinor := minor }).included minor).devices dev =
      some { device with sdMinor := minor } := Kernel.setDev_same _ _ _
  have null : { device with sdMinor := minor }.sdBaseDev = none := poised.sdBaseDev
  unfold Driver.tracerSetupTracing injectTracing
  rw [wp_bind, wp_setDev found, wp_bind, wp_minorRangeInclude, wp_unwinding, wp_bind,
    wp_getDev found', wp_bind, wp_deref, null]

/-- A driver that hooks a function of the kernel cannot allocate a copy of operations. -/
def Kernel.Uncopied (machine : Machine) (kernel : Kernel) : Prop :=
  machine.build = .hooked ∧ kernel.faults .tracingOps ≠ none

instance (kernel : Kernel) : Decidable (kernel.Uncopied machine) :=
  inferInstanceAs (Decidable (_ ∧ _))

theorem Off.enters {base : Option Nat} (here : Off machine terms before dev none (Poised base) kernel)
    (order : before.InOrder machine terms) (held : before.Holds minor oldDev old)
    (uncopied : terms.refs → machine.build ≠ .makeRequest → before.Uncopied machine) :
    wp (Driver.tracerSetupTracing machine dev minor)
      (fun _ after => Replaced machine terms dev oldDev after ∧
        (terms.refs → machine.build = .makeRequest))
      (OnError (Freeable machine terms before dev)) kernel := by
  cases base with
  | none =>
      apply wp_mono here.baseless
      · exact fun _ _ => False.elim
      · intro reason after oops
        rw [oops]
        exact OnError.oops _
  | some bdev =>
      apply wp_mono (here.takesOver order held)
      · intro _ after replaced
        refine ⟨replaced.1, fun is => ?_⟩
        by_contra modern
        obtain ⟨hooked, fails⟩ := uncopied is modern
        exact fails (replaced.2 hooked)
      · intro _ after failed
        refine failed.mono fun after spoilt => ?_
        obtain ⟨trops, there, why⟩ := spoilt
        refine ⟨trops, there.weaken fun _ _ => trivial, fun is modern => ?_⟩
        by_contra has
        obtain ⟨hooked, fails⟩ := uncopied is modern
        exact fails ((why modern has).2 hooked)

/-- The end of `tracer_active_snap_to_inc`. -/
theorem Replaced.snapToInc (here : Replaced machine terms dev oldDev kernel)
    (never : terms.refs → machine.build = .makeRequest) :
    Orders machine terms
      (do
        tracerDestroyCowThread oldDev
        let stopped ← getDev oldDev
        match stopped.sdFailCode with
        | some error => do
            tracerSetFailState dev error
            wakeUpCowThread dev
            tracerDestroySnap oldDev
            kfreeDev oldDev
            .stop (.errno error)
        | none => do
            wakeUpCowThread dev
            let device ← getDev dev
            let cow ← deref device.sdCow
            ignoring (Driver.runCow cow Cow.cowTruncateToIndex)
            tracerDestroySnap oldDev
            kfreeDev oldDev) kernel := by
  have failed : ∀ {reason : Stop} {after : Kernel},
      OnError (Replaced machine terms dev oldDev) reason after →
      OnError (fun after => after.InOrder machine terms) reason after :=
    fun failed => failed.mono fun _ there => there.order
  unfold Orders
  rw [wp_bind]
  apply wp_mono (here.oldStep .tracerDestroyCowThread) _ fun _ _ => failed
  intro _ middle here
  obtain ⟨stopped, found⟩ := Option.isSome_iff_exists.mp here.old
  rw [wp_bind, wp_getDev found]
  cases stopped.sdFailCode with
  | some error =>
      dsimp only
      rw [wp_bind]
      apply wp_mono (here.newStep (.tracerSetFailState error)) _ fun _ _ => failed
      intro _ _ here
      rw [wp_bind]
      apply wp_mono (here.newStep .wakeUpCowThread) _ fun _ _ => failed
      intro _ _ here
      rw [wp_bind]
      apply wp_mono (here.oldStep .tracerDestroySnap) _ fun _ _ => failed
      intro _ _ here
      rw [wp_bind]
      apply wp_mono (here.frees never) _ fun _ _ => False.elim
      exact fun _ _ order _ _ => order
  | none =>
      dsimp only
      rw [wp_bind]
      apply wp_mono (here.newStep .wakeUpCowThread) _ fun _ _ => failed
      intro _ _ here
      obtain ⟨device, found⟩ := Option.isSome_iff_exists.mp here.device
      rw [wp_bind, wp_getDev found, wp_bind, wp_deref]
      split
      · exact OnError.oops _
      · rename_i cow _
        have truncates : wp (ignoring (Driver.runCow cow Cow.cowTruncateToIndex))
            (fun _ => Replaced machine terms dev oldDev)
            (OnError (Replaced machine terms dev oldDev)) _ :=
          wp_catching_errors (here.runCow _) fun _ _ => id
        rw [wp_bind]
        apply wp_mono truncates _ fun _ _ => failed
        intro _ _ here
        rw [wp_bind]
        apply wp_mono (here.oldStep .tracerDestroySnap) _ fun _ _ => failed
        intro _ _ here
        exact wp_mono (here.frees never) (fun _ _ => id) fun _ _ => False.elim

/-- The end of `tracer_active_inc_to_snap`. -/
theorem Replaced.incToSnap (here : Replaced machine terms dev oldDev kernel)
    (never : terms.refs → machine.build = .makeRequest) :
    Orders machine terms
      (do
        tracerDestroyCowThread oldDev
        wakeUpCowThread dev
        tracerDestroyCowPath oldDev
        ignoring (tracerDestroyCow oldDev .syncAndFree)
        kfreeDev oldDev) kernel := by
  have failed : ∀ {reason : Stop} {after : Kernel},
      OnError (Replaced machine terms dev oldDev) reason after →
      OnError (fun after => after.InOrder machine terms) reason after :=
    fun failed => failed.mono fun _ there => there.order
  unfold Orders
  rw [wp_bind]
  apply wp_mono (here.oldStep .tracerDestroyCowThread) _ fun _ _ => failed
  intro _ _ here
  rw [wp_bind]
  apply wp_mono (here.newStep .wakeUpCowThread) _ fun _ _ => failed
  intro _ _ here
  rw [wp_bind]
  apply wp_mono (here.oldStep .tracerDestroyCowPath) _ fun _ _ => failed
  intro _ _ here
  rw [wp_bind]
  apply wp_mono (here.oldStep (.ignoring (.tracerDestroyCow .syncAndFree))) _ fun _ _ => failed
  intro _ _ here
  exact wp_mono (here.frees never) (fun _ _ => id) fun _ _ => False.elim

/-- The manager points to another device. -/
theorem Off.setCowDev {trops : Option Address} {good : SnapDevice → Prop}
    (here : Off machine terms before dev trops good kernel) (cowDev : Address → Option Address) :
    Off machine terms before dev trops good { kernel with cowDev } :=
  { here with orderly := { here.orderly with } }

theorem Off.tracerSetupCowThread {base : Option Nat}
    (here : Off machine terms before dev none (Primed base) kernel) :
    wp (tracerSetupCowThread .cowThread dev)
      (fun _ after => Off machine terms before dev none (Primed base) after ∧
        before.faults .cowThread = none)
      (OnError (Off machine terms before dev none (Primed base))) kernel := by
  have threads : wp (Driver.setDev dev fun device => { device with sdCowThread := true })
      (fun _ => Off machine terms before dev none (Primed base)) (fun _ _ => False) kernel :=
    here.setDev fun _ primed =>
      ⟨rfl, primed.unverified, primed.sdOrigRequestFn, primed.sdBaseDev⟩
  unfold Driver.tracerSetupCowThread
  rw [wp_bind, wp_attempt, here.faults]
  cases before.faults .cowThread with
  | some error => exact fun _ _ => here
  | none => exact wp_mono threads (fun _ _ there => ⟨there, rfl⟩) fun _ _ => False.elim

/-- It takes over the entry point. -/
theorem Off.setOrig {base : Option Nat} (here : Off machine terms before dev none (Primed base) kernel)
    (orig : Option RequestFn) :
    wp (Driver.setDev dev fun device => { device with sdOrigRequestFn := orig })
      (fun _ => Off machine terms before dev none (Poised base)) (fun _ _ => False) kernel :=
  here.setDev fun _ primed => ⟨rfl, primed.unverified, primed.sdBaseDev⟩

theorem tracerActiveSnapToInc_orders (order : kernel.InOrder machine terms)
    (held : kernel.Holds minor oldDev old)
    (refused : terms.refs → machine.build ≠ .makeRequest → kernel.faults .tracerAlloc ≠ none ∨
      kernel.faults .cowThread ≠ none ∨ kernel.Uncopied machine) :
    Orders machine terms (tracerActiveSnapToInc machine oldDev) kernel := by
  have numbered := (order.settled minor oldDev old held id).sdMinor
  have differs : oldDev ≠ kernel.fresh := Nat.ne_of_lt (order.slots minor oldDev held.1)
  unfold Orders tracerActiveSnapToInc
  rw [wp_bind, wp_tracerAlloc]
  cases alloc : kernel.faults .tracerAlloc with
  | some error => exact fun _ _ => order
  | none =>
      dsimp only
      rw [wp_bind, wp_setDev (kernel.begun_same _), kernel.begun_setDev, wp_bind,
        wp_getDev ((kernel.begun_other differs _).trans held.2)]
      unfold tracerCopyBaseDev tracerCopyCowPath tracerCopyCow setCowDev
      rw [wp_bind, wp_setDev (kernel.begun_same _), kernel.begun_setDev, wp_bind,
        wp_setDev (kernel.begun_same _), kernel.begun_setDev, wp_bind, wp_bind, wp_deref]
      split
      · exact OnError.oops _
      · rename_i cow has
        rw [wp_bind, wp_update]
        generalize kept : Kernel.begun kernel _ = begun
        have begins : Off machine terms kernel kernel.fresh none (fun _ => True) begun := by
          rw [← kept]
          exact (order.begun rfl).weaken fun _ _ => trivial
        let handed : Kernel :=
          { begun with cowDev := Function.update begun.cowDev cow (some kernel.fresh) }
        have found' : handed.devices kernel.fresh = some _ := kept ▸ kernel.begun_same _
        change wp (setDev kernel.fresh _) _ _ handed
        rw [wp_setDev found', wp_bind]
        change wp _ _ _ (handed.setDev kernel.fresh old.newInc)
        have here : Off machine terms kernel kernel.fresh none (Primed old.sdBaseDev)
            (handed.setDev kernel.fresh old.newInc) :=
          (begins.setCowDev _).set rfl ⟨rfl, rfl, rfl⟩
        have traces : wp
            (do
              tracerSetupCowThread .cowThread kernel.fresh
              setDev kernel.fresh fun device =>
                { device with sdOrigRequestFn := old.sdOrigRequestFn }
              tracerSetupTracing machine kernel.fresh old.sdMinor)
            (fun _ after => Replaced machine terms kernel.fresh oldDev after ∧
              (terms.refs → machine.build = .makeRequest))
            (OnError (Freeable machine terms kernel kernel.fresh))
            (handed.setDev kernel.fresh old.newInc) := by
          rw [wp_bind]
          apply wp_mono here.tracerSetupCowThread
          · intro _ middle there
            rw [wp_bind]
            apply wp_mono (there.1.setOrig _) _ fun _ _ => False.elim
            intro _ middle poised
            rw [numbered]
            apply poised.enters order held
            intro is modern
            exact ((refused is modern).resolve_left (· alloc)).resolve_left (· there.2)
          · exact fun _ _ failed => failed.mono fun _ there =>
              ⟨none, there.weaken fun _ _ => trivial, fun _ _ => rfl⟩
        have cleans : ∀ middle, Freeable machine terms kernel kernel.fresh middle →
            wp
              (do
                tracerDestroyCowThread kernel.fresh
                kfreeDev kernel.fresh)
              (fun _ after => after.InOrder machine terms)
              (OnError fun after => after.InOrder machine terms) middle := by
          intro middle freeable
          rw [wp_bind]
          apply tracerDestroyCowThread_silent.onError
          apply wp_mono (freeable.minds .tracerDestroyCowThread) _ fun _ _ _ => trivial
          exact fun _ _ there => wp_mono there.frees (fun _ _ => id) fun _ _ => False.elim
        apply wp_mono (wp_unwinding_errors traces fun _ => cleans)
        · exact fun _ _ replaced => replaced.1.snapToInc replaced.2
        · exact fun _ _ => id

theorem Off.prepareSnap {base : Option Nat}
    (here : Off machine terms before dev none (Primed base) kernel) (orig : Option RequestFn) :
    wp (prepareSnap dev orig)
      (fun _ after => Off machine terms before dev none (Poised base) after ∧ before.Fine snapSteps)
      (OnError (Freeable machine terms before dev)) kernel := by
  have failed : ∀ {reason : Stop} {after : Kernel},
      OnError (Off machine terms before dev none (Primed base)) reason after →
      OnError (Freeable machine terms before dev) reason after := fun failed =>
    failed.mono fun _ there => ⟨none, there.weaken fun _ _ => trivial, fun _ _ => rfl⟩
  have moves : wp (Driver.prepareSnap dev orig)
      (fun _ => Off machine terms before dev none (Poised base))
      (OnError (Freeable machine terms before dev)) kernel := by
    unfold Driver.prepareSnap
    rw [wp_bind]
    apply wp_mono (here.minds .tracerSetupCowPath Primed.stable) _ fun _ _ => failed
    intro _ _ here
    rw [wp_bind]
    apply wp_mono (here.minds .tracerSetupSnap Primed.stable) _ fun _ _ => failed
    intro _ _ here
    rw [wp_bind]
    apply wp_mono (here.minds (.tracerSetupCowThread _) Primed.stable) _ fun _ _ => failed
    intro _ _ here
    exact wp_mono (here.setOrig orig) (fun _ _ => id) fun _ _ => False.elim
  have fine : kernel.Fine snapSteps ↔ before.Fine snapSteps := by
    unfold Kernel.Fine
    rw [here.faults]
  apply wp_mono (wp_and moves (prepareSnap_tries orig kernel))
  · exact fun _ _ both => ⟨both.1, fine.mp both.2.2⟩
  · exact fun _ _ both => both.1

/-- The setup of the snapshot device that is to take the place of a device. -/
theorem Kernel.Orderly.nextSnap {object : CowObject} {path : CowPath} {fallocatedSpace : Nat}
    (order : kernel.InOrder machine terms) (held : kernel.Holds minor oldDev old)
    (based : old.sdBaseDev = some bdev)
    (refused : terms.refs → machine.build ≠ .makeRequest →
      ¬ Reaches kernel bdev path (kernel.nextCreation machine old object path fallocatedSpace) ∨
        kernel.Uncopied machine) :
    wp
      (do
        tracerSetupCow machine kernel.fresh bdev path (.new old.sdSize
          (if fallocatedSpace = 0 then old.sdFallocSize else fallocatedSpace) 0 object.cm.uuid
          ((object.cm.seqid + 1) % word64))
        prepareSnap kernel.fresh old.sdOrigRequestFn
        tracerSetupTracing machine kernel.fresh minor)
      (fun _ after => Replaced machine terms kernel.fresh oldDev after ∧
        (terms.refs → machine.build = .makeRequest))
      (OnError (Freeable machine terms kernel kernel.fresh)) (kernel.begun old.nextSnap) := by
  have here : Off machine terms kernel kernel.fresh none (Primed (some bdev))
      (kernel.begun old.nextSnap) := by
    apply (order.begun rfl).weaken
    intro device same
    rw [same]
    exact ⟨rfl, rfl, based⟩
  have idle : Idle false (Holding none none) old.nextSnap := ⟨rfl, rfl, rfl, rfl⟩
  have creates := @tracerSetupCow_creates machine _ _ _ bdev path old.sdSize 0
    ((object.cm.seqid + 1) % word64) object.cm.uuid none (kernel.begun_same old.nextSnap) idle
    (if fallocatedSpace = 0 then old.sdFallocSize else fallocatedSpace)
  rw [wp_bind]
  apply wp_mono (wp_and (here.minds (.tracerSetupCow bdev path _) Primed.stable) creates)
  · intro _ middle opens
    obtain ⟨there, hosts, _⟩ := opens
    rw [wp_bind]
    apply wp_mono (there.prepareSnap old.sdOrigRequestFn) _ fun _ _ => id
    intro _ middle prepared
    apply prepared.1.enters order held
    intro is modern
    apply (refused is modern).resolve_left
    intro never
    exact never ⟨⟨hosts.free, hosts.ok, hosts.mounted, hosts.here⟩, prepared.2⟩
  · exact fun _ _ failed => failed.1.mono fun _ there =>
      ⟨none, there.weaken fun _ _ => trivial, fun _ _ => rfl⟩

theorem Freeable.unwindSnap (here : Freeable machine terms before dev kernel) :
    wp (unwindSnap dev) (fun _ after => after.InOrder machine terms)
      (OnError fun after => after.InOrder machine terms) kernel := by
  apply unwindSnap_silent.onError
  have goesOn : ∀ {program : KernelM Unit} {kernel : Kernel},
      Freeable machine terms before dev kernel → Minds dev program →
      wp program (fun _ => Freeable machine terms before dev) (fun _ _ => True) kernel :=
    fun here minds => wp_mono (here.minds minds) (fun _ _ => id) fun _ _ _ => trivial
  unfold Driver.unwindSnap
  rw [wp_bind]
  apply wp_mono (goesOn here .tracerDestroyCowThread) _ fun _ _ => id
  intro _ _ here
  rw [wp_bind]
  apply wp_mono (goesOn here .tracerDestroySnap) _ fun _ _ => id
  intro _ _ here
  rw [wp_bind]
  apply wp_mono (goesOn here .tracerDestroyCowPath) _ fun _ _ => id
  intro _ _ here
  rw [wp_bind]
  apply wp_mono (goesOn here (.tracerDestroyCow .free)) _ fun _ _ => id
  exact fun _ _ here => wp_mono here.frees (fun _ _ => id) fun _ _ => False.elim

theorem tracerActiveIncToSnap_orders {path : CowPath} {fallocatedSpace : Nat}
    (order : kernel.InOrder machine terms) (held : kernel.Holds minor oldDev old)
    (refused : terms.refs → machine.build ≠ .makeRequest → kernel.faults .tracerAlloc ≠ none ∨
      (∀ bdev cow object, old.sdBaseDev = some bdev → old.sdCow = some cow →
        kernel.cows cow = some object →
        ¬ Reaches kernel bdev path (kernel.nextCreation machine old object path fallocatedSpace)) ∨
      kernel.Uncopied machine) :
    Orders machine terms (tracerActiveIncToSnap machine oldDev path fallocatedSpace) kernel := by
  have numbered := (order.settled minor oldDev old held id).sdMinor
  have differs : oldDev ≠ kernel.fresh := Nat.ne_of_lt (order.slots minor oldDev held.1)
  unfold Orders tracerActiveIncToSnap
  rw [wp_bind, wp_tracerAlloc]
  cases alloc : kernel.faults .tracerAlloc with
  | some error => exact fun _ _ => order
  | none =>
      have found : (kernel.begun .newSnap).devices oldDev = some old :=
        (kernel.begun_other differs _).trans held.2
      dsimp only
      rw [wp_bind, wp_setDev (kernel.begun_same _), kernel.begun_setDev]
      change wp _ _ _ (kernel.begun .newSnap)
      rw [wp_bind, wp_read, wp_bind, wp_getDev found, wp_bind, wp_deref]
      split
      · exact OnError.oops _
      · rename_i cow has
        rw [wp_bind, wp_deref]
        split
        · exact OnError.oops _
        · rename_i object stored
          unfold tracerCopyBaseDev
          rw [wp_bind, wp_setDev (kernel.begun_same _), kernel.begun_setDev]
          change wp _ _ _ (kernel.begun old.nextSnap)
          have cleans : ∀ middle, Freeable machine terms kernel kernel.fresh middle →
              wp (unwindSnap kernel.fresh) (fun _ after => after.InOrder machine terms)
                (OnError fun after => after.InOrder machine terms) middle :=
            fun _ freeable => freeable.unwindSnap
          have body : wp
              (do
                let device ← getDev kernel.fresh
                let bdev ← deref device.sdBaseDev
                tracerSetupCow machine kernel.fresh bdev path (.new device.sdSize
                  (if fallocatedSpace = 0 then old.sdFallocSize else fallocatedSpace)
                  device.sdCacheSize object.cm.uuid ((object.cm.seqid + 1) % word64))
                tracerSetupCowPath kernel.fresh
                tracerSetupSnap kernel.fresh
                tracerSetupCowThread .cowThread kernel.fresh
                setDev kernel.fresh fun device =>
                  { device with sdOrigRequestFn := old.sdOrigRequestFn }
                tracerSetupTracing machine kernel.fresh old.sdMinor)
              (fun _ after => Replaced machine terms kernel.fresh oldDev after ∧
                (terms.refs → machine.build = .makeRequest))
              (OnError (Freeable machine terms kernel kernel.fresh)) (kernel.begun old.nextSnap) := by
            rw [wp_bind, wp_getDev (kernel.begun_same _), wp_bind, wp_deref]
            split
            · exact OnError.oops _
            · rename_i bdev based
              have spec := @Kernel.Orderly.nextSnap _ _ _ _ _ _ _ object path fallocatedSpace order
                held based ?_
              · rw [← numbered] at spec
                simp only [prepareSnap, bind_assoc] at spec
                exact spec
              · intro is modern
                rcases (refused is modern).resolve_left (· alloc) with never | uncopied
                · exact .inl (never bdev cow object based has stored)
                · exact .inr uncopied
          rw [wp_bind]
          apply wp_mono (wp_unwinding_errors body fun _ => cleans)
          · exact fun _ _ replaced => replaced.1.incToSnap replaced.2
          · exact fun _ _ => id

end Moocbt.Driver
