import Moocbt.Driver.Frame

/-! The functions without a result: whatever fails inside them, they return no error code. -/

namespace Moocbt.Driver

open Cow (CowM Errno Stop)
open Program

/-- A program that returns, unless the machine goes down. -/
def Silent {σ α : Type} (program : Program Stop σ α) : Prop :=
  ∀ state, wp program (fun _ _ => True) (fun reason _ => ∀ error, reason ≠ .errno error) state

namespace Silent

variable {σ α β : Type} {program : Program Stop σ α}

theorem pure (value : α) : Silent (Pure.pure value : Program Stop σ α) := fun _ => trivial

theorem update (change : σ → σ) : Silent (Program.update change) := fun _ => trivial

theorem read : Silent (Program.read : Program Stop σ σ) := fun _ => trivial

theorem stop {reason : Stop} (aborts : ∀ error, reason ≠ .errno error) :
    Silent (Program.stop reason : Program Stop σ α) := fun _ => aborts

theorem bind {next : α → Program Stop σ β} (first : Silent program)
    (second : ∀ value, Silent (next value)) : Silent (program >>= next) := by
  intro state
  rw [wp_bind]
  apply wp_mono (first state)
  · exact fun value after _ => second value after
  · exact fun _ _ => id

theorem ite {other : Program Stop σ α} {condition : Prop} [Decidable condition]
    (yes : Silent program) (no : Silent other) : Silent (if condition then program else other) := by
  split
  · exact yes
  · exact no

theorem when {program : Program Stop σ Unit} {condition : Bool} (silent : Silent program) :
    Silent (Program.when condition program) := by
  cases condition with
  | true => exact silent
  | false => exact pure ()

theorem deref (pointer : Option α) : Silent (Driver.deref pointer) := by
  cases pointer with
  | none => exact stop (by simp)
  | some value => exact pure value

theorem getDev (dev : Address) : Silent (Driver.getDev dev) := by
  apply bind read
  intro kernel
  cases kernel.devices dev with
  | none => exact stop (by simp)
  | some device => exact pure device

theorem setDev (dev : Address) (change : SnapDevice → SnapDevice) :
    Silent (Driver.setDev dev change) :=
  bind (getDev dev) fun _ => update _

theorem catching {program : KernelM Unit} {handler : Errno → KernelM Unit}
    (handles : ∀ error, Silent (handler error)) : Silent (Driver.catching program handler) := by
  intro state
  rw [wp_catching]
  apply wp_mono (wp_true program state)
  · exact fun _ _ _ => trivial
  · intro reason after _
    cases reason with
    | errno error => exact handles error after
    | oops => simp
    | crash => simp

theorem ignoring (program : KernelM Unit) : Silent (Driver.ignoring program) :=
  catching fun _ => pure ()

/-- Such a program leaves nothing with an error. -/
theorem onError {program : KernelM α} {done : α → Kernel → Prop} {left : Kernel → Prop}
    {kernel : Kernel} (silent : Silent program)
    (spec : wp program done (fun _ _ => True) kernel) : wp program done (OnError left) kernel := by
  apply wp_mono (wp_and spec (silent kernel))
  · exact fun _ _ both => both.1
  · exact fun _ _ both error same => absurd same (both.2 error)

theorem runCow {program : CowM α} (silent : Silent program) (cow : Address) :
    Silent (Driver.runCow cow program) := by
  intro kernel
  cases found : kernel.cows cow with
  | none =>
      rw [wp_runCow_freed found]
      simp
  | some object =>
      rw [wp_runCow found]
      apply wp_mono (silent _)
      · exact fun _ _ _ => trivial
      · exact fun _ _ => id

end Silent

variable {machine : Machine} {dev : Address}

theorem getCm_silent : Silent Cow.getCm := .bind .read fun _ => .pure _

theorem nextOutcome_silent : Silent Cow.nextOutcome := by
  intro state
  unfold wp Cow.nextOutcome
  cases state.outcomes <;> trivial

theorem closeFile_silent : Silent Cow.closeAndDestroyMoocbtCowFile := by
  apply Silent.bind getCm_silent
  intro cm
  exact .ite (.stop (by simp)) (.update _)

theorem cowFreeMembers_silent : Silent Cow.cowFreeMembers := by
  apply Silent.bind (.update _)
  intro _
  apply Silent.bind getCm_silent
  intro cm
  apply Silent.when
  apply Silent.bind _ fun _ => closeFile_silent
  apply Silent.bind getCm_silent
  intro cm
  split
  · apply Silent.bind nextOutcome_silent
    intro outcome
    cases outcome with
    | crashes => exact .stop (by simp)
    | fails error words => exact .pure ()
    | succeeds => exact .update _
  · exact .stop (by simp)

theorem tracerSetFailState_silent (error : Errno) : Silent (tracerSetFailState dev error) :=
  .setDev _ _

theorem cleanUpCow_silent : Silent (cleanUpCow dev) := by
  apply Silent.bind (.getDev dev)
  intro device
  apply Silent.when
  cases device.sdCow with
  | none => exact .pure ()
  | some cow => exact .runCow cowFreeMembers_silent cow

theorem drain_silent (jobs : List Job) : Silent (drain dev jobs) := by
  induction jobs with
  | nil => exact .pure ()
  | cons job rest ih =>
      apply Silent.bind cleanUpCow_silent
      intro _
      apply Silent.bind (.getDev dev)
      intro device
      apply Silent.bind _ fun _ => ih
      apply Silent.when
      apply Silent.bind (.deref _)
      intro cow
      exact .catching fun _ => tracerSetFailState_silent _

theorem finishCow_silent (jobs : List Job) : Silent (finishCow dev jobs) := by
  cases jobs with
  | nil => exact cleanUpCow_silent
  | cons job rest => exact drain_silent _

theorem tracerDestroyCowThread_silent : Silent (tracerDestroyCowThread dev) := by
  apply Silent.bind (.getDev dev)
  intro device
  apply Silent.when
  exact .bind (finishCow_silent _) fun _ => .setDev _ _

theorem wakeUpCowThread_silent : Silent (wakeUpCowThread dev) := by
  apply Silent.bind (.getDev dev)
  intro device
  exact .ite (.pure ()) (.stop (by simp))

theorem findDev_silent {test : Nat → SnapDevice → KernelM Bool}
    (looks : ∀ minor device, Silent (test minor device)) (minors : List Nat) :
    Silent (findDev test minors) := by
  induction minors with
  | nil => exact .pure none
  | cons minor rest ih =>
      apply Silent.bind .read
      intro kernel
      cases kernel.snapDevices minor with
      | none => exact ih
      | some dev =>
          apply Silent.bind (.getDev dev)
          intro device
          apply Silent.bind (looks minor device)
          intro accepted
          exact .ite (.pure _) ih

theorem tracerForEach_silent {test : Nat → SnapDevice → KernelM Bool}
    (looks : ∀ minor device, Silent (test minor device)) : Silent (tracerForEach test) :=
  .bind .read fun _ => findDev_silent looks _

theorem tracerShouldResetMrf_silent : Silent (tracerShouldResetMrf machine dev) := by
  apply Silent.bind .read
  intro kernel
  apply Silent.bind (.getDev dev)
  intro device
  apply Silent.bind (.deref _)
  intro bdev
  apply Silent.ite (.pure false)
  apply Silent.bind _ fun _ => .pure _
  apply tracerForEach_silent
  intro minor other
  apply Silent.ite (.pure false)
  apply Silent.bind (.deref _)
  intro base
  exact .ite (.pure _) (.pure _)

theorem moocbtFreeRequestTrackingPtr_silent : Silent (moocbtFreeRequestTrackingPtr machine dev) := by
  apply Silent.ite (.setDev _ _)
  apply Silent.bind (.getDev dev)
  intro device
  cases device.sdTracingOps with
  | none => exact .pure ()
  | some trops =>
      apply Silent.bind _ fun _ => .setDev _ _
      apply Silent.bind .read
      intro kernel
      apply Silent.bind (.deref _)
      intro ops
      exact .ite (.update _) (.update _)

theorem leaveTable_silent (device : SnapDevice) : Silent (leaveTable machine dev device) := by
  apply Silent.ite
  · apply Silent.bind (.deref _)
    intro bdev
    apply Silent.bind tracerShouldResetMrf_silent
    intro reset
    apply Silent.bind
    · apply Silent.when
      apply Silent.bind (.ignoring _)
      intro _
      exact .bind wakeUpCowThread_silent fun _ => tracerDestroyCowThread_silent
    · intro _
      exact .bind (.ignoring _) fun _ => moocbtFreeRequestTrackingPtr_silent
  · apply Silent.bind .read
    intro kernel
    exact .when (.update _)

theorem tracerDestroyTracing_silent : Silent (tracerDestroyTracing machine dev) := by
  apply Silent.bind (.getDev dev)
  intro device
  apply Silent.bind (leaveTable_silent device)
  intro _
  exact .bind (.setDev _ _) fun _ => .update _

theorem tracerDestroyCow_silent : Silent (tracerDestroyCow dev .free) := by
  apply Silent.bind (.setDev _ _)
  intro _
  apply Silent.bind (.getDev dev)
  intro device
  cases device.sdCow with
  | none => exact .pure ()
  | some cow =>
      apply Silent.bind _ fun _ => .setDev _ _
      exact .bind (.runCow cowFreeMembers_silent cow) fun _ => .update _

theorem tracerDestroy_silent : Silent (tracerDestroy machine dev) := by
  apply Silent.bind tracerDestroyTracing_silent
  intro _
  apply Silent.bind tracerDestroyCowThread_silent
  intro _
  apply Silent.bind (.setDev _ _)
  intro _
  apply Silent.bind (.setDev _ _)
  intro _
  exact .bind tracerDestroyCow_silent fun _ => .setDev _ _

end Moocbt.Driver
