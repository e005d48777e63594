import Moocbt.Driver.Departure

/-! What a device does on its own that leaves everything in order: it changes neither the way it
traces nor its state. -/

namespace Moocbt.Driver

open Cow (CowM Errno Stop)
open Program

variable {α β : Type} {machine : Machine} {kernel before after : Kernel} {dev cow : Address}
  {device : SnapDevice} {minor : Nat} {terms : Terms} {busy : Address → Prop}

/-- The fields that say how a device traces and what state it is in. -/
structure Steady (before after : SnapDevice) : Prop extends SameTracing before after where
  sdBaseDev : after.sdBaseDev = before.sdBaseDev
  active : after.active = before.active
  sdFailCode : after.sdFailCode = none → before.sdFailCode = none

namespace Steady

theorem refl (device : SnapDevice) : Steady device device := ⟨.refl device, rfl, rfl, id⟩

theorem trans {first second third : SnapDevice} (left : Steady first second)
    (right : Steady second third) : Steady first third :=
  ⟨left.toSameTracing.trans right.toSameTracing, right.sdBaseDev.trans left.sdBaseDev,
    right.active.trans left.active, fun code => left.sdFailCode (right.sdFailCode code)⟩

theorem settled {device' : SnapDevice} (steady : Steady device device')
    (settled : Settled machine minor device) : Settled machine minor device' where
  sdMinor := steady.sdMinor.trans settled.sdMinor
  tracing := by
    rw [steady.unverified, steady.sdTracingOps, steady.sdOrigRequestFn]
    exact settled.tracing

theorem paused {device' : SnapDevice} (steady : Steady device device')
    (paused : Paused device) : Paused device' where
  active := steady.active.trans paused.active
  sdOrigRequestFn := steady.sdOrigRequestFn.trans paused.sdOrigRequestFn
  sdTracingOps := by
    rw [steady.sdTracingOps]
    exact fun code => paused.sdTracingOps (steady.sdFailCode code)

end Steady

theorem MayFail.steady {device' : SnapDevice} (may : MayFail device device') :
    Steady device device' := by
  rcases may with same | failed
  · rw [same]
    exact .refl device
  · obtain ⟨error, same⟩ := failed
    rw [same]
    refine ⟨⟨rfl, rfl, rfl, rfl, rfl, rfl⟩, rfl, rfl, ?_⟩
    intro code
    cases held : device.sdFailCode with
    | none => rfl
    | some other =>
        rw [SnapDevice.failed, held] at code
        contradiction

/-- A program that leaves a device so, whether it returns or fails. -/
def Minds (dev : Address) (program : KernelM α) : Prop :=
  ∀ device, Concerns dev (fun _ => True) device program (fun _ => Steady device)
    (fun reason after => ∀ error, reason = .errno error → Steady device after)

namespace Minds

theorem of_concerns {program : KernelM α} {done : SnapDevice → α → SnapDevice → Prop}
    {stopped : SnapDevice → Stop → SnapDevice → Prop}
    (concerns : ∀ device, Concerns dev (fun _ => True) device program (done device) (stopped device))
    (onDone : ∀ device value after, done device value after → Steady device after)
    (onStop : ∀ device error after, stopped device (.errno error) after → Steady device after) :
    Minds dev program := by
  intro device
  apply (concerns device).mono (onDone device)
  intro reason after stopped error same
  rw [same] at stopped
  exact onStop device error after stopped

theorem bind {program : KernelM α} {next : α → KernelM β} (first : Minds dev program)
    (second : ∀ value, Minds dev (next value)) : Minds dev (program >>= next) := by
  intro device
  apply Concerns.bind (first device)
  intro value middle steady
  apply (second value middle).mono
  · exact fun _ _ => steady.trans
  · exact fun _ _ further error same => steady.trans (further error same)

theorem pure (value : α) : Minds dev (Pure.pure value : KernelM α) :=
  fun device => .pure (.refl device)

theorem stop (reason : Stop) : Minds dev (Program.stop reason : KernelM α) :=
  fun device => .stop fun _ _ => .refl device

theorem read : Minds dev (Program.read : KernelM Kernel) := fun device => .read fun _ => .refl device

theorem attempt (step : Step) : Minds dev (Driver.attempt step) :=
  fun device => .attempt step (.refl device) fun _ _ _ => .refl device

theorem deref (pointer : Option α) : Minds dev (Driver.deref pointer) :=
  fun device => .deref (fun _ _ => .refl device) fun _ _ => .refl device

theorem setDev {change : SnapDevice → SnapDevice}
    (cow : ∀ device, (change device).sdCow = device.sdCow ∨ (change device).sdCow = none)
    (steady : ∀ device, Steady device (change device)) : Minds dev (Driver.setDev dev change) :=
  fun device => .setDev (cow device) (steady device)

theorem ite {condition : Prop} [Decidable condition] {left right : KernelM α}
    (first : Minds dev left) (second : Minds dev right) :
    Minds dev (if condition then left else right) :=
  fun device => .ite (fun _ => first device) fun _ => second device

theorem when {condition : Bool} {program : KernelM Unit} (inner : Minds dev program) :
    Minds dev (Program.when condition program) := ite inner (pure ())

theorem catching {program : KernelM Unit} {handler : Errno → KernelM Unit}
    (inner : Minds dev program) (handles : ∀ error, Minds dev (handler error)) :
    Minds dev (Driver.catching program handler) := by
  intro device
  apply Concerns.catching (inner device)
  · intro error middle steady
    apply (handles error middle).mono
    · exact fun _ _ => (steady error rfl).trans
    · exact fun _ _ further error' same => (steady error rfl).trans (further error' same)
  · exact fun _ steady => steady
  · exact fun _ steady => steady

theorem ignoring {program : KernelM Unit} (inner : Minds dev program) :
    Minds dev (Driver.ignoring program) := catching inner fun _ => pure ()

theorem unwinding {program : KernelM α} {cleanup : Errno → KernelM Unit}
    (inner : Minds dev program) (cleans : ∀ error, Minds dev (cleanup error)) :
    Minds dev (Driver.unwinding program cleanup) := by
  intro device
  apply Concerns.unwinding (inner device)
  · intro error middle steady
    apply (cleans error middle).mono
    · exact fun _ _ further error' _ => (steady error rfl).trans further
    · exact fun _ _ further error' same => (steady error rfl).trans (further error' same)
  · exact fun _ steady => steady
  · exact fun _ steady => steady

/-- Where a program looks at its device first. -/
theorem getDevThen {next : SnapDevice → KernelM β}
    (second : ∀ device, Concerns dev (fun _ => True) device (next device) (fun _ => Steady device)
      (fun reason after => ∀ error, reason = .errno error → Steady device after)) :
    Minds dev (Driver.getDev dev >>= next) := fun device => .getThen (second device)

theorem tracerSetFailState (error : Errno) : Minds dev (Driver.tracerSetFailState dev error) := by
  apply setDev
  · exact fun _ => .inl rfl
  · exact fun device => MayFail.steady (.inr ⟨error, rfl⟩)

theorem tracerSetupCowPath : Minds dev (Driver.tracerSetupCowPath dev) := by
  apply of_concerns (fun _ => tracerSetupCowPath_concerns)
  · intro device _ after changed
    obtain ⟨_, same⟩ := changed
    rw [same]
    exact { Steady.refl device with }
  · intro device _ after changed
    rcases changed with same | same
    · rw [same]
      exact .refl device
    · rw [same]
      exact { Steady.refl device with }

theorem tracerSetupSnap : Minds dev (Driver.tracerSetupSnap dev) := by
  apply of_concerns (fun _ => tracerSetupSnap_concerns)
  · intro device _ after same
    rw [same]
    exact { Steady.refl device with }
  · intro device _ after only
    obtain ⟨_, _, same⟩ := only
    rw [same]
    exact { Steady.refl device with }

theorem tracerSetupCowThread (step : Step) : Minds dev (Driver.tracerSetupCowThread step dev) := by
  apply bind (attempt step)
  intro _
  exact setDev (fun _ => .inl rfl) fun device => { Steady.refl device with }

theorem wakeUpCowThread : Minds dev (Driver.wakeUpCowThread dev) := by
  apply getDevThen
  intro device
  exact .ite (fun _ => .pure (.refl device)) fun _ => .stop fun _ _ => .refl device

theorem tracerDestroyCowThread : Minds dev (Driver.tracerDestroyCowThread dev) := by
  apply getDevThen
  intro device
  apply Concerns.when
  · intro _
    apply Concerns.bind ((finishCow_concerns device.sdPending).mono (fun _ _ may => may.steady)
      fun _ _ may _ _ => may.steady)
    intro _ drained steady
    exact .setDev (.inl rfl) { steady with }
  · exact fun _ => .refl device

theorem tracerDestroySnap : Minds dev (Driver.tracerDestroySnap dev) :=
  setDev (fun _ => .inl rfl) fun device => { Steady.refl device with }

theorem tracerDestroyCowPath : Minds dev (Driver.tracerDestroyCowPath dev) :=
  setDev (fun _ => .inl rfl) fun device => { Steady.refl device with }

theorem tracerDestroyCow (method : CloseMethod) : Minds dev (Driver.tracerDestroyCow dev method) := by
  apply of_concerns (fun _ => tracerDestroyCow_concerns method)
  · intro device _ after same
    rw [same]
    split
    · exact { Steady.refl device with }
    · exact { Steady.refl device with }
  · intro device _ after changed
    obtain ⟨_, same⟩ := changed
    rw [same]
    exact { Steady.refl device with }

theorem of_onlyCow {device' : SnapDevice} (only : OnlyCow device device') : Steady device device' := by
  obtain ⟨_, _, _, same⟩ := only
  rw [same]
  exact { Steady.refl device with }

theorem tracerSetupCow (bdev : Nat) (path : CowPath) (method : OpenMethod) :
    Minds dev (Driver.tracerSetupCow machine dev bdev path method) := by
  apply of_concerns (fun _ => tracerSetupCow_concerns trivial bdev method)
  · exact fun _ _ _ opened => of_onlyCow opened.onlyCow
  · exact fun _ _ _ only => of_onlyCow only

end Minds

theorem Local.orderly {paths : CowPath → Prop} (orderly : before.Orderly machine terms busy)
    (found : before.devices dev = some device) (there : Local dev paths before (Steady device) after) :
    after.Orderly machine terms busy := by
  obtain ⟨device', found', _, steady⟩ := there.device
  apply orderly.elsewhere there.elsewhere (orderly.devices dev device found)
  · simp [found']
  · simp [Kernel.heldOps, found, found', steady.sdTracingOps]
  · intro minor kept held idle
    cases found'.symm.trans held.2
    apply steady.settled
    apply orderly.settled minor dev device _ idle
    exact ⟨(congrFun there.elsewhere.table minor).symm.trans held.1, found⟩
  · intro kept found'' idle waits
    cases found'.symm.trans found''
    apply steady.paused
    exact orderly.paused dev device found idle (steady.unverified.symm.trans waits)

theorem Minds.orderly {program : KernelM α} (minds : Minds dev program)
    (orderly : kernel.Orderly machine terms busy) (found : kernel.devices dev = some device) :
    wp program (fun _ after => after.Orderly machine terms busy)
      (OnError fun after => after.Orderly machine terms busy) kernel := by
  apply wp_mono (minds device kernel found fun _ _ _ _ => trivial)
  · exact fun _ _ there => there.orderly orderly found
  · exact fun _ _ there error same =>
      (there.weaken fun _ steady => steady error same).orderly orderly found

theorem Off.minds {trops : Option Address} {good : SnapDevice → Prop} {program : KernelM α}
    (here : Off machine terms before dev trops good kernel) (minds : Minds dev program)
    (stable : ∀ device device', good device → Steady device device' → good device') :
    wp program (fun _ => Off machine terms before dev trops good)
      (OnError (Off machine terms before dev trops good)) kernel := by
  obtain ⟨device, found, refers, holds⟩ := here.device
  have next : ∀ {after : Kernel}, Local dev (fun _ => True) kernel (Steady device) after →
      Off machine terms before dev trops good after := by
    intro after there
    apply here.next
    apply there.weaken
    exact fun device' steady => ⟨steady.sdTracingOps.trans refers, stable device device' holds steady⟩
  apply wp_mono (minds device kernel found fun _ _ _ _ => trivial)
  · exact fun _ _ there => next there
  · exact fun _ _ there error same => next (there.weaken fun _ steady => steady error same)

end Moocbt.Driver
