import Moocbt.Cow.Lifecycle
import Moocbt.Driver.Stable

/-! What setting up and tearing down a device leaves alone, and what becomes of its COW file:
nothing, unless it is unlinked with the manager of the device. -/

namespace Moocbt.Driver

open Cow (CowFile CowM CowState Errno Outcome Stop)
open Program

/-- A device with no work queued and this kind of manager and fail code. -/
structure Idle (unverified : Bool) (cows : Option Address → Option Errno → Prop)
    (device : SnapDevice) : Prop where
  sdPending : device.sdPending = []
  unverified : device.unverified = unverified
  sdCow : cows device.sdCow device.sdFailCode

/-- What holds while a device is set up or torn down without an access to its manager. -/
structure Quiet (dev : Address) (side : Side → Prop) (unverified : Bool)
    (cows : Option Address → Option Errno → Prop) (kernel : Kernel) : Prop where
  side : side kernel.side
  device : ∃ device, kernel.devices dev = some device ∧ Idle unverified cows device

variable {machine : Machine} {kernel : Kernel} {dev other : Address} {side : Side → Prop}
  {unverified : Bool} {cows : Option Address → Option Errno → Prop} {α : Type} {bdev minor : Nat}

namespace Quiet

/-- Whichever way the program ends. -/
abbrev Kept (dev : Address) (side : Side → Prop) (unverified : Bool)
    (cows : Option Address → Option Errno → Prop) (program : KernelM α) : Prop :=
  Maintains (Quiet dev side unverified cows) program

theorem stable : Stable (Quiet dev side unverified cows) where
  update := by
    intro before after quiet same devices _
    refine ⟨?_, ?_⟩
    · rw [same]
      exact quiet.side
    · rw [devices]
      exact quiet.device
  setDev := by
    intro kernel other device device' quiet found pending verified cow code
    refine ⟨quiet.side, ?_⟩
    obtain ⟨kept, stored, idle⟩ := quiet.device
    by_cases same : dev = other
    · subst same
      cases found.symm.trans stored
      exact ⟨_, Function.update_self _ _ _, pending ▸ idle.sdPending, verified ▸ idle.unverified,
        cow ▸ code ▸ idle.sdCow⟩
    · exact ⟨kept, (Function.update_of_ne same _ _).trans stored, idle⟩

/-- The device as it is read. -/
theorem seen {next : SnapDevice → KernelM α}
    (holds : ∀ device, Idle unverified cows device → Kept dev side unverified cows (next device)) :
    Kept dev side unverified cows (Driver.getDev dev >>= next) := by
  intro kernel quiet
  obtain ⟨device, found, idle⟩ := quiet.device
  rw [wp_bind, wp_getDev found]
  exact holds device idle kernel quiet

/-- Another device may be changed as well as this one. -/
theorem sets {change : SnapDevice → SnapDevice}
    (calm : ∀ device, Idle unverified cows device → Idle unverified cows (change device)) :
    Kept dev side unverified cows (setDev other change) := by
  intro kernel quiet
  cases found : kernel.devices other with
  | none =>
      rw [wp_setDev_freed found]
      exact quiet
  | some device =>
      rw [wp_setDev found]
      refine ⟨quiet.side, ?_⟩
      obtain ⟨kept, stored, idle⟩ := quiet.device
      by_cases same : dev = other
      · subst same
        cases found.symm.trans stored
        exact ⟨_, Function.update_self _ _ _, calm device idle⟩
      · exact ⟨kept, (Function.update_of_ne same _ _).trans stored, idle⟩

theorem cleanUpCow
    (frees : ∀ device cow, device.sdCow = some cow → Idle unverified cows device →
      Kept dev side unverified cows (runCow cow Cow.cowFreeMembers)) :
    Kept dev side unverified cows (Driver.cleanUpCow dev) := by
  apply seen
  intro device idle
  apply Maintains.when
  cases held : device.sdCow with
  | none => exact .pure ()
  | some cow => exact frees device cow held idle

/-- With no work queued nothing is drained. -/
theorem tracerDestroyCowThread
    (cleans : Kept dev side unverified cows (Driver.cleanUpCow dev)) :
    Kept dev side unverified cows (Driver.tracerDestroyCowThread dev) := by
  apply seen
  intro device idle
  rw [idle.sdPending]
  apply Maintains.when
  apply Maintains.bind cleans
  intro _
  exact sets fun _ idle => { idle with sdPending := rfl }

end Quiet

/-- A manager whose file cannot be opened leaves the file alone. -/
theorem refusedCow_spec {state : Cow.CowState} :
    wp refusedCow (fun _ _ => False)
      (fun reason after => after.file = state.file ∧
        ∀ error, reason = .errno error → after.cm.dfilp = .null) state := by
  unfold refusedCow Cow.cowAllocManager
  rw [wp_bind, wp_bind, Cow.wp_onErrno]
  apply Cow.wp_allocate
  · exact fun _ _ => ⟨rfl, fun _ _ => rfl⟩
  · intro reason rest _ _
    cases reason with
    | errno error => exact ⟨rfl, fun _ same => nomatch same⟩
    | oops => exact ⟨rfl, fun _ same => nomatch same⟩
    | crash => exact ⟨rfl, fun _ same => nomatch same⟩

/-- What the file at a path has become is good, and stays so while the device is torn down. -/
abbrev Fate (dev : Address) (path : CowPath) (good : Option CowFile → Prop) (unverified : Bool) :
    Kernel → Prop :=
  Quiet dev (fun side => good (side.files path)) unverified fun held _ => held = none ∨ good none

namespace Fate

variable {path : CowPath} {good : Option CowFile → Prop}

abbrev Kept (dev : Address) (path : CowPath) (good : Option CowFile → Prop) (unverified : Bool)
    (program : KernelM α) : Prop :=
  Maintains (Fate dev path good unverified) program

/-- A program of the manager of the device that may only unlink the file. -/
theorem runCow {cow : Address} {program : CowM α} (allowed : good none)
    (unlinks : ∀ state, wp program
      (fun _ after => after.file = state.file ∨ after.file = none)
      (fun _ after => after.file = state.file ∨ after.file = none) state) :
    Kept dev path good unverified (Driver.runCow cow program) := by
  intro kernel fate
  cases found : kernel.cows cow with
  | none =>
      rw [wp_runCow_freed found]
      exact fate
  | some object =>
      have kept : ∀ after : CowState,
          after.file = kernel.files object.path ∨ after.file = none →
          Fate dev path good unverified (kernel.putCow cow object after) := by
        intro after unlinked
        refine ⟨?_, fate.device⟩
        by_cases same : path = object.path
        · subst same
          change good (Function.update kernel.files object.path after.file object.path)
          rw [Function.update_self]
          rcases unlinked with still | gone
          · rw [still]
            exact fate.side
          · rw [gone]
            exact allowed
        · change good (Function.update kernel.files object.path after.file path)
          rw [Function.update_of_ne same]
          exact fate.side
      rw [wp_runCow found]
      apply wp_mono (unlinks _)
      · exact fun _ => kept
      · exact fun _ => kept

/-- The manager of the device is freed where the file may be unlinked. -/
theorem cowFreeMembers (device : SnapDevice) (cow : Address) (held : device.sdCow = some cow)
    (idle : Idle unverified (fun held _ => held = none ∨ good none) device) :
    Kept dev path good unverified (Driver.runCow cow Cow.cowFreeMembers) := by
  apply runCow (idle.sdCow.resolve_left (by simp [held]))
  intro state
  apply wp_mono Cow.cowFreeMembers_spec
  · exact fun _ after freed => freed.2.imp_right And.left
  · exact fun _ after kept => .inl kept.1

theorem tracerDestroyCowThread :
    Kept dev path good unverified (Driver.tracerDestroyCowThread dev) :=
  Quiet.tracerDestroyCowThread (Quiet.cleanUpCow cowFreeMembers)

theorem tracerDestroyCow : Kept dev path good unverified (Driver.tracerDestroyCow dev .free) := by
  apply Maintains.bind (Quiet.stable.sets (by simp))
  intro _
  apply Quiet.seen
  intro device idle
  cases held : device.sdCow with
  | none => exact .pure ()
  | some cow =>
      apply Maintains.bind
      · apply Maintains.bind (cowFreeMembers device cow held idle)
        exact fun _ => .update fun _ fate => ⟨fate.side, fate.device⟩
      · exact fun _ => Quiet.sets fun _ idle => { idle with sdCow := .inl rfl }

theorem tracerDestroy : Kept dev path good unverified (Driver.tracerDestroy machine dev) := by
  apply Maintains.bind (Quiet.stable.tracerDestroyTracing tracerDestroyCowThread)
  intro _
  apply Maintains.bind tracerDestroyCowThread
  intro _
  apply Maintains.bind (Quiet.stable.sets (by simp))
  intro _
  apply Maintains.bind (Quiet.stable.sets (by simp))
  intro _
  exact .bind tracerDestroyCow fun _ => Quiet.stable.sets (by simp)

/-- A device that is registered again waits to be verified, whatever it was. -/
theorem tracerSetupUnverified (bdevPath relPath cacheSize : Nat) (isSnap : Bool)
    (fate : Fate dev path good unverified kernel) :
    wp (Driver.tracerSetupUnverified machine dev minor bdevPath relPath cacheSize isSnap)
      (fun _ => Fate dev path good true) (fun _ => Fate dev path good true) kernel := by
  obtain ⟨device, found, idle⟩ := fate.device
  have waits : Kept dev path good true (do
      unwinding
        (do
          Driver.attempt .copyBdevPath
          setDev dev fun device => { device with sdBdevPath := some bdevPath }
          Driver.attempt .copyCowPath
          setDev dev fun device => { device with sdCowPath := some relPath })
        fun _ => do
          Driver.tracerDestroy machine dev
          Program.stop (.errno .enomem)
      Driver.tracerSetupTracingUnverified dev minor) := by
    apply Maintains.bind
    · apply maintains_unwinding
      · apply Maintains.bind (Stable.attempt _)
        intro _
        apply Maintains.bind (Quiet.stable.sets (by simp))
        intro _
        exact .bind (Stable.attempt _) fun _ => Quiet.stable.sets (by simp)
      · exact fun _ => .bind tracerDestroy fun _ => .stop _
    · intro _
      apply Maintains.bind (Quiet.stable.minorRangeInclude minor)
      intro _
      exact .bind (Quiet.stable.sets (by simp)) fun _ => Quiet.stable.setSlot _ _
  unfold Driver.tracerSetupUnverified
  rw [wp_bind, wp_setDev found]
  exact waits _ ⟨fate.side, _, Kernel.setDev_same _ _ _, { idle with unverified := rfl }⟩

end Fate

end Moocbt.Driver
