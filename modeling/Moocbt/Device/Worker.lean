import Moocbt.Cow.Tending

/-! What the two kinds of cow thread share: the manager they work on, the fail
code of the device, the stop flag and the locals of the thread. -/

namespace Moocbt.Device

open Cow Program

/-- Why the cow thread is stopped: the file system is unmounted, another device takes
over, or the device is destroyed. -/
inductive Ending where
  | dormant
  | replaced
  | destroyed
  deriving DecidableEq, Repr

/-- How far the device is from the active state. Its file could not be closed when it
`failed`, and could not be opened again when it is `unopened`; `ACTIVE` is cleared in the
latter. A device is `flushing` while a thread runs that was started to destroy it. -/
inductive Phase where
  | active
  | dormant
  | flushing
  | freed
  | failed
  | unopened
  deriving DecidableEq, Repr

/-- What is done to the manager once the thread has stopped: `cow_sync_and_close`
for `__tracer_active_to_dormant`, `cow_sync_and_free` for `tracer_active_inc_to_snap`,
`cow_free` for `tracer_destroy`. -/
def Ending.program : Ending → CowM Unit
  | .dormant => cowSyncAndClose
  | .replaced => cowSyncAndFree
  | .destroyed => cowFreeMembers

/-- The COW manager of a device with its file, `sd_fail_code`, the flag that
`kthread_stop` sets, `is_failed` and `ret` of the thread, and how far the device is
on its way out of the active state. -/
structure Worker where
  cow : CowState
  failCode : Option Errno
  shouldStop : Bool
  isFailed : Bool
  ret : Option Errno
  crashed : Bool
  phase : Phase
  ending : Option Ending

namespace Worker

/-- A thread that was just created for a manager. -/
def fresh (cow : CowState) (failCode : Option Errno) : Worker :=
  ⟨cow, failCode, false, false, none, false, .active, none⟩

/-- `tracer_set_fail_state`: the first error stays. -/
def setFailState (worker : Worker) (error : Errno) : Worker :=
  { worker with failCode := worker.failCode.or (some error) }

/-- The check at the top of the loop of both threads. -/
def noticeFailure (worker : Worker) (outcomes : List Outcome) : Worker :=
  if worker.isFailed || worker.failCode.isNone then worker
  else
    match cowFreeMembers { worker.cow with outcomes } with
    | (.ok (), cow) => { worker with cow, isFailed := true }
    | (.error _, cow) => { worker with cow, isFailed := true, crashed := true }

/-- A handler, or a part of one, and what both threads do when it returns an error. -/
def run {α : Type} (worker : Worker) (program : CowM α) (outcomes : List Outcome) :
    Worker × Option α :=
  match program { worker.cow with outcomes } with
  | (.ok value, cow) => ({ worker with cow, ret := none }, some value)
  | (.error (.errno error), cow) =>
      (setFailState { worker with cow, ret := some error } error, none)
  | (.error _, cow) => ({ worker with cow, crashed := true }, none)

/-- `cow_modify_cache_size`, from `tracer_reconfigure`. -/
def reconfigure (worker : Worker) (cacheSize : Nat) : Worker :=
  { worker with cow := (cowModifyCacheSize cacheSize worker.cow).2 }

/-- Only `__tracer_active_to_dormant` looks at the result. -/
def close (worker : Worker) (ending : Ending) (outcomes : List Outcome) : Worker :=
  match ending.program { worker.cow with outcomes } with
  | (.ok (), cow) =>
      { worker with cow, phase := if ending = .dormant then .dormant else .freed }
  | (.error (.errno error), cow) =>
      if ending = .dormant then setFailState { worker with cow, phase := .failed } error
      else { worker with cow, phase := .freed }
  | (.error _, cow) => { worker with cow, crashed := true }

/-- A device that could not be reopened; one that could not be closed before keeps `ACTIVE`. -/
def halt (worker : Worker) (cow : CowState) (error : Errno) : Worker :=
  setFailState
    { worker with cow, phase := if worker.phase = .failed then .failed else .unopened } error

/-- `__tracer_dormant_to_active`: reopen the file and start a new thread, which can
fail as well. -/
def reopen (worker : Worker) (outcomes : List Outcome) (noThread : Option Errno) : Worker :=
  match cowReopen { worker.cow with outcomes } with
  | (.ok (), cow) =>
      match noThread with
      | none => .fresh cow worker.failCode
      | some error => worker.halt cow error
  | (.error (.errno error), cow) => worker.halt cow error
  | (.error _, cow) => { worker with cow, crashed := true }

/-- The thread that `__tracer_destroy_tracing` starts for a device without `ACTIVE` which it
is to destroy, on the manager as it is. Where there is none, a null pointer is woken. -/
def flush (worker : Worker) : Option Errno → Worker
  | none => { fresh worker.cow worker.failCode with phase := .flushing }
  | some _ => { worker with crashed := true }

/-- A transition may begin: the device is active and sound. -/
def Settled (worker : Worker) : Prop :=
  worker.phase = .active ∧ worker.failCode = none ∧ worker.ending = none

/-- A thread runs, or was stopped and waits to be ended. -/
def Runs (worker : Worker) : Prop := worker.phase = .active ∨ worker.phase = .flushing

/-- No thread is left: the device was unmounted, or should have been. -/
def Idle (worker : Worker) : Prop :=
  worker.ending = some .dormant ∧
    (worker.phase = .dormant ∨ worker.phase = .failed ∨ worker.phase = .unopened)

/-- A destroy may begin. -/
def Destroyable (worker : Worker) : Prop := worker.Runs ∧ worker.ending = none ∨ worker.Idle

/-- The manager is closed or freed once no thread is left. -/
def Closes (worker : Worker) : Prop :=
  worker.phase = .active ∨ worker.ending = some .destroyed ∧ worker.phase ≠ .freed

/-- The file is not on its way to be closed as clean. -/
def Unclosed (worker : Worker) : Prop :=
  worker.ending = none ∨ worker.ending = some .destroyed

instance (worker : Worker) : Decidable worker.Settled := inferInstanceAs (Decidable (_ ∧ _ ∧ _))

instance (worker : Worker) : Decidable worker.Runs := inferInstanceAs (Decidable (_ ∨ _))

instance (worker : Worker) : Decidable worker.Idle := inferInstanceAs (Decidable (_ ∧ _))

instance (worker : Worker) : Decidable worker.Destroyable :=
  inferInstanceAs (Decidable (_ ∧ _ ∨ _))

instance (worker : Worker) : Decidable worker.Closes := inferInstanceAs (Decidable (_ ∨ _ ∧ _))

variable {worker : Worker}

/-- The queue of a device is only flushed where its file could be closed. -/
theorem Idle.flushable (idle : worker.Idle) (closed : worker.phase ≠ .failed) :
    worker.phase = .dormant ∨ worker.phase = .unopened := by
  rcases idle.2 with dormant | failed | unopened
  · exact .inl dormant
  · exact absurd failed closed
  · exact .inr unopened

theorem Idle.closed (idle : worker.Idle) (opens : worker.phase ≠ .unopened) :
    worker.phase = .dormant ∨ worker.phase = .failed :=
  idle.2.imp_right fun halted => halted.resolve_right opens

/-- The three ways a program of the thread ends. -/
inductive Ran {α : Type} (worker : Worker) (done : α → CowState → Prop)
    (stopped : Stop → CowState → Prop) : Worker × Option α → Prop
  | returned {value : α} {cow : CowState} : done value cow →
      Ran worker done stopped ({ worker with cow, ret := none }, some value)
  | failed {error : Errno} {cow : CowState} : stopped (.errno error) cow →
      Ran worker done stopped (setFailState { worker with cow, ret := some error } error, none)
  | crashed {reason : Stop} {cow : CowState} : stopped reason cow →
      Ran worker done stopped ({ worker with cow, crashed := true }, none)

theorem run_spec {α : Type} {program : CowM α} {outcomes : List Outcome}
    {done : α → CowState → Prop} {stopped : Stop → CowState → Prop}
    (spec : wp program done stopped { worker.cow with outcomes }) :
    Ran worker done stopped (worker.run program outcomes) := by
  unfold run
  cases ran : program { worker.cow with outcomes } with
  | mk result cow =>
      cases result with
      | ok value => exact .returned (wp_done spec ran)
      | error reason =>
          have stop := wp_stopped spec ran
          cases reason with
          | errno error => exact .failed stop
          | oops => exact .crashed stop
          | crash => exact .crashed stop

/-- What noticing a failure can do. -/
inductive Noticed (worker : Worker) : Worker → Prop
  | calm : worker.isFailed = true ∨ worker.failCode = none → Noticed worker worker
  | freed {cow : CowState} : worker.isFailed = false → worker.failCode ≠ none →
      cow.cm = { worker.cow.cm with sects := none, dfilp := .null } → Quiet worker.cow cow →
      Noticed worker { worker with cow, isFailed := true }
  | crashed {cow : CowState} : worker.isFailed = false → worker.failCode ≠ none →
      Quiet worker.cow cow → Noticed worker { worker with cow, isFailed := true, crashed := true }

theorem noticeFailure_spec (worker : Worker) (outcomes : List Outcome) :
    Noticed worker (worker.noticeFailure outcomes) := by
  unfold noticeFailure
  split
  · rename_i calm
    refine .calm ?_
    simpa using calm
  · rename_i failing
    have live : worker.isFailed = false := by
      cases failed : worker.isFailed <;> simp_all
    have failed : worker.failCode ≠ none := by
      intro none
      simp [none] at failing
    have members : wp cowFreeMembers _ _ { worker.cow with outcomes } := cowFreeMembers_spec
    have spec := wp_and members freeMembers_quiet
    cases ran : cowFreeMembers { worker.cow with outcomes } with
    | mk result cow =>
        cases result with
        | ok value =>
            obtain ⟨⟨manager, _⟩, quiet⟩ := wp_done spec ran
            exact .freed live failed manager quiet.of_outcomes
        | error reason =>
            obtain ⟨_, quiet⟩ := wp_stopped spec ran
            exact .crashed live failed quiet.of_outcomes

theorem halt_phase (worker : Worker) (cow : CowState) (error : Errno) :
    (worker.halt cow error).phase = .failed ∧ worker.phase = .failed ∨
      (worker.halt cow error).phase = .unopened := by
  unfold halt setFailState
  dsimp only
  split
  · rename_i failed
    exact .inl ⟨rfl, failed⟩
  · exact .inr rfl

theorem run_phase {α : Type} (worker : Worker) (program : CowM α) (outcomes : List Outcome) :
    (worker.run program outcomes).1.phase = worker.phase := by
  unfold run
  split <;> rfl

theorem run_isFailed {α : Type} (worker : Worker) (program : CowM α) (outcomes : List Outcome) :
    (worker.run program outcomes).1.isFailed = worker.isFailed := by
  unfold run
  split <;> rfl

theorem noticeFailure_phase (worker : Worker) (outcomes : List Outcome) :
    (worker.noticeFailure outcomes).phase = worker.phase ∧
      (worker.noticeFailure outcomes).ending = worker.ending := by
  have noticed := worker.noticeFailure_spec outcomes
  generalize worker.noticeFailure outcomes = result at noticed
  cases noticed <;> exact ⟨rfl, rfl⟩

end Worker

end Moocbt.Device
