import Moocbt.Cow.Steady
import Moocbt.Cow.Store
import Moocbt.Device.Worker

/-! When the file of a device can be closed as clean. What is to be in the store is a
parameter: both kinds of device work on it through the same manager and fail the
same way. -/

namespace Moocbt.Device

open Cow Program

/-- A store, open and closed, and what is then found on its file. -/
structure Filing (good shelf : CowState → Prop) (applied : Option CowFile → Prop) : Prop where
  shut : ∀ {cow : CowState}, shelf cow → cow.cm.dfilp ≠ .opened
  outcomes : ∀ {cow : CowState} (outcomes : List Outcome), good cow → good { cow with outcomes }
  rests : ∀ {cow : CowState} (outcomes : List Outcome), shelf cow → shelf { cow with outcomes }
  closes : ∀ {cow : CowState}, good cow →
    wp cowSyncAndCloseFile (fun _ after => shelf after) (fun _ after => Quiet cow after) cow
  reopens : ∀ {cow : CowState}, shelf cow →
    wp cowReopen (fun _ after => good after ∧ Dirty after.file)
      (fun _ after => after.file = cow.file) cow
  reconfigures : ∀ {cow : CowState} (cacheSize : Nat), good cow →
    good (cowModifyCacheSize cacheSize cow).2 ∧ Quiet cow (cowModifyCacheSize cacheSize cow).2
  applies : ∀ {cow : CowState}, shelf cow → applied cow.file

/-- A manager that lost its members cannot be closed. -/
theorem close_of_freed {state : CowState} (gone : state.cm.sects = none)
    (null : state.cm.dfilp = .null) :
    wp cowSyncAndCloseFile (fun _ _ => False) (fun _ after => after.file = state.file) state := by
  unfold cowSyncAndCloseFile cowSyncAndFreeSections
  rw [wp_onErrno, wp_bind, wp_bind, wp_getCm]
  cases total : state.cm.totalSects with
  | zero =>
      unfold cowSyncSections cowWriteHeader
      simp only [wp_pure, wp_bind, wp_updateCm, wp_getCm]
      refine wp_mono (fileWriteHeader_spec _) ?_ ?_
      · intro _ after wrote
        have opened : state.cm.dfilp = .opened := wrote.1
        rw [null] at opened
        contradiction
      · intro reason middle stop
        obtain ⟨_, rest, _, same⟩ := stop
        subst same
        cases reason with
        | errno error =>
            have members := @cowFreeMembers_spec
              { state with cm := state.cm.withClean true, outcomes := rest }
            refine wp_mono members ?_ (fun _ _ stopped => stopped.1)
            intro _ after freed
            rcases freed.2 with same | ⟨_, opened⟩
            · exact same
            · have opened' : state.cm.dfilp = .opened := opened
              rw [null] at opened'
              contradiction
        | oops => rfl
        | crash => rfl
  | succ total =>
      unfold cowSyncSections cowSyncSection
      simp only [decide_true, Bool.true_or, wp_bind, wp_getCm, wp_when, if_true,
        wp_sectAt_invalid (.inl gone)]

variable {good shelf : CowState → Prop} {applied : Option CowFile → Prop} {early dropped : Prop}
  {worker : Worker}

/-- A device whose file is clean only if everything is on it. While its thread runs
and has not noticed a failure, either the store is good, or a failure was recorded
since the last check, by a handler or before the thread began. A thread that flushes the
queue of a dormant device has no open file, or notices a failure first. -/
structure Guarded (good shelf : CowState → Prop) (applied : Option CowFile → Prop)
    (early dropped : Prop) (worker : Worker) : Prop where
  safe : Dirty worker.cow.file ∨ applied worker.cow.file
  dirty : worker.phase = .active → Dirty worker.cow.file
  freed : worker.crashed = false → worker.phase = .active → worker.isFailed = true →
    worker.cow.cm.sects = none ∧ worker.cow.cm.dfilp = .null ∧ worker.failCode ≠ none
  sound : worker.crashed = false → worker.phase = .active → worker.isFailed = false →
    good worker.cow ∨ early ∧ worker.failCode ≠ none ∧ (dropped ∨ worker.Unclosed)
  resting : worker.crashed = false → worker.phase = .dormant → shelf worker.cow
  flushing : worker.crashed = false → worker.phase = .flushing → worker.isFailed = false →
    worker.cow.cm.dfilp ≠ .opened ∨ early ∧ worker.failCode ≠ none
  unopened : worker.phase = .unopened → worker.failCode ≠ none
  failing : worker.phase = .failed → Dirty worker.cow.file

theorem Guarded.weaken {early' dropped' : Prop}
    (guarded : Guarded good shelf applied early dropped worker) (earlier : early → early')
    (more : dropped → dropped') : Guarded good shelf applied early' dropped' worker :=
  { guarded with
    sound := fun running active unfailed =>
      (guarded.sound running active unfailed).imp_right fun bad =>
        ⟨earlier bad.1, bad.2.1, bad.2.2.imp_left more⟩
    flushing := fun running flushing unfailed =>
      (guarded.flushing running flushing unfailed).imp_right fun bad =>
        ⟨earlier bad.1, bad.2⟩ }

theorem Guarded.of_crashed (safe : Dirty worker.cow.file ∨ applied worker.cow.file)
    (dirty : worker.phase = .active → Dirty worker.cow.file)
    (unopened : worker.phase = .unopened → worker.failCode ≠ none)
    (failing : worker.phase = .failed → Dirty worker.cow.file)
    (crashed : worker.crashed = true) : Guarded good shelf applied early dropped worker where
  safe := safe
  dirty := dirty
  freed := by simp [crashed]
  sound := by simp [crashed]
  resting := by simp [crashed]
  flushing := by simp [crashed]
  unopened := unopened
  failing := failing

/-- No thread is left, and the file is not to be opened again, or is dirty. -/
theorem Guarded.of_ended (safe : Dirty worker.cow.file ∨ applied worker.cow.file)
    (past : worker.phase = .freed ∨ worker.phase = .failed ∧ Dirty worker.cow.file ∨
      worker.phase = .unopened ∧ worker.failCode ≠ none) :
    Guarded good shelf applied early dropped worker := by
  have ended : worker.phase ≠ .active ∧ worker.phase ≠ .dormant ∧ worker.phase ≠ .flushing := by
    rcases past with freed | failed | unopened
    · simp [freed]
    · simp [failed.1]
    · simp [unopened.1]
  refine ⟨safe, fun active => absurd active ended.1, fun _ active => absurd active ended.1,
    fun _ active => absurd active ended.1, fun _ dormant => absurd dormant ended.2.1,
    fun _ flushing => absurd flushing ended.2.2, fun unopened => ?_, fun failing => ?_⟩
  · rcases past with freed | failed | failing
    · simp [freed] at unopened
    · simp [failed.1] at unopened
    · exact failing.2
  · rcases past with freed | failed | unopened
    · simp [freed] at failing
    · exact failed.2
    · simp [unopened.1] at failing

/-- In a sound device that is not told to stop, the store is good. -/
theorem Guarded.settled (guarded : Guarded good shelf applied early dropped worker)
    (running : worker.crashed = false) (settled : worker.Settled) :
    worker.isFailed = false ∧ good worker.cow := by
  obtain ⟨active, sound, _⟩ := settled
  have unfailed : worker.isFailed = false := by
    cases failed : worker.isFailed with
    | false => rfl
    | true => exact absurd sound (guarded.freed running active failed).2.2
  rcases guarded.sound running active unfailed with good | bad
  · exact ⟨unfailed, good⟩
  · exact absurd sound bad.2.1

theorem Guarded.checked (guarded : Guarded good shelf applied early dropped worker)
    (late : ¬ early) (running : worker.crashed = false) (active : worker.phase = .active)
    (unfailed : worker.isFailed = false) : good worker.cow :=
  (guarded.sound running active unfailed).resolve_right fun bad => late bad.1

theorem Guarded.fails (guarded : Guarded good shelf applied early dropped worker)
    (error : Errno) : Guarded good shelf applied early dropped (worker.setFailState error) := by
  have still : worker.failCode ≠ none → worker.failCode.or (some error) ≠ none := by
    intro failed
    cases found : worker.failCode with
    | none => exact absurd found failed
    | some first => simp
  exact { guarded with
    freed := fun running active failed =>
      have freed := guarded.freed running active failed
      ⟨freed.1, freed.2.1, still freed.2.2⟩
    sound := fun running active unfailed =>
      (guarded.sound running active unfailed).imp_right fun bad => ⟨bad.1, still bad.2.1, bad.2.2⟩
    flushing := fun running flushing unfailed =>
      (guarded.flushing running flushing unfailed).imp_right fun bad => ⟨bad.1, still bad.2⟩
    unopened := fun unopened => still (guarded.unopened unopened) }

theorem Worker.setFailState_ne (error : Errno) : (worker.setFailState error).failCode ≠ none := by
  unfold Worker.setFailState
  cases worker.failCode <;> simp

theorem Guarded.crash (guarded : Guarded good shelf applied early dropped worker) :
    Guarded good shelf applied early dropped { worker with crashed := true } :=
  { guarded with
    freed := by simp
    sound := by simp
    resting := by simp
    flushing := by simp }

/-- The device is told to stop while it is sound. -/
theorem Guarded.ends (guarded : Guarded good shelf applied early dropped worker)
    (running : worker.crashed = false) (settled : worker.Settled) (shouldStop : Bool)
    (ending : Option Ending) :
    Guarded good shelf applied early dropped { worker with shouldStop, ending } :=
  { guarded with
    dirty := guarded.dirty
    freed := guarded.freed
    sound := fun _ _ _ => .inl (guarded.settled running settled).2
    resting := guarded.resting
    flushing := guarded.flushing
    unopened := guarded.unopened
    failing := guarded.failing }

theorem Guarded.destroys (guarded : Guarded good shelf applied early dropped worker)
    (shouldStop : Bool) :
    Guarded good shelf applied early dropped
      { worker with shouldStop, ending := some .destroyed } :=
  { guarded with
    dirty := guarded.dirty
    freed := guarded.freed
    sound := fun running active unfailed =>
      (guarded.sound running active unfailed).imp_right fun bad =>
        ⟨bad.1, bad.2.1, bad.2.2.imp_right fun _ => .inr rfl⟩
    resting := guarded.resting
    flushing := guarded.flushing
    unopened := guarded.unopened
    failing := guarded.failing }

theorem Guarded.stops (guarded : Guarded good shelf applied early dropped worker)
    (shouldStop : Bool) : Guarded good shelf applied early dropped { worker with shouldStop } :=
  { guarded with }

theorem Guarded.returns (guarded : Guarded good shelf applied early dropped worker)
    (ret : Option Errno) : Guarded good shelf applied early dropped { worker with ret } :=
  { guarded with }

/-- Work on the manager that ends well. -/
theorem Guarded.works {good' : CowState → Prop} {applied' : Option CowFile → Prop}
    {shelf' : CowState → Prop} {cow : CowState}
    (guarded : Guarded good shelf applied early dropped worker) (active : worker.phase = .active)
    (unfailed : worker.isFailed = false) (quiet : Quiet worker.cow cow) (works : good' cow) :
    Guarded good' shelf' applied' early dropped { worker with cow } where
  safe := .inl (quiet.dirty (guarded.dirty active))
  dirty := fun _ => quiet.dirty (guarded.dirty active)
  freed := by simp [unfailed]
  sound := fun _ _ _ => .inl works
  resting := by simp [active]
  flushing := by simp [active]
  unopened := by simp [active]
  failing := by simp [active]

/-- What another thread may do to the manager while the device is active. -/
structure Spares (good : CowState → Prop) (before after : CowState) : Prop where
  quiet : Quiet before after
  handle : after.cm.dfilp = before.cm.dfilp
  array : before.cm.sects = none → after.cm.sects = none
  good : good before → good after

theorem Guarded.spared {cow : CowState}
    (guarded : Guarded good shelf applied early dropped worker) (active : worker.phase = .active)
    (spares : Spares good worker.cow cow) :
    Guarded good shelf applied early dropped { worker with cow } where
  safe := .inl (spares.quiet.dirty (guarded.dirty active))
  dirty := fun _ => spares.quiet.dirty (guarded.dirty active)
  freed := by
    intro running _ failed
    obtain ⟨gone, null, failing⟩ := guarded.freed running active failed
    exact ⟨spares.array gone, spares.handle.trans null, failing⟩
  sound := fun running _ unfailed =>
    (guarded.sound running active unfailed).imp_left spares.good
  resting := by simp [active]
  flushing := by simp [active]
  unopened := by simp [active]
  failing := by simp [active]

/-- A handler fails. -/
theorem Guarded.drops {good' : CowState → Prop} {applied' : Option CowFile → Prop}
    {shelf' : CowState → Prop} {cow : CowState}
    (guarded : Guarded good shelf applied early dropped worker) (active : worker.phase = .active)
    (unfailed : worker.isFailed = false) (quiet : Quiet worker.cow cow) (error : Errno) :
    Guarded good' shelf' applied' True True
      (Worker.setFailState { worker with cow, ret := some error } error) where
  safe := .inl (quiet.dirty (guarded.dirty active))
  dirty := fun _ => quiet.dirty (guarded.dirty active)
  freed := by simp [Worker.setFailState, unfailed]
  sound := fun _ _ _ => .inr ⟨trivial, by simp [Worker.setFailState], .inl trivial⟩
  resting := by simp [Worker.setFailState, active]
  flushing := by simp [Worker.setFailState, active]
  unopened := by simp [Worker.setFailState, active]
  failing := by simp [Worker.setFailState, active]

theorem Guarded.crashes {good' : CowState → Prop} {applied' : Option CowFile → Prop}
    {shelf' : CowState → Prop} {cow : CowState} {early' dropped' : Prop}
    (guarded : Guarded good shelf applied early dropped worker) (active : worker.phase = .active)
    (quiet : Quiet worker.cow cow) :
    Guarded good' shelf' applied' early' dropped' { worker with cow, crashed := true } where
  safe := .inl (quiet.dirty (guarded.dirty active))
  dirty := fun _ => quiet.dirty (guarded.dirty active)
  freed := by simp
  sound := by simp
  resting := by simp
  flushing := by simp
  unopened := by simp [active]
  failing := by simp [active]

/-- A program that leaves the store as it was, also when it fails. -/
theorem Guarded.reads {α : Type} {program : CowM α} {outcomes : List Outcome}
    (guarded : Guarded good shelf applied early dropped worker) (active : worker.phase = .active)
    (unfailed : worker.isFailed = false)
    (spec : wp program (fun _ after => Quiet worker.cow after ∧ good after)
      (fun reason after => Quiet worker.cow after ∧ ∀ error, reason = .errno error → good after)
      { worker.cow with outcomes }) :
    Guarded good shelf applied early dropped (worker.run program outcomes).1 := by
  have ran := Worker.run_spec spec
  generalize worker.run program outcomes = result at ran
  cases ran with
  | returned read => exact (guarded.works active unfailed read.1 read.2).returns none
  | @failed error cow stopped =>
      have worked : Guarded good shelf applied early dropped { worker with cow } :=
        guarded.works active unfailed stopped.1 (stopped.2 error rfl)
      exact (worked.returns (some error)).fails error
  | crashed stopped => exact guarded.crashes active stopped.1

/-- After the check at the top of the loop no failure is left unnoticed. -/
theorem Guarded.notices (guarded : Guarded good shelf applied early dropped worker)
    (active : worker.phase = .active) (outcomes : List Outcome) :
    Guarded good shelf applied False dropped (worker.noticeFailure outcomes) := by
  have noticed := worker.noticeFailure_spec outcomes
  generalize worker.noticeFailure outcomes = result at noticed
  cases noticed with
  | calm calm =>
      exact { guarded with
        sound := by
          intro running active unfailed
          rcases guarded.sound running active unfailed with good | bad
          · exact .inl good
          · rcases calm with failed | sound
            · rw [unfailed] at failed
              contradiction
            · exact absurd sound bad.2.1
        flushing := by simp [active] }
  | freed _ failing manager quiet =>
      exact {
        safe := .inl (quiet.dirty (guarded.dirty active))
        dirty := fun _ => quiet.dirty (guarded.dirty active)
        freed := by
          intro _ _ _
          dsimp only
          rw [manager]
          exact ⟨rfl, rfl, failing⟩
        sound := by simp
        resting := by simp [active]
        flushing := by simp [active]
        unopened := by simp [active]
        failing := by simp [active] }
  | crashed _ _ quiet =>
      exact {
        safe := .inl (quiet.dirty (guarded.dirty active))
        dirty := fun _ => quiet.dirty (guarded.dirty active)
        freed := by simp
        sound := by simp
        resting := by simp
        flushing := by simp
        unopened := by simp [active]
        failing := by simp [active] }

theorem Guarded.reconfigures (filing : Filing good shelf applied)
    (guarded : Guarded good shelf applied early dropped worker) (running : worker.crashed = false)
    (settled : worker.Settled) (cacheSize : Nat) :
    Guarded good shelf applied early dropped (worker.reconfigure cacheSize) := by
  obtain ⟨unfailed, good⟩ := guarded.settled running settled
  obtain ⟨good', quiet⟩ := filing.reconfigures cacheSize good
  exact guarded.works settled.1 unfailed quiet good'

/-- The close on the way out of the active state, when no handler has failed or the
failure was noticed. -/
theorem Guarded.closes {early' : Prop} {ending : Ending} (filing : Filing good shelf applied)
    (guarded : Guarded good shelf applied early dropped worker) (running : worker.crashed = false)
    (active : worker.phase = .active) (chosen : worker.ending = some ending)
    (noticed : ending ≠ .destroyed → worker.isFailed = true ∨ ¬ dropped)
    (outcomes : List Outcome) :
    Guarded good shelf applied early' dropped (worker.close ending outcomes) := by
  have dirty := guarded.dirty active
  have synced : ending ≠ .destroyed → wp cowSyncAndCloseFile (fun _ after => shelf after)
      (fun _ after => Dirty after.file) { worker.cow with outcomes } := by
    intro kept
    cases failed : worker.isFailed with
    | true =>
        obtain ⟨gone, null, _⟩ := guarded.freed running active failed
        refine wp_mono (close_of_freed gone null) (fun _ _ => False.elim) ?_
        intro _ after same
        rw [same]
        exact dirty
    | false =>
        have complete : ¬ dropped := (noticed kept).resolve_left (by simp [failed])
        rcases guarded.sound running active failed with good | bad
        · exact wp_mono (filing.closes (filing.outcomes outcomes good)) (fun _ _ => id)
            (fun _ _ quiet => quiet.dirty dirty)
        · rcases bad.2.2 with lost | idle | gone
          · exact absurd lost complete
          · rw [idle] at chosen
            contradiction
          · rw [gone] at chosen
            exact absurd (Option.some.inj chosen).symm kept
  have spec : wp ending.program
      (fun _ after => (ending = .destroyed → Dirty after.file) ∧
        (ending ≠ .destroyed → shelf after))
      (fun _ after => Dirty after.file) { worker.cow with outcomes } := by
    have kept : ending ≠ .destroyed → wp cowSyncAndCloseFile
        (fun _ after => (ending = .destroyed → Dirty after.file) ∧
          (ending ≠ .destroyed → shelf after))
        (fun _ after => Dirty after.file) { worker.cow with outcomes } := fun kept =>
      wp_mono (synced kept) (fun _ _ rests => ⟨fun gone => absurd gone kept, fun _ => rests⟩)
        fun _ _ => id
    cases ending with
    | dormant => exact kept (by simp)
    | replaced => exact kept (by simp)
    | destroyed =>
        have freed := @freeMembers_quiet { worker.cow with outcomes }
        exact wp_mono freed (fun _ _ quiet => ⟨fun _ => quiet.dirty dirty, by simp⟩)
          fun _ _ quiet => quiet.dirty dirty
  unfold Worker.close
  cases ran : ending.program { worker.cow with outcomes } with
  | mk result cow =>
      cases result with
      | ok value =>
          obtain ⟨destroyed, rests⟩ := wp_done spec ran
          have safe : Dirty cow.file ∨ applied cow.file := by
            by_cases gone : ending = .destroyed
            · exact .inl (destroyed gone)
            · exact .inr (filing.applies (rests gone))
          dsimp only
          split
          · rename_i kept
            have rests := rests (by simp [kept])
            exact ⟨safe, by simp, by simp, by simp, fun _ _ => rests, by simp, by simp, by simp⟩
          · exact .of_ended safe (.inl rfl)
      | error reason =>
          have dirty' : Dirty cow.file := wp_stopped spec ran
          cases reason with
          | errno error =>
              dsimp only
              split
              · exact .of_ended (.inl dirty') (.inr (.inl ⟨rfl, dirty'⟩))
              · exact .of_ended (.inl dirty') (.inl rfl)
          | oops =>
              exact .of_crashed (.inl dirty') (fun _ => dirty') (by simp [active])
                (by simp [active]) rfl
          | crash =>
              exact .of_crashed (.inl dirty') (fun _ => dirty') (by simp [active])
                (by simp [active]) rfl

/-- A file that is dirty is not opened again. -/
theorem reopen_of_dirty {state : CowState} (dirty : Dirty state.file) :
    wp cowReopen (fun _ _ => False) (fun _ after => after.file = state.file) state := by
  refine wp_mono cowReopen_spec ?_ (fun _ _ stopped => stopped.1)
  intro _ after reopened
  obtain ⟨file, rest, found, good, _⟩ := reopened
  exact dirty.not_clean' found good.clean'

/-- A device that cannot be reopened keeps its file. -/
theorem Guarded.halts {early' : Prop} {cow : CowState}
    (guarded : Guarded good shelf applied early dropped worker)
    (safe : Dirty cow.file ∨ applied cow.file)
    (same : worker.phase = .failed → cow.file = worker.cow.file) (error : Errno) :
    Guarded good shelf applied early' dropped (worker.halt cow error) := by
  have placed := worker.halt_phase cow error
  refine .of_ended safe ?_
  rcases placed with failed | unopened
  · refine .inr (.inl ⟨failed.1, ?_⟩)
    have kept := guarded.failing failed.2
    rw [← same failed.2] at kept
    exact kept
  · exact .inr (.inr ⟨unopened, Worker.setFailState_ne error⟩)

theorem Guarded.reopens {early' : Prop} (filing : Filing good shelf applied)
    (guarded : Guarded good shelf applied early dropped worker) (running : worker.crashed = false)
    (closed : worker.phase = .dormant ∨ worker.phase = .failed) (outcomes : List Outcome)
    (noThread : Option Errno) :
    Guarded good shelf applied early' dropped (worker.reopen outcomes noThread) := by
  have spec : wp cowReopen
      (fun _ after => (good after ∧ Dirty after.file) ∧ worker.phase ≠ .failed)
      (fun _ after => after.file = worker.cow.file) { worker.cow with outcomes } := by
    rcases closed with dormant | failed
    · have rests := guarded.resting running dormant
      exact wp_mono (filing.reopens (filing.rests outcomes rests))
        (fun _ _ both => ⟨both, by simp [dormant]⟩) (fun _ _ => id)
    · exact wp_mono (reopen_of_dirty (guarded.failing failed)) (fun _ _ => False.elim)
        (fun _ _ => id)
  unfold Worker.reopen
  cases ran : cowReopen { worker.cow with outcomes } with
  | mk result cow =>
      cases result with
      | ok value =>
          obtain ⟨⟨good, dirty⟩, sound⟩ := wp_done spec ran
          cases noThread with
          | none =>
              exact ⟨.inl dirty, fun _ => dirty, by simp [Worker.fresh], fun _ _ _ => .inl good,
                by simp [Worker.fresh], by simp [Worker.fresh], by simp [Worker.fresh],
                by simp [Worker.fresh]⟩
          | some error => exact guarded.halts (.inl dirty) (fun failed => absurd failed sound) error
      | error reason =>
          have same := wp_stopped spec ran
          have safe : Dirty cow.file ∨ applied cow.file := by
            rw [same]
            exact guarded.safe
          have failing : worker.phase = .failed → Dirty cow.file := by
            rw [same]
            exact guarded.failing
          have idle : worker.phase ≠ .active ∧ worker.phase ≠ .unopened := by
            rcases closed with dormant | failed
            · simp [dormant]
            · simp [failed]
          cases reason with
          | errno error => exact guarded.halts safe (fun _ => same) error
          | oops =>
              exact .of_crashed safe (fun active => absurd active idle.1)
                (fun unopened => absurd unopened idle.2) failing rfl
          | crash =>
              exact .of_crashed safe (fun active => absurd active idle.1)
                (fun unopened => absurd unopened idle.2) failing rfl

/-- The queue of a dormant device is to be flushed. -/
theorem Guarded.flushes {early' : Prop} (filing : Filing good shelf applied)
    (guarded : Guarded good shelf applied early dropped worker) (running : worker.crashed = false)
    (idle : worker.phase = .dormant ∨ worker.phase = .unopened) (starts : early')
    (noThread : Option Errno) :
    Guarded good shelf applied early' dropped (worker.flush noThread) := by
  cases noThread with
  | some error =>
      refine .of_crashed guarded.safe ?_ guarded.unopened guarded.failing rfl
      rcases idle with dormant | unopened
      · simp [Worker.flush, dormant]
      · simp [Worker.flush, unopened]
  | none =>
      refine ⟨guarded.safe, by simp [Worker.flush], by simp [Worker.flush], by simp [Worker.flush],
        by simp [Worker.flush], fun _ _ _ => ?_, by simp [Worker.flush], by simp [Worker.flush]⟩
      rcases idle with dormant | unopened
      · exact .inl (filing.shut (guarded.resting running dormant))
      · exact .inr ⟨starts, guarded.unopened unopened⟩

/-- The manager is freed, in any phase: a file is removed or stays as it is. -/
theorem Guarded.removes {early' : Prop} (guarded : Guarded good shelf applied early dropped worker)
    (outcomes : List Outcome) :
    Guarded good shelf applied early' dropped (worker.close .destroyed outcomes) := by
  have removed : ∀ {cow : CowState}, cow.file = worker.cow.file ∨ cow.file = none →
      (Dirty cow.file ∨ applied cow.file) ∧ (worker.phase = .active → Dirty cow.file) ∧
        (worker.phase = .failed → Dirty cow.file) := by
    intro cow kept
    rcases kept with same | gone
    · rw [same]
      exact ⟨guarded.safe, guarded.dirty, guarded.failing⟩
    · rw [gone]
      exact ⟨.inl fun _ => nofun, fun _ _ => nofun, fun _ _ => nofun⟩
  have spec := @cowFreeMembers_spec { worker.cow with outcomes }
  unfold Worker.close Ending.program
  dsimp only
  cases ran : cowFreeMembers { worker.cow with outcomes } with
  | mk result cow =>
      cases result with
      | ok value =>
          exact .of_ended (removed ((wp_done spec ran).2.imp_right And.left)).1 (.inl rfl)
      | error reason =>
          obtain ⟨same, _⟩ := wp_stopped spec ran
          have kept := removed (.inl same)
          cases reason with
          | errno error => exact .of_ended kept.1 (.inl rfl)
          | oops => exact .of_crashed kept.1 kept.2.1 guarded.unopened kept.2.2 rfl
          | crash => exact .of_crashed kept.1 kept.2.1 guarded.unopened kept.2.2 rfl

/-- A steady program leaves a file that is not open as it is. -/
theorem Worker.run_shut {α : Type} {program : CowM α} (shut : worker.cow.cm.dfilp ≠ .opened)
    (steady : Steady program) (outcomes : List Outcome) :
    (worker.run program outcomes).1.cow.file = worker.cow.file ∧
      (worker.run program outcomes).1.cow.cm.dfilp ≠ .opened := by
  have ran := Worker.run_spec (steady { worker.cow with outcomes })
  generalize worker.run program outcomes = result at ran
  have kept : ∀ {cow : CowState}, Alike { worker.cow with outcomes } cow →
      cow.file = worker.cow.file ∧ cow.cm.dfilp ≠ .opened := by
    intro cow alike
    refine ⟨alike.shut shut, ?_⟩
    rw [alike.dfilp]
    exact shut
  cases ran with
  | returned alike => exact kept alike
  | failed alike => exact kept alike
  | crashed alike => exact kept alike

theorem Guarded.flushed (guarded : Guarded good shelf applied early dropped worker)
    (running : worker.crashed = false) (flushing : worker.phase = .flushing)
    (unfailed : worker.isFailed = false) (late : ¬ early) : worker.cow.cm.dfilp ≠ .opened :=
  (guarded.flushing running flushing unfailed).resolve_right fun bad => late bad.1

theorem Guarded.flushReads {α : Type} {program : CowM α}
    (guarded : Guarded good shelf applied early dropped worker) (running : worker.crashed = false)
    (flushing : worker.phase = .flushing) (unfailed : worker.isFailed = false) (late : ¬ early)
    (steady : Steady program) (outcomes : List Outcome) :
    Guarded good shelf applied early dropped (worker.run program outcomes).1 := by
  have shut := guarded.flushed running flushing unfailed late
  obtain ⟨same, shut'⟩ := worker.run_shut shut steady outcomes
  have phase := (worker.run_phase program outcomes).trans flushing
  have safe : Dirty (worker.run program outcomes).1.cow.file ∨
      applied (worker.run program outcomes).1.cow.file := by
    rw [same]
    exact guarded.safe
  exact ⟨safe, by simp [phase], by simp [phase], by simp [phase], by simp [phase],
    fun _ _ _ => .inl shut', by simp [phase], by simp [phase]⟩

/-- A thread that flushes may lose what it takes off the queue where the file is dirty. -/
theorem Guarded.loses {good' shelf' : CowState → Prop} {applied' : Option CowFile → Prop}
    (guarded : Guarded good shelf applied early dropped worker)
    (flushing : worker.phase = .flushing) (dirty : Dirty worker.cow.file) {dropped' : Prop} :
    Guarded good' shelf' applied' early dropped' worker where
  safe := .inl dirty
  dirty := guarded.dirty
  freed := by simp [flushing]
  sound := by simp [flushing]
  resting := by simp [flushing]
  flushing := guarded.flushing
  unopened := guarded.unopened
  failing := guarded.failing

/-- The check of a thread that flushes: members that are freed take an open file with them. -/
theorem Guarded.flushNotices {early' : Prop}
    (guarded : Guarded good shelf applied early dropped worker)
    (running : worker.crashed = false) (flushing : worker.phase = .flushing)
    (outcomes : List Outcome) :
    Guarded good shelf applied early' dropped (worker.noticeFailure outcomes) := by
  unfold Worker.noticeFailure
  split
  · rename_i calm
    refine { guarded with sound := by simp [flushing], flushing := fun _ _ unfailed => .inl ?_ }
    refine (guarded.flushing running flushing unfailed).resolve_right fun bad => ?_
    rw [unfailed, Bool.false_or, Option.isNone_iff_eq_none] at calm
    exact bad.2 calm
  · have spec := @cowFreeMembers_spec { worker.cow with outcomes }
    split
    · rename_i cow ran
      have safe : Dirty cow.file ∨ applied cow.file := by
        rcases (wp_done spec ran).2 with same | gone
        · rw [same]
          exact guarded.safe
        · rw [gone.1]
          exact .inl fun _ => nofun
      exact ⟨safe, by simp [flushing], by simp [flushing], by simp, by simp [flushing], by simp,
        by simp [flushing], by simp [flushing]⟩
    · rename_i reason cow ran
      have safe : Dirty cow.file ∨ applied cow.file := by
        rw [(wp_stopped spec ran).1]
        exact guarded.safe
      exact .of_crashed safe (by simp [flushing]) (by simp [flushing]) (by simp [flushing]) rfl

/-- The places of a thread: one that does not run has returned, and one that flushes has
nothing in hand that its file needs. -/
structure Placed (phase : Phase) (exited idle : Prop) : Prop where
  ended : phase ≠ .active → phase ≠ .flushing → exited
  flushes : phase = .flushing → idle

theorem Placed.of_active {phase : Phase} {exited idle : Prop} (active : phase = .active) :
    Placed phase exited idle :=
  ⟨fun ended => absurd active ended, by simp [active]⟩

theorem Placed.empty {phase : Phase} {exited idle : Prop} (placed : Placed phase exited idle)
    (done : exited → idle) (ended : phase ≠ .active) : idle := by
  by_cases flushing : phase = .flushing
  · exact placed.flushes flushing
  · exact done (placed.ended ended flushing)

/-- A thread that runs moves on. -/
theorem Placed.move {exited idle exited' idle' : Prop} (placed : Placed worker.phase exited idle)
    (runs : worker.Runs) (kept : idle → idle') : Placed worker.phase exited' idle' :=
  ⟨fun ended unflushed => absurd runs (not_or.mpr ⟨ended, unflushed⟩),
    fun flushing => kept (placed.flushes flushing)⟩

end Moocbt.Device
