import Moocbt.Device.Guard
import Moocbt.Device.Marking

/-! A device in incremental mode, whatever fails: its file is clean only if every
sector set that was taken off the queue is in the index. -/

namespace Moocbt.Device

open Cow Program

variable {elements : Nat} {blocks : List Nat} {cow : CowState} {done : List SectorSet}
  {device next : IncDevice}

/-- The blocks have entries in the index. -/
def Marked (elements : Nat) (blocks : List Nat) (cow : CowState) : Prop :=
  Live elements cow ∧ ∀ block ∈ blocks, Covered elements block ∧ cow.lookup block ≠ 0

def MarkedAtRest (elements : Nat) (blocks : List Nat) (cow : CowState) : Prop :=
  ∃ map, Rests elements map cow ∧ ∀ block ∈ blocks, Covered elements block ∧ map block ≠ 0

def MarkedOnFile (blocks : List Nat) (file : Option CowFile) : Prop :=
  ∀ block ∈ blocks, fileWord file (headerWords + block) ≠ 0

/-- Positions that agree with the index keep their entries. -/
theorem Marked.of_agrees {after : CowState} {map : Nat → Nat} (live : Live elements after)
    (agrees : Agrees map after)
    (entries : ∀ block ∈ blocks, Covered elements block ∧ map block ≠ 0) :
    Marked elements blocks after := by
  refine ⟨live, fun block member => ?_⟩
  obtain ⟨covered, mapped⟩ := entries block member
  refine ⟨covered, ?_⟩
  rw [agrees block ((inRange_iff_covered live).mpr covered)]
  exact mapped

theorem marked_filing (elements : Nat) (blocks : List Nat) :
    Filing (Marked elements blocks) (MarkedAtRest elements blocks) (MarkedOnFile blocks) where
  shut := by
    intro cow resting
    obtain ⟨map, rests, _⟩ := resting
    rw [rests.shut]
    exact nofun
  outcomes := fun outcomes marked => ⟨marked.1.of_outcomes outcomes, marked.2⟩
  rests := by
    intro cow outcomes resting
    obtain ⟨map, rests, entries⟩ := resting
    exact ⟨map, Rests.of_outcomes rests outcomes, entries⟩
  closes := by
    intro cow marked
    have spec := wp_and (syncAndClose_rests marked.1 fun _ _ => rfl) (closeFile_quiet marked.1)
    refine wp_mono spec ?_ (fun _ _ both => both.2)
    intro _ after both
    exact ⟨cow.lookup, both.1, marked.2⟩
  reopens := by
    intro cow resting
    obtain ⟨map, rests, entries⟩ := resting
    refine wp_mono (wp_and (reopen_simulates rests) reopen_dirties) ?_ (fun _ _ both => both.2)
    intro _ after both
    obtain ⟨⟨live, agrees⟩, dirty⟩ := both
    exact ⟨.of_agrees live agrees entries, dirty⟩
  reconfigures := by
    intro cow cacheSize marked
    obtain ⟨tended, agrees⟩ := modifyCacheSize_spec cacheSize marked.1 fun _ _ => rfl
    exact ⟨.of_agrees tended.live agrees marked.2, tended.quiet⟩
  applies := by
    intro cow resting block member
    obtain ⟨map, rests, entries⟩ := resting
    obtain ⟨covered, mapped⟩ := entries block member
    have inside : cow.cm.InRange block := by
      unfold CowManager.InRange
      rw [rests.sectSize, rests.totalSects]
      exact covered
    rw [rests.index block inside]
    exact mapped

/-- The places where the thread may not have noticed a failure yet. -/
def IncPc.Early : IncPc → Prop
  | .testEmpty | .dequeue | .handle _ _ => False
  | _ => True

/-- The blocks the index must have once the sector sets were handled. -/
def IncDevice.required (device : IncDevice) (done : List SectorSet) : List Nat :=
  device.inherited ++ done.flatMap SectorSet.blocks

/-- A device guarded for the blocks. -/
abbrev MarkGuard (elements : Nat) (blocks : List Nat) (early dropped : Prop)
    (worker : Worker) : Prop :=
  Guarded (Marked elements blocks) (MarkedAtRest elements blocks) (MarkedOnFile blocks) early
    dropped worker

/-- What holds of a device in every run: `done` are the sector sets the thread has
finished with. -/
structure IncGuard (elements : Nat) (done : List SectorSet) (device : IncDevice) : Prop where
  guarded : MarkGuard elements (device.required done) device.pc.Early (device.dropped ≠ [])
    device.worker
  order : device.taken = done ++ device.pc.inHand
  placed : Placed device.worker.phase (device.pc = .exited)
    (device.pc.inHand = [] ∨ Dirty device.worker.cow.file)
  truncating : device.truncating = true →
    device.worker.phase = .active ∧ device.worker.ending = none

theorem IncGuard.move (inv : IncGuard elements done device) {pc : IncPc}
    (hand : pc.inHand = device.pc.inHand) (runs : device.worker.Runs)
    (early : device.pc.Early → pc.Early) : IncGuard elements done { device with pc } where
  guarded := inv.guarded.weaken early id
  order := by
    rw [inv.order, ← hand]
  placed := inv.placed.move runs fun idle => idle.imp_left hand.trans
  truncating := inv.truncating

theorem required_snoc (device : IncDevice) (done : List SectorSet) (sset : SectorSet) :
    device.required (done ++ [sset]) = device.required done ++ sset.blocks := by
  simp [IncDevice.required, List.flatMap_append]

/-- The sector set in hand is finished with: its element is freed. -/
theorem IncGuard.frees {addr : Nat} {sset : SectorSet} (here : device.pc = .handle addr sset)
    (order : device.taken = done ++ [sset]) (active : device.worker.phase = .active)
    (freed : IncGuard elements (done ++ [sset]) { device with pc := .testStop }) :
    ∃ done', IncGuard elements done' (device.freeSset addr) := by
  unfold IncDevice.freeSset
  split
  · exact ⟨done ++ [sset], freed.guarded, freed.order, freed.placed, freed.truncating⟩
  · refine ⟨done, freed.guarded.crashes active (.of_same rfl), ?_, .of_active active,
      freed.truncating⟩
    rw [order, here]
    rfl

theorem handle_guard (inv : IncGuard elements done device) (running : device.worker.crashed = false)
    (active : device.worker.phase = .active) {outcomes : List Outcome} {addr : Nat}
    {sset : SectorSet} (here : device.pc = .handle addr sset)
    (taken : device.threadStep outcomes = some next) :
    ∃ done', IncGuard elements done' next := by
  have order := inv.order
  rw [here] at order
  have required := required_snoc device done sset
  simp only [IncDevice.threadStep, here] at taken
  cases failed : device.worker.isFailed with
  | true =>
      rw [failed] at taken
      cases taken
      refine IncGuard.frees here order active ?_
      exact {
        guarded := {
          safe := .inl (inv.guarded.dirty active)
          dirty := inv.guarded.dirty
          freed := inv.guarded.freed
          sound := by simp [failed]
          resting := by simp [active]
          flushing := by simp [active]
          unopened := by simp [active]
          failing := by simp [active] }
        order := by
          rw [order]
          exact (List.append_nil _).symm
        placed := .of_active active
        truncating := inv.truncating }
  | false =>
      rw [failed] at taken
      cases taken
      have marked := inv.guarded.checked (by rw [here]; exact id) running active failed
      have spec : wp (incHandleSset sset) _ _ _ :=
        incHandleSset_spec (marked.1.of_outcomes outcomes) fun _ _ => rfl
      have ran := Worker.run_spec spec
      generalize device.worker.run (incHandleSset sset) outcomes = result at ran
      cases ran with
      | returned handled =>
          obtain ⟨covered, tended, agrees⟩ := handled
          refine IncGuard.frees rfl order active ?_
          have entries : ∀ block ∈ device.required (done ++ [sset]), Covered elements block ∧
              mark device.worker.cow.lookup sset.blocks block ≠ 0 := by
            intro block member
            rw [required] at member
            rcases List.mem_append.mp member with old | new
            · obtain ⟨inside, mapped⟩ := marked.2 block old
              exact ⟨inside, mark_ne_zero.mpr (.inr mapped)⟩
            · exact ⟨covered block new, mark_ne_zero.mpr (.inl new)⟩
          have marked' := Marked.of_agrees tended.live agrees entries
          have guarded : MarkGuard elements (device.required (done ++ [sset])) _ _ _ :=
            inv.guarded.works active failed tended.quiet.of_outcomes marked'
          exact {
            guarded := (guarded.returns none).weaken (fun _ => trivial) id
            order := by
              rw [order]
              exact (List.append_nil _).symm
            placed := .of_active active
            truncating := inv.truncating }
      | @failed error cow stopped =>
          refine IncGuard.frees rfl order active ?_
          have guarded : MarkGuard elements (device.required (done ++ [sset])) True True
              (Worker.setFailState { device.worker with cow, ret := some error } error) :=
            inv.guarded.drops active failed stopped.quiet.of_outcomes error
          exact {
            guarded := guarded.weaken (fun _ => trivial) (by simp)
            order := by
              rw [order]
              exact (List.append_nil _).symm
            placed := .of_active active
            truncating := inv.truncating }
      | crashed stopped =>
          refine IncGuard.frees rfl order active ?_
          exact {
            guarded := inv.guarded.crashes active stopped.quiet.of_outcomes
            order := by
              rw [order]
              exact (List.append_nil _).symm
            placed := .of_active active
            truncating := inv.truncating }

theorem truncate_spares (outcomes : List Outcome) :
    wp cowTruncateToIndex (fun _ after => Spares (Marked elements blocks) cow after)
      (fun reason after => Quiet cow after ∧
        ∀ error, reason = .errno error → Spares (Marked elements blocks) cow after)
      { cow with outcomes } := by
  by_cases live : Live elements cow
  · have agrees : Agrees cow.lookup { cow with outcomes } := fun _ _ => rfl
    have array : ∀ after : CowState, cow.cm.sects = none → after.cm.sects = none := by
      intro after gone
      have array := live.array
      rw [gone] at array
      contradiction
    refine wp_mono (truncateToIndex_spec (live.of_outcomes outcomes) agrees) ?_ ?_
    · intro _ after truncated
      obtain ⟨tended, agrees'⟩ := truncated
      exact ⟨tended.quiet.of_outcomes, tended.live.opened.trans live.opened.symm, array after,
        fun marked => .of_agrees tended.live agrees' marked.2⟩
    · intro reason after stop
      obtain ⟨quiet, _, _, kept⟩ := stop
      refine ⟨quiet.of_outcomes, fun error same => ?_⟩
      obtain ⟨live', agrees'⟩ := kept error same
      exact ⟨quiet.of_outcomes, live'.opened.trans live.opened.symm, array after, fun marked =>
        .of_agrees live' agrees' marked.2⟩
  · have spec := @cowTruncateToIndex_spec { cow with outcomes }
    refine wp_mono spec ?_ ?_
    · intro _ after truncated
      obtain ⟨opened, rest, _, same⟩ := truncated
      subst same
      refine ⟨⟨fun shut => absurd opened shut, ?_⟩, rfl, id, fun marked => absurd marked.1 live⟩
      intro dirty found same
      obtain ⟨file, stored, rfl⟩ := Option.map_eq_some_iff.mp same
      exact dirty file stored
    · intro reason after stop
      obtain ⟨_, _, rest, _, same⟩ := stop
      subst same
      exact ⟨.of_same rfl, fun _ _ => ⟨.of_same rfl, rfl, id, fun marked => absurd marked.1 live⟩⟩

theorem truncate_guard (inv : IncGuard elements done device)
    (truncating : device.truncating = true) (outcomes : List Outcome) :
    IncGuard elements done (device.truncate outcomes) := by
  obtain ⟨active, _⟩ := inv.truncating truncating
  have spec := @truncate_spares elements (device.required done) device.worker.cow outcomes
  have spared : ∀ {cow : CowState},
      Spares (Marked elements (device.required done)) device.worker.cow cow →
      IncGuard elements done
        { device with worker := { device.worker with cow }, truncating := false } := by
    intro cow spares
    exact ⟨inv.guarded.spared active spares, inv.order, .of_active active, by simp⟩
  have crashed : ∀ {cow : CowState}, Quiet device.worker.cow cow →
      IncGuard elements done { device with worker := { device.worker with cow, crashed := true } } := by
    intro cow quiet
    exact ⟨inv.guarded.crashes active quiet, inv.order, .of_active active, inv.truncating⟩
  unfold IncDevice.truncate
  cases ran : cowTruncateToIndex { device.worker.cow with outcomes } with
  | mk result cow =>
      cases result with
      | ok value =>
          have spares := wp_done spec ran
          exact spared spares
      | error reason =>
          have stop := wp_stopped spec ran
          cases reason with
          | errno error => exact spared (stop.2 error rfl)
          | oops => exact crashed stop.1
          | crash => exact crashed stop.1

theorem incReopen_guard (inv : IncGuard elements done device)
    (running : device.worker.crashed = false)
    (closed : device.worker.phase = .dormant ∨ device.worker.phase = .failed)
    (outcomes : List Outcome) (noThread : Option Errno) :
    IncGuard elements done (device.reopen outcomes noThread) := by
  have ended : device.worker.phase ≠ .active ∧ device.worker.phase ≠ .flushing := by
    rcases closed with dormant | failed
    · simp [dormant]
    · simp [failed]
  have exited := inv.placed.ended ended.1 ended.2
  have order := inv.order
  rw [exited] at order
  have idle : device.truncating ≠ true := by
    intro truncating
    exact ended.1 (inv.truncating truncating).1
  have guarded : ∀ early, MarkGuard elements (device.required done) early (device.dropped ≠ [])
      (device.worker.reopen outcomes noThread) := fun _ =>
    inv.guarded.reopens (marked_filing _ _) running closed outcomes noThread
  refine ⟨guarded _, ?_, ?_, fun truncating => absurd truncating idle⟩
  · unfold IncDevice.reopen
    dsimp only
    split
    · exact order
    · rw [exited]
      exact order
  · unfold IncDevice.reopen
    dsimp only
    split
    · rename_i active
      exact .of_active active
    · exact ⟨fun _ _ => exited, fun _ => .inl (by rw [exited]; rfl)⟩

theorem incFlush_guard (inv : IncGuard elements done device)
    (running : device.worker.crashed = false) (idle : device.worker.Idle)
    (closed : device.worker.phase ≠ .failed) (noThread : Option Errno) :
    IncGuard elements done (device.flush noThread) := by
  have phase := idle.flushable closed
  have exited : device.pc = .exited := by
    rcases phase with dormant | unopened
    · exact inv.placed.ended (by simp [dormant]) (by simp [dormant])
    · exact inv.placed.ended (by simp [unopened]) (by simp [unopened])
  have order := inv.order
  rw [exited] at order
  have truncated : device.truncating ≠ true := by
    intro truncating
    have none := (inv.truncating truncating).2
    rw [idle.1] at none
    contradiction
  have guarded : MarkGuard elements (device.required done) True (device.dropped ≠ [])
      (device.worker.flush noThread) :=
    inv.guarded.flushes (marked_filing _ _) running phase trivial noThread
  unfold IncDevice.flush
  dsimp only
  split
  · exact ⟨guarded, order, ⟨fun _ unflushed => absurd (by assumption) unflushed, fun _ => .inl rfl⟩,
      fun truncating => absurd truncating truncated⟩
  · rename_i unflushed
    refine ⟨guarded.weaken (fun _ => by rw [exited]; trivial) id, ?_, ?_,
      fun truncating => absurd truncating truncated⟩
    · rw [exited]
      exact order
    · exact ⟨fun _ _ => exited, fun flushing => absurd flushing unflushed⟩

/-- A sector set that is lost on a dirty file. -/
theorem flushHandle_guard (inv : IncGuard elements done device)
    (running : device.worker.crashed = false) (flushing : device.worker.phase = .flushing)
    {outcomes : List Outcome} {addr : Nat} {sset : SectorSet} (here : device.pc = .handle addr sset)
    (taken : device.threadStep outcomes = some next) : ∃ done', IncGuard elements done' next := by
  have order := inv.order
  have dirty : Dirty device.worker.cow.file := by
    refine (inv.placed.flushes flushing).resolve_left ?_
    rw [here]
    exact List.cons_ne_nil _ _
  have idle : device.truncating ≠ true := by
    intro truncating
    have active := (inv.truncating truncating).1
    rw [flushing] at active
    contradiction
  rw [here] at order
  -- The element is freed, and what follows is the same for a failed and a sound thread.
  have frees : ∀ after : IncDevice, after.pc = .handle addr sset →
      after.taken = device.taken → after.truncating = device.truncating →
      after.worker.phase = .flushing → Dirty after.worker.cow.file →
      MarkGuard elements (after.required (done ++ [sset])) False (after.dropped ≠ []) after.worker →
      ∃ done', IncGuard elements done' (after.freeSset addr) := by
    intro after at' taken truncating phase dirty guarded
    unfold IncDevice.freeSset
    split
    · refine ⟨done ++ [sset], guarded.weaken False.elim id, ?_,
        ⟨fun _ unflushed => absurd phase unflushed, fun _ => .inl rfl⟩, fun on => ?_⟩
      · rw [taken, order]
        exact (List.append_nil _).symm
      · exact absurd (truncating.symm.trans on) idle
    · refine ⟨done, (guarded.loses phase dirty).crash.weaken False.elim id, ?_,
        ⟨fun _ unflushed => absurd phase unflushed, fun _ => .inr dirty⟩, fun on => ?_⟩
      · rw [taken, order, at']
      · exact absurd (truncating.symm.trans on) idle
  have late : ¬ device.pc.Early := by
    rw [here]
    exact id
  have guarded := inv.guarded.weaken (fun early => late early) id
  simp only [IncDevice.threadStep, here] at taken
  cases failed : device.worker.isFailed with
  | true =>
      rw [failed] at taken
      cases taken
      exact frees device here rfl rfl flushing dirty (guarded.loses flushing dirty)
  | false =>
      rw [failed] at taken
      cases taken
      have shut := inv.guarded.flushed running flushing failed late
      have steady : Steady (incHandleSset sset) := incMarkBlocks_steady _ _
      have phase := (device.worker.run_phase (incHandleSset sset) outcomes).trans flushing
      have dirty' : Dirty (device.worker.run (incHandleSset sset) outcomes).1.cow.file := by
        rw [(device.worker.run_shut shut steady outcomes).1]
        exact dirty
      have read := guarded.flushReads running flushing failed id steady outcomes
      exact frees _ rfl rfl rfl phase dirty' (read.loses phase dirty')

theorem incThread_guard (inv : IncGuard elements done device)
    (running : device.worker.crashed = false) (runs : device.worker.Runs)
    {outcomes : List Outcome}
    (spared : device.worker.phase = .flushing → device.pc = .dequeue →
      device.ssetsEmpty = true ∨ Dirty device.worker.cow.file)
    (taken : device.threadStep outcomes = some next) : ∃ done', IncGuard elements done' next := by
  cases here : device.pc with
  | testStop =>
      simp only [IncDevice.threadStep, here] at taken
      cases taken
      split
      · exact ⟨done, inv.move (by rw [here]; rfl) runs fun _ => trivial⟩
      · exact ⟨done, inv.move (by rw [here]; rfl) runs fun _ => trivial⟩
  | testQueue =>
      simp only [IncDevice.threadStep, here] at taken
      cases taken
      split
      · exact ⟨done, inv.move (by rw [here]; rfl) runs fun _ => trivial⟩
      · exact ⟨done, inv.move (by rw [here]; rfl) runs fun _ => trivial⟩
  | waitEvent =>
      simp only [IncDevice.threadStep, here] at taken
      split at taken
      · cases taken
        exact ⟨done, inv.move (by rw [here]; rfl) runs fun _ => trivial⟩
      · contradiction
  | readFail =>
      simp only [IncDevice.threadStep, here] at taken
      cases taken
      have phase := Worker.noticeFailure_phase device.worker outcomes
      have guarded : MarkGuard elements (device.required done) False (device.dropped ≠ [])
          (device.worker.noticeFailure outcomes) := by
        rcases runs with active | flushing
        · exact inv.guarded.notices active outcomes
        · exact inv.guarded.flushNotices running flushing outcomes
      refine ⟨done, guarded, ?_, ?_, ?_⟩
      · have order := inv.order
        rw [here] at order
        exact order
      · dsimp only
        rw [phase.1]
        exact inv.placed.move runs fun _ => .inl rfl
      · intro truncating
        obtain ⟨active, idle⟩ := inv.truncating truncating
        exact ⟨phase.1.trans active, phase.2.trans idle⟩
  | testEmpty =>
      simp only [IncDevice.threadStep, here] at taken
      cases taken
      split
      · exact ⟨done, inv.move (by rw [here]; rfl) runs fun _ => trivial⟩
      · exact ⟨done, inv.move (by rw [here]; rfl) runs (by rw [here]; exact id)⟩
  | dequeue =>
      have guarded := inv.guarded
      have order := inv.order
      have placed := inv.placed
      rw [here] at guarded order placed
      simp only [IncDevice.threadStep, here] at taken
      split at taken
      · cases taken
        exact ⟨done, guarded.crash, order, placed, inv.truncating⟩
      · rename_i addr sset ssets popped
        cases taken
        rcases runs with active | flushing
        · refine ⟨done, guarded, ?_, .of_active active, inv.truncating⟩
          rw [order]
          simp [IncPc.inHand]
        · have dirty : Dirty device.worker.cow.file := by
            refine (spared flushing here).resolve_left fun empty => ?_
            have values := LinkedQueue.values_of_pop popped
            rw [(ssetsEmpty_iff device).mp empty] at values
            contradiction
          refine ⟨done, guarded, ?_, ⟨fun _ unflushed => absurd flushing unflushed, fun _ =>
            .inr dirty⟩, inv.truncating⟩
          rw [order]
          simp [IncPc.inHand]
  | handle addr sset =>
      rcases runs with active | flushing
      · exact handle_guard inv running active here taken
      · exact flushHandle_guard inv running flushing here taken
  | exited =>
      simp only [IncDevice.threadStep, here] at taken
      contradiction

/-- A thread that flushes the queue of a dormant device takes no sector set off it, unless
its file is dirty, or gone. -/
def IncEvent.Spared (device : IncDevice) : IncEvent → Prop
  | .thread _ => device.worker.phase = .flushing → device.pc = .dequeue →
      device.ssetsEmpty = true ∨ Dirty device.worker.cow.file
  | _ => True

/-- A step of a device in incremental mode: the file is only closed as clean after no
sector set was dropped, or once the failure was noticed. -/
def IncEvent.Noticed (device : IncDevice) : IncEvent → Prop
  | .close _ => device.worker.ending = some .destroyed ∨ device.worker.isFailed = true ∨
      device.dropped = []
  | event => event.Spared device

theorem incStep_guard {event : IncEvent} (inv : IncGuard elements done device)
    (noticed : event.Noticed device) (taken : device.step event = some next) :
    ∃ done', IncGuard elements done' next := by
  unfold IncDevice.step at taken
  split at taken
  · contradiction
  · rename_i running
    have running : device.worker.crashed = false := by simpa using running
    cases event with
    | makeSset sect len addr =>
        simp only at taken
        split at taken
        · cases addr with
          | none =>
              cases taken
              exact ⟨done, inv.guarded.fails _, inv.order, inv.placed, inv.truncating⟩
          | some addr =>
              simp only [IncDevice.makeSset] at taken
              split at taken
              · cases taken
                exact ⟨done, inv.guarded, inv.order, inv.placed, inv.truncating⟩
              · contradiction
        · contradiction
    | thread outcomes =>
        simp only at taken
        split at taken
        · rename_i runs
          exact incThread_guard inv running runs noticed taken
        · contradiction
    | reconfigure cacheSize =>
        simp only at taken
        split at taken
        · rename_i settled
          cases taken
          exact ⟨done, inv.guarded.reconfigures (marked_filing _ _) running settled cacheSize,
            inv.order, inv.placed, inv.truncating⟩
        · contradiction
    | truncate outcomes =>
        simp only at taken
        split at taken
        · rename_i truncating
          cases taken
          exact ⟨done, truncate_guard inv truncating outcomes⟩
        · contradiction
    | swap =>
        simp only at taken
        split at taken
        · rename_i allowed
          cases taken
          exact ⟨done, inv.guarded.ends running allowed.1 _ _, inv.order, inv.placed,
            by simp [allowed.2]⟩
        · contradiction
    | stopOld =>
        simp only at taken
        split at taken
        · cases taken
          exact ⟨done, inv.guarded.stops _, inv.order, inv.placed, inv.truncating⟩
        · contradiction
    | umount =>
        simp only at taken
        split at taken
        · rename_i allowed
          cases taken
          exact ⟨done, inv.guarded.ends running allowed.1 _ _, inv.order, inv.placed,
            by simp [allowed.2]⟩
        · contradiction
    | flush noThread =>
        simp only at taken
        split at taken
        · rename_i allowed
          cases taken
          exact ⟨done, incFlush_guard inv running allowed.1 allowed.2 noThread⟩
        · contradiction
    | destroy =>
        simp only at taken
        split at taken
        · rename_i allowed
          cases taken
          exact ⟨done, inv.guarded.destroys _, inv.order, inv.placed, by simp [allowed.2]⟩
        · contradiction
    | close outcomes =>
        simp only at taken
        split at taken
        · rename_i allowed
          obtain ⟨ending, chosen, same⟩ := Option.map_eq_some_iff.mp taken
          subst same
          have idle : device.truncating = false := by
            cases truncating : device.truncating with
            | false => rfl
            | true =>
                have none := (inv.truncating truncating).2
                rw [none] at chosen
                contradiction
          have guarded : ∀ early, MarkGuard elements (device.required done) early
              (device.dropped ≠ []) (device.worker.close ending outcomes) := by
            intro early
            by_cases gone : ending = .destroyed
            · rw [gone]
              exact inv.guarded.removes outcomes
            · have active : device.worker.phase = .active := by
                refine allowed.1.resolve_right fun destroyed => gone ?_
                rw [chosen] at destroyed
                exact Option.some.inj destroyed.1
              refine inv.guarded.closes (marked_filing _ _) running active chosen ?_ outcomes
              intro kept
              rcases noticed with destroyed | failed | none
              · rw [destroyed] at chosen
                exact absurd (Option.some.inj chosen).symm kept
              · exact .inl failed
              · exact .inr (not_not.mpr none)
          exact ⟨done, guarded _, inv.order,
            ⟨fun _ _ => allowed.2, fun _ => .inl (by rw [allowed.2]; rfl)⟩, by simp [idle]⟩
        · contradiction
    | reopen outcomes noThread =>
        simp only at taken
        split at taken
        · rename_i allowed
          cases taken
          exact ⟨done, incReopen_guard inv running (allowed.1.closed allowed.2) outcomes noThread⟩
        · contradiction

end Moocbt.Device
