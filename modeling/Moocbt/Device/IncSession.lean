import Moocbt.Device.Marking

/-! One incremental session: from a thread that was just started to the flush of
its index by the transition to the next snapshot. -/

namespace Moocbt.Device

open Cow Program

variable {elements : Nat} {map : Nat → Nat} {device next : IncDevice}

/-- The state `__tracer_setup_cow_thread` starts from: an open manager, a new
thread and an empty queue. -/
def IncDevice.start (cow : CowState) (sectOff : Nat) (truncating : Bool) : IncDevice where
  worker := .fresh cow none
  pc := .testStop
  ssets := .empty
  sectOff
  tracing := true
  truncating
  inherited := []
  queued := []
  taken := []
  handled := []
  dropped := []

/-- Nothing fails, and the session is not interrupted by an umount. -/
def IncEvent.Calm : IncEvent → Prop
  | .makeSset _ _ addr => addr ≠ none
  | .thread outcomes => outcomes = []
  | .truncate outcomes => outcomes = []
  | .close outcomes => outcomes = []
  | .umount => False
  | .destroy => False
  | .reopen _ _ => False
  | _ => True

/-- The blocks a writer makes the thread mark have a place in the index. -/
def IncEvent.Indexed (elements : Nat) (device : IncDevice) : IncEvent → Prop
  | .makeSset sect len _ =>
      ∀ block ∈ SectorSet.blocks ⟨sect - device.sectOff, len⟩, Covered elements block
  | _ => True

instance (event : IncEvent) : Decidable event.Calm := by
  cases event <;> unfold IncEvent.Calm <;> infer_instance

instance (elements : Nat) (device : IncDevice) (event : IncEvent) :
    Decidable (event.Indexed elements device) := by
  cases event <;> unfold IncEvent.Indexed <;> infer_instance

/-- The map after the sector sets were handled. -/
def markAll (map : Nat → Nat) (ssets : List SectorSet) : Nat → Nat :=
  mark map (ssets.flatMap SectorSet.blocks)

theorem markAll_snoc (map : Nat → Nat) (ssets : List SectorSet) (sset : SectorSet) :
    markAll map (ssets ++ [sset]) = mark (markAll map ssets) sset.blocks := by
  funext block
  unfold markAll mark
  by_cases last : block ∈ sset.blocks
  · simp [List.flatMap_append, last]
  · simp [List.flatMap_append, last]

/-- What holds throughout a session in which nothing fails. -/
structure IncSessionInv (elements : Nat) (map : Nat → Nat) (device : IncDevice) : Prop where
  running : device.worker.crashed = false
  sound : device.worker.failCode = none
  unfailed : device.worker.isFailed = false
  positive : ∀ sset ∈ device.queued, 0 < sset.len
  covered : ∀ sset ∈ device.queued, ∀ block ∈ sset.blocks, Covered elements block
  order : device.queued = device.handled ++ device.pc.inHand ++ device.ssets.values
  held : ∀ addr sset, device.pc = .handle addr sset →
    addr ∉ device.ssets.entries.map Prod.fst ∧ ¬ device.ssets.Fresh addr
  stopping : device.worker.shouldStop = true → device.worker.ending = some .replaced
  swapped : device.worker.ending = some .replaced → device.tracing = false ∧ device.truncating = false
  leaving : ∀ ending, device.worker.ending = some ending → ending = .replaced
  testing : device.pc = .testQueue → device.worker.shouldStop = true
  waiting : device.pc = .dequeue → device.ssets.values ≠ []
  drained : device.pc = .exited → device.worker.shouldStop = true ∧ device.ssets.values = []
  active : device.worker.phase = .active → Live elements device.worker.cow ∧
    Agrees (markAll map device.handled) device.worker.cow ∧ Ready device.worker.cow
  ended : device.worker.phase ≠ .active → device.worker.phase = .freed ∧ device.pc = .exited ∧
    Rests elements (markAll map device.handled) device.worker.cow

/-- The thread goes on to another place without a sector set in hand. -/
theorem IncSessionInv.move (inv : IncSessionInv elements map device) {pc : IncPc}
    (before : device.pc.inHand = []) (after : pc.inHand = [])
    (active : device.worker.phase = .active)
    (testing : pc = .testQueue → device.worker.shouldStop = true)
    (waiting : pc = .dequeue → device.ssets.values ≠ [])
    (drained : pc = .exited → device.worker.shouldStop = true ∧ device.ssets.values = []) :
    IncSessionInv elements map { device with pc } := by
  have order := inv.order
  rw [before, ← after] at order
  exact { inv with
    order
    held := by
      intro addr sset here
      have impossible : pc = .handle addr sset := here
      rw [impossible] at after
      contradiction
    testing
    waiting
    drained
    ended := fun ended => absurd active ended }

theorem start_inv {cow : CowState} {sectOff : Nat} {truncating : Bool} (live : Live elements cow)
    (ready : Ready cow) :
    IncSessionInv elements cow.lookup (.start cow sectOff truncating) where
  running := rfl
  sound := rfl
  unfailed := rfl
  positive := by simp [IncDevice.start, Worker.fresh]
  covered := by simp [IncDevice.start, Worker.fresh]
  order := rfl
  held := by simp [IncDevice.start, Worker.fresh]
  stopping := by simp [IncDevice.start, Worker.fresh]
  swapped := by simp [IncDevice.start, Worker.fresh]
  leaving := by simp [IncDevice.start, Worker.fresh]
  testing := by simp [IncDevice.start, Worker.fresh]
  waiting := by simp [IncDevice.start, Worker.fresh]
  drained := by simp [IncDevice.start, Worker.fresh]
  active := fun _ => ⟨live, fun _ _ => rfl, ready⟩
  ended := by simp [IncDevice.start, Worker.fresh]

theorem makeSset_inv (inv : IncSessionInv elements map device) {sect len : Nat}
    {addr : Option Nat} (tracing : device.tracing = true) (positive : 0 < len)
    (allocated : addr ≠ none)
    (covered : ∀ block ∈ SectorSet.blocks ⟨sect - device.sectOff, len⟩, Covered elements block)
    (taken : device.makeSset sect len addr = some next) : IncSessionInv elements map next := by
  obtain ⟨addr, rfl⟩ := Option.ne_none_iff_exists'.mp allocated
  simp only [IncDevice.makeSset] at taken
  split at taken
  · rename_i fresh
    cases taken
    have unswapped : device.worker.ending ≠ some .replaced := by
      intro ending
      have off := (inv.swapped ending).1
      rw [tracing] at off
      contradiction
    have unstopped : device.worker.shouldStop ≠ true := fun stop => unswapped (inv.stopping stop)
    exact { inv with
      positive := by
        intro sset member
        rcases List.mem_append.mp member with old | new
        · exact inv.positive sset old
        · rw [List.mem_singleton.mp new]
          exact positive
      covered := by
        intro sset member
        rcases List.mem_append.mp member with old | new
        · exact inv.covered sset old
        · rw [List.mem_singleton.mp new]
          exact covered
      order := by
        rw [LinkedQueue.add_values, ← List.append_assoc, ← inv.order]
      held := by
        intro held sset here
        obtain ⟨apart, used⟩ := inv.held held sset here
        have other : held ≠ addr := by
          intro same
          rw [same] at used
          exact used fresh
        refine ⟨?_, LinkedQueue.not_fresh_add device.ssets _ fresh used⟩
        simp only [LinkedQueue.add, List.map_append, List.mem_append, not_or]
        exact ⟨apart, by simpa using other⟩
      waiting := by
        intro _
        rw [LinkedQueue.add_values]
        exact List.append_ne_nil_of_right_ne_nil _ (List.cons_ne_nil _ _)
      drained := fun exited => absurd (inv.drained exited).1 unstopped }
  · contradiction

theorem dequeue_inv (inv : IncSessionInv elements map device) (active : device.worker.phase = .active)
    {outcomes : List Outcome} (here : device.pc = .dequeue) (nonempty : device.ssets.values ≠ [])
    (taken : device.threadStep outcomes = some next) : IncSessionInv elements map next := by
  obtain ⟨sset, rest, values⟩ := List.exists_cons_of_ne_nil nonempty
  obtain ⟨addr, popped, others, apart, used⟩ := device.ssets.pop_eq_some values
  have pair : device.ssets.pop = (some (addr, sset), device.ssets.pop.2) :=
    Prod.ext popped rfl
  simp only [IncDevice.threadStep, here] at taken
  rw [pair] at taken
  cases taken
  have order := inv.order
  rw [here, values] at order
  exact { inv with
    order := by
      rw [order]
      simp [IncPc.inHand, others]
    held := by
      intro addr' sset' same
      cases same
      exact ⟨apart, used⟩
    testing := by simp
    waiting := by simp
    drained := by simp
    ended := fun ended => absurd active ended }

theorem IncSessionInv.of_free {addr : Nat} (apart : addr ∉ device.ssets.entries.map Prod.fst)
    (inv : IncSessionInv elements map
      { device with ssets := device.ssets.free addr apart, pc := .testStop }) :
    IncSessionInv elements map (device.freeSset addr) := by
  unfold IncDevice.freeSset
  rw [dif_pos apart]
  exact inv

theorem handle_inv (inv : IncSessionInv elements map device) (active : device.worker.phase = .active)
    {addr : Nat} {sset : SectorSet} (here : device.pc = .handle addr sset)
    (taken : device.threadStep [] = some next) : IncSessionInv elements map next := by
  obtain ⟨apart, used⟩ := inv.held addr sset here
  obtain ⟨live, agrees, ready⟩ := inv.active active
  have order := inv.order
  rw [here] at order
  have queued : sset ∈ device.queued := by
    rw [order]
    simp [IncPc.inHand]
  simp only [IncDevice.threadStep, here, inv.unfailed] at taken
  cases taken
  have spec : wp (incHandleSset sset) _ _ _ := incHandleSset_spec (live.of_outcomes []) agrees
  have handled := Worker.run_spec spec
  generalize device.worker.run (incHandleSset sset) [] = result at handled
  cases handled with
  | returned done =>
      obtain ⟨_, tended, agrees'⟩ := done
      refine IncSessionInv.of_free apart ?_
      exact { inv with
        running := inv.running
        sound := inv.sound
        unfailed := inv.unfailed
        order := by
          rw [order]
          simp [IncPc.inHand]
        held := by simp
        stopping := inv.stopping
        testing := by simp
        waiting := by simp
        drained := by simp
        active := by
          intro _
          refine ⟨tended.live, ?_, tended.ready (ready.of_outcomes [])⟩
          rw [markAll_snoc]
          exact agrees'
        ended := fun ended => absurd active ended }
  | failed stopped =>
      exact absurd (inv.covered sset queued) (stopped.cause (ready.of_outcomes []) rfl)
  | crashed stopped =>
      exact absurd (inv.covered sset queued) (stopped.cause (ready.of_outcomes []) rfl)

theorem threadStep_inv (inv : IncSessionInv elements map device) (active : device.worker.phase = .active)
    (taken : device.threadStep [] = some next) : IncSessionInv elements map next := by
  have empty := ssetsEmpty_iff device
  cases here : device.pc with
  | testStop =>
      simp only [IncDevice.threadStep, here] at taken
      cases taken
      cases stop : device.worker.shouldStop with
      | true => exact inv.move (by rw [here]; rfl) rfl active (fun _ => stop) (by simp) (by simp)
      | false => exact inv.move (by rw [here]; rfl) rfl active (by simp) (by simp) (by simp)
  | testQueue =>
      simp only [IncDevice.threadStep, here] at taken
      cases taken
      cases done : device.ssetsEmpty with
      | true =>
          exact inv.move (by rw [here]; rfl) rfl active (by simp) (by simp)
            (fun _ => ⟨inv.testing here, empty.mp done⟩)
      | false => exact inv.move (by rw [here]; rfl) rfl active (by simp) (by simp) (by simp)
  | waitEvent =>
      simp only [IncDevice.threadStep, here] at taken
      split at taken
      · cases taken
        exact inv.move (by rw [here]; rfl) rfl active (by simp) (by simp) (by simp)
      · contradiction
  | readFail =>
      simp only [IncDevice.threadStep, here] at taken
      cases taken
      have calm : device.worker.noticeFailure [] = device.worker := by
        unfold Worker.noticeFailure
        rw [inv.sound]
        simp
      rw [calm]
      exact inv.move (by rw [here]; rfl) rfl active (by simp) (by simp) (by simp)
  | testEmpty =>
      simp only [IncDevice.threadStep, here] at taken
      cases taken
      cases none : device.ssetsEmpty with
      | true => exact inv.move (by rw [here]; rfl) rfl active (by simp) (by simp) (by simp)
      | false =>
          have nonempty : device.ssets.values ≠ [] := by
            intro nothing
            rw [empty.mpr nothing] at none
            contradiction
          exact inv.move (by rw [here]; rfl) rfl active (by simp) (fun _ => nonempty) (by simp)
  | dequeue => exact dequeue_inv inv active here (inv.waiting here) taken
  | handle addr sset => exact handle_inv inv active here taken
  | exited =>
      simp only [IncDevice.threadStep, here] at taken
      contradiction

theorem truncate_inv (inv : IncSessionInv elements map device) (truncating : device.truncating = true) :
    IncSessionInv elements map (device.truncate []) := by
  have unswapped : device.worker.ending ≠ some .replaced := by
    intro ending
    have off := (inv.swapped ending).2
    rw [truncating] at off
    contradiction
  have active : device.worker.phase = .active := by
    by_contra ended
    have exited := (inv.ended ended).2.1
    exact unswapped (inv.stopping (inv.drained exited).1)
  obtain ⟨live, agrees, ready⟩ := inv.active active
  have spec := truncateToIndex_spec (live.of_outcomes []) agrees
  unfold IncDevice.truncate
  cases ran : cowTruncateToIndex { device.worker.cow with outcomes := [] } with
  | mk result cow =>
      cases result with
      | ok value =>
          obtain ⟨tended, agrees'⟩ := wp_done spec ran
          exact { inv with
            running := inv.running
            swapped := fun ending => absurd ending unswapped
            active := fun _ => ⟨tended.live, agrees', tended.ready (ready.of_outcomes [])⟩
            ended := fun ended => absurd active ended }
      | error reason => exact absurd rfl (wp_stopped spec ran).2.2.1

/-- A thread that runs is the one of the session. -/
theorem IncSessionInv.runs (inv : IncSessionInv elements map device)
    (runs : device.worker.Runs) : device.worker.phase = .active := by
  rcases runs with active | flushing
  · exact active
  · have ended := inv.ended (by simp [flushing])
    rw [flushing] at ended
    exact absurd ended.1 (by simp)

theorem close_inv (inv : IncSessionInv elements map device) (active : device.worker.phase = .active)
    (exited : device.pc = .exited) {ending : Ending} (chosen : device.worker.ending = some ending) :
    IncSessionInv elements map
      { device with
        tracing := device.tracing && ending ≠ .destroyed
        worker := device.worker.close ending [] } := by
  have replaced := inv.leaving ending chosen
  subst replaced
  obtain ⟨live, agrees, ready⟩ := inv.active active
  have spec : wp Ending.replaced.program _ _ _ :=
    wp_and (syncAndClose_rests (live.of_outcomes []) agrees)
      (cowSyncAndCloseFile_spec (live.of_outcomes []).inv)
  unfold Worker.close
  cases ran : Ending.replaced.program { device.worker.cow with outcomes := [] } with
  | mk result cow =>
      cases result with
      | ok value =>
          obtain ⟨rests, _⟩ := wp_done spec ran
          exact { inv with
            running := inv.running
            sound := inv.sound
            unfailed := inv.unfailed
            stopping := inv.stopping
            swapped := fun leaving => ⟨by simp [(inv.swapped leaving).1], (inv.swapped leaving).2⟩
            leaving := inv.leaving
            testing := inv.testing
            drained := inv.drained
            active := by simp
            ended := fun _ => ⟨rfl, exited, rests⟩ }
      | error reason =>
          have failed := (wp_stopped spec ran).2
          exact absurd rfl (failed.excuse.failure (ready.of_outcomes []))

/-- Every step of a session in which nothing fails keeps the invariant. -/
theorem incSession_step {event : IncEvent} (inv : IncSessionInv elements map device)
    (calm : event.Calm) (indexed : event.Indexed elements device)
    (taken : device.step event = some next) : IncSessionInv elements map next := by
  unfold IncDevice.step at taken
  rw [inv.running] at taken
  cases event with
  | makeSset sect len addr =>
      simp only [Bool.false_eq_true, if_false] at taken
      split at taken
      · rename_i allowed
        exact makeSset_inv inv allowed.1 allowed.2 calm indexed taken
      · contradiction
  | thread outcomes =>
      have none : outcomes = [] := calm
      subst none
      simp only [Bool.false_eq_true, if_false] at taken
      split at taken
      · rename_i runs
        exact threadStep_inv inv (inv.runs runs) taken
      · contradiction
  | reconfigure cacheSize =>
      simp only [Bool.false_eq_true, if_false] at taken
      split at taken
      · rename_i allowed
        cases taken
        obtain ⟨live, agrees, ready⟩ := inv.active allowed.1
        obtain ⟨tended, agrees'⟩ := modifyCacheSize_spec cacheSize live agrees
        exact { inv with
          running := inv.running
          sound := inv.sound
          unfailed := inv.unfailed
          stopping := inv.stopping
          testing := inv.testing
          drained := inv.drained
          active := fun _ => ⟨tended.live, agrees', tended.ready ready⟩
          ended := fun ended => absurd allowed.1 ended }
      · contradiction
  | truncate outcomes =>
      have none : outcomes = [] := calm
      subst none
      simp only [Bool.false_eq_true, if_false] at taken
      split at taken
      · rename_i truncating
        cases taken
        exact truncate_inv inv truncating
      · contradiction
  | swap =>
      simp only [Bool.false_eq_true, if_false] at taken
      split at taken
      · rename_i allowed
        cases taken
        exact { inv with
          running := inv.running
          sound := inv.sound
          unfailed := inv.unfailed
          stopping := fun _ => rfl
          swapped := fun _ => ⟨rfl, allowed.2⟩
          leaving := by simp
          testing := inv.testing
          drained := inv.drained
          active := inv.active
          ended := inv.ended }
      · contradiction
  | stopOld =>
      simp only [Bool.false_eq_true, if_false] at taken
      split at taken
      · rename_i ending
        cases taken
        exact { inv with
          running := inv.running
          sound := inv.sound
          unfailed := inv.unfailed
          stopping := fun _ => ending
          testing := fun _ => rfl
          drained := fun exited => ⟨rfl, (inv.drained exited).2⟩ }
      · contradiction
  | umount => exact calm.elim
  | flush noThread =>
      simp only [Bool.false_eq_true, if_false] at taken
      split at taken
      · rename_i allowed
        exact absurd (inv.leaving _ allowed.1.1) (by simp)
      · contradiction
  | destroy => exact calm.elim
  | close outcomes =>
      have none : outcomes = [] := calm
      subst none
      simp only [Bool.false_eq_true, if_false] at taken
      split at taken
      · rename_i allowed
        obtain ⟨ending, chosen, same⟩ := Option.map_eq_some_iff.mp taken
        subst same
        have active : device.worker.phase = .active := by
          refine allowed.1.resolve_right fun destroyed => ?_
          exact absurd (inv.leaving _ destroyed.1) (by simp)
        exact close_inv inv active allowed.2 chosen
      · contradiction
  | reopen outcomes noThread => exact calm.elim

/-- The index on file after a session has an entry for the blocks that had one
before and those some queued sector set touches, and every sector set was handled
once, in the order of the queue. -/
structure SessionExact (elements : Nat) (before : CowState) (device : IncDevice) : Prop where
  running : device.worker.crashed = false
  inOrder : device.handled <+: device.queued
  complete : device.worker.phase = .freed → device.handled = device.queued
  index : device.worker.phase = .freed → ∀ block, Covered elements block →
    (fileWord device.worker.cow.file (headerWords + block) ≠ 0 ↔
      before.lookup block ≠ 0 ∨ ∃ sset ∈ device.queued, sset.Touches block)

theorem IncSessionInv.exact {before : CowState}
    (inv : IncSessionInv elements before.lookup device) : SessionExact elements before device := by
  have order := inv.order
  have complete : device.worker.phase = .freed → device.handled = device.queued := by
    intro freed
    have ended := inv.ended (by simp [freed])
    have drained := (inv.drained ended.2.1).2
    rw [order, ended.2.1, drained]
    simp [IncPc.inHand]
  refine ⟨inv.running, ⟨_, by rw [order, List.append_assoc]⟩, complete, ?_⟩
  intro freed block covered
  have rests := (inv.ended (by simp [freed])).2.2
  have inside : device.worker.cow.cm.InRange block := by
    unfold CowManager.InRange
    rw [rests.sectSize, rests.totalSects]
    exact covered
  rw [rests.index block inside, markAll, mark_ne_zero, complete freed]
  have touched : block ∈ device.queued.flatMap SectorSet.blocks ↔
      ∃ sset ∈ device.queued, sset.Touches block := by
    rw [List.mem_flatMap]
    constructor
    · intro found
      obtain ⟨sset, member, here⟩ := found
      exact ⟨sset, member, (SectorSet.mem_blocks_iff (inv.positive sset member)).mp here⟩
    · intro found
      obtain ⟨sset, member, here⟩ := found
      exact ⟨sset, member, (SectorSet.mem_blocks_iff (inv.positive sset member)).mpr here⟩
  rw [touched]
  exact or_comm

/-- A session without failures whose sector sets lie in the index loses nothing
and invents nothing. -/
theorem session_marks_exactly {cow : CowState} {sectOff : Nat} {truncating : Bool}
    (live : Live elements cow) (ready : Ready cow)
    (reached : Transition.Reaches IncDevice.step
      (fun device event => event.Calm ∧ event.Indexed elements device)
      (.start cow sectOff truncating) device) : SessionExact elements cow device := by
  have inv : IncSessionInv elements cow.lookup device :=
    reached.invariant (start_inv live ready) fun inv ok taken =>
      incSession_step inv ok.1 ok.2 taken
  exact inv.exact

/-- `SECTOR_TO_BLOCK`. -/
def sectorToBlock (sector : Nat) : Nat := sector / sectorsPerBlock

/-- The manager of a new snapshot of a device with so many sectors, with a tenth of
them allocated for its file. -/
def newManager (size : Nat) : CowState :=
  (cowInit (sectorToBlock size) cowSectionSize 65536 (size * 512 * 10 / 100) 0#128 1 freshState).2

theorem newManager_live {size : Nat}
    (created : (cowInit (sectorToBlock size) cowSectionSize 65536 (size * 512 * 10 / 100) 0#128 1
      freshState).1 = .ok ()) : Live (sectorToBlock size) (newManager size) :=
  (wp_done (cowInit_live _ _ _ _ _) (ran_of_reply created)).1

/-- The thread handles one sector set. -/
def handleOne : List IncEvent := List.replicate 6 (.thread [])

theorem newManager_ready {size : Nat}
    (present : (newManager size).cm.dfilp = .opened ∧ (newManager size).cm.sects.isSome = true ∧
      (newManager size).file.any (fun file => (newManager size).cm.dataOffset ≤ file.size) = true) :
    Ready (newManager size) := by
  obtain ⟨opened, array, enough⟩ := present
  obtain ⟨file, found, size⟩ := (Option.any_eq_true _ _).mp enough
  exact ⟨opened, array, file, found, of_decide_eq_true size⟩

theorem session_marks_exactly_overlapping :
    ∃ device, SessionExact (sectorToBlock 4096) (newManager 4096) device ∧
      device.worker.phase = .freed ∧ device.queued = [⟨5, 10⟩, ⟨8, 1⟩] := by
  have live : Live (sectorToBlock 4096) (newManager 4096) := newManager_live (by decide +kernel)
  have ready : Ready (newManager 4096) := newManager_ready (by decide +kernel)
  have ran : (Transition.run (Transition.checked IncDevice.step fun device event =>
      event.Calm ∧ event.Indexed (sectorToBlock 4096) device) (.start (newManager 4096) 100 false)
      (.makeSset 105 10 (some 0) :: handleOne ++ [.makeSset 108 1 (some 1), .swap, .stopOld] ++
        List.replicate 9 (.thread []) ++ [.close []])).any
      (fun device => device.worker.phase = .freed ∧ device.queued = [⟨5, 10⟩, ⟨8, 1⟩]) = true := by
    decide +kernel
  obtain ⟨device, reached, ended⟩ := Transition.Reaches.of_evaluated ran
  exact ⟨device, session_marks_exactly live ready reached, of_decide_eq_true ended⟩

/-- The last sector of a device whose size is no multiple of a block has a block
number past the index: its sector set is handled with an access out of bounds. -/
theorem session_marks_exactly_partial_block :
    ∃ device, Live (sectorToBlock 32769) (newManager 32769) ∧ Ready (newManager 32769) ∧
      Transition.Reaches IncDevice.step (fun _ event => event.Calm)
        (.start (newManager 32769) 0 false) device ∧
      device.queued = [⟨32768, 1⟩] ∧
      ¬ SessionExact (sectorToBlock 32769) (newManager 32769) device := by
  have ran : (Transition.run (Transition.checked IncDevice.step fun _ event => event.Calm)
      (.start (newManager 32769) 0 false) (.makeSset 32768 1 (some 0) :: handleOne)).any
      (fun device => device.queued = [⟨32768, 1⟩] ∧ device.worker.crashed = true) = true := by
    decide +kernel
  obtain ⟨device, reached, ended⟩ := Transition.Reaches.of_evaluated ran
  have live : Live (sectorToBlock 32769) (newManager 32769) := newManager_live (by decide +kernel)
  have ready : Ready (newManager 32769) := newManager_ready (by decide +kernel)
  obtain ⟨queued, crashed⟩ := of_decide_eq_true ended
  have lost : ¬ SessionExact (sectorToBlock 32769) (newManager 32769) device := by
    intro promised
    rw [promised.running] at crashed
    exact Bool.false_ne_true crashed
  exact ⟨device, live, ready, reached, queued, lost⟩

end Moocbt.Device
