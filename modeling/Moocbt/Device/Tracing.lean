import Moocbt.Device.Clones

/-! A site in snapshot mode: what a step of the device leaves of its queue, and what holds of
the clones in every run without a failure. -/

namespace Moocbt.Device

open Cow Program WriteOnce

/-- The thread looks at its counters, having found its queue empty. -/
def SnapPc.Window : SnapPc → Prop
  | .testSubmitted | .testReceived _ => True
  | _ => False

/-- The thread was told to stop. -/
def SnapPc.Stopping : SnapPc → Prop
  | .testQueue | .testSubmitted | .testReceived _ | .exited => True
  | _ => False

theorem SnapPc.Window.stopping {pc : SnapPc} (window : pc.Window) : pc.Stopping := by
  cases pc <;> trivial

/-- Nothing went wrong so far. -/
def SnapDevice.Well (device : SnapDevice) : Prop :=
  device.worker.crashed = false ∧ device.worker.failCode = none

def SnapPc.isDequeue : SnapPc → Bool
  | .dequeue => true
  | _ => false

/-- A captured bio is in the queue, or was taken off it. -/
def SnapDevice.Holds (device : SnapDevice) (bio : WriteBio) : Prop :=
  .write bio ∈ device.bios ∨ bio ∈ device.taken

variable {device next : SnapDevice}

/-- The captured bios of a queue. -/
def writes (bios : List CowBio) : List WriteBio :=
  bios.filterMap fun bio =>
    match bio with
    | .write bio => some bio
    | .read _ => none

theorem mem_writes {bios : List CowBio} {bio : WriteBio} :
    bio ∈ writes bios ↔ CowBio.write bio ∈ bios := by
  unfold writes
  rw [List.mem_filterMap]
  constructor
  · intro found
    obtain ⟨other, member, same⟩ := found
    cases other with
    | write other =>
        cases same
        exact member
    | read other => contradiction
  · exact fun member => ⟨_, member, rfl⟩

/-- The captured bios in the order in which the thread gets them. -/
def SnapDevice.sequence (device : SnapDevice) : List WriteBio := device.taken ++ writes device.bios

/-- What a sequence of bios records, beginning with an empty store. -/
def recorded (bios : List WriteBio) : Nat → Option (Nat → Nat) :=
  recordAll (fun _ => none) (bios.flatMap WriteBio.captures)

/-- A bio that is taken before others has no block in common with them. -/
def InTurn (bios : List CowBio) : Prop :=
  match bios with
  | .read bio :: rest =>
      ∀ chosen ∈ (writes rest).find? (bioOverlap bio),
        ∀ passed ∈ (writes rest).takeWhile fun other => !bioOverlap bio other,
          ∀ block ∈ passed.blocks, block ∉ chosen.blocks
  | _ => True

theorem delayBehind_none {read : ReadBio} {rest : List CowBio}
    (found : delayBehind read rest = none) : ∀ bio ∈ writes rest, bioOverlap read bio = false := by
  induction rest with
  | nil => exact fun bio member => absurd member List.not_mem_nil
  | cons first rest ih =>
      unfold delayBehind at found
      cases first with
      | write other =>
          simp only at found
          split at found
          · contradiction
          · rename_i apart
            intro bio member
            rcases List.mem_cons.mp member with same | later
            · rw [same]
              simpa using apart
            · exact ih (Option.map_eq_none_iff.mp found) bio later
      | read other => exact ih (Option.map_eq_none_iff.mp found)

theorem delayBehind_some {read : ReadBio} {rest rest' : List CowBio} {write : WriteBio}
    (found : delayBehind read rest = some (write, rest')) :
    ∃ passed later, writes rest = passed ++ write :: later ∧ writes rest' = passed ++ later ∧
      (writes rest).find? (bioOverlap read) = some write ∧
      ((writes rest).takeWhile fun bio => !bioOverlap read bio) = passed := by
  induction rest generalizing rest' with
  | nil => contradiction
  | cons first rest ih =>
      unfold delayBehind at found
      cases first with
      | write other =>
          simp only at found
          split at found
          · rename_i overlaps
            cases found
            refine ⟨[], writes rest, rfl, rfl, ?_, ?_⟩
            · exact List.find?_cons_of_pos overlaps
            · exact List.takeWhile_cons_of_neg (by simp [overlaps])
          · rename_i apart
            obtain ⟨⟨write', rest''⟩, inner, same⟩ := Option.map_eq_some_iff.mp found
            cases same
            obtain ⟨passed, later, all, left, chosen, before⟩ := ih inner
            refine ⟨other :: passed, later, ?_, ?_, ?_, ?_⟩
            · exact congrArg (other :: ·) all
            · exact congrArg (other :: ·) left
            · exact (List.find?_cons_of_neg apart).trans chosen
            · exact (List.takeWhile_cons_of_pos (by simpa using apart)).trans
                (congrArg (other :: ·) before)
      | read other =>
          obtain ⟨⟨write', rest''⟩, inner, same⟩ := Option.map_eq_some_iff.mp found
          cases same
          obtain ⟨passed, later, all, left, selected⟩ := ih inner
          exact ⟨passed, later, all, left, selected⟩

/-- The captured bios before and after a bio is taken off the queue. -/
theorem dequeued {bios rest : List CowBio} {chosen : CowBio}
    (found : bioQueueDequeueDelayRead bios = some (chosen, rest)) :
    ∃ passed later, writes bios = passed ++ (writes [chosen] ++ later) ∧
      writes rest = passed ++ later ∧
      (InTurn bios → ∀ bio ∈ passed, ∀ other ∈ writes [chosen], ∀ block ∈ bio.blocks,
        block ∉ other.blocks) ∧
      ∀ read, chosen = .read read → ∀ bio ∈ writes bios, bioOverlap read bio = false := by
  unfold bioQueueDequeueDelayRead at found
  split at found
  · contradiction
  · cases found
    exact ⟨[], writes rest, rfl, rfl, fun _ bio member => absurd member List.not_mem_nil, nofun⟩
  · rename_i bio queue
    split at found
    · rename_i write rest' behind
      cases found
      obtain ⟨passed, later, all, left, selected, before⟩ := delayBehind_some behind
      refine ⟨passed, later, all, left, ?_, nofun⟩
      intro turn bio member other same block inside
      have same : other = write := List.mem_singleton.mp same
      rw [← before] at member
      exact same ▸ turn write selected bio member block inside
    · rename_i none
      cases found
      refine ⟨[], writes rest, rfl, rfl, fun _ bio member => absurd member List.not_mem_nil, ?_⟩
      intro other same
      cases same
      exact @delayBehind_none bio rest none

/-- What is recorded does not depend on the turn of bios that have no block in common. -/
theorem recorded_dequeued {taken chosen passed later : List WriteBio}
    (apart : ∀ bio ∈ passed, ∀ other ∈ chosen, ∀ block ∈ bio.blocks, block ∉ other.blocks) :
    recorded (taken ++ chosen ++ (passed ++ later)) =
      recorded (taken ++ (passed ++ (chosen ++ later))) := by
  unfold recorded
  simp only [List.flatMap_append, List.append_assoc]
  rw [recordAll_append, recordAll_append _ (taken.flatMap WriteBio.captures)]
  rw [← List.append_assoc, recordAll_append, ← List.append_assoc (passed.flatMap _),
    recordAll_append _ (passed.flatMap _ ++ _)]
  congr 1
  apply recordAll_comm
  intro first member second member' same
  obtain ⟨other, inside, captured⟩ := List.mem_flatMap.mp member
  obtain ⟨bio, inside', captured'⟩ := List.mem_flatMap.mp member'
  have block : second.1 ∈ bio.blocks := List.mem_map_of_mem captured'
  exact apart bio inside' other inside second.1 block (same ▸ List.mem_map_of_mem captured)

/-- What a step of the device that nobody told it to make does to its queue, its thread and
its history. -/
structure Advances (device next : SnapDevice) : Prop where
  kept : ∀ bio, device.Holds bio → next.Holds bio
  held : ∀ bio, next.Holds bio → device.Holds bio
  order : (device.pc.isDequeue = true → InTurn device.bios) →
    recorded next.sequence = recorded device.sequence
  submitted : next.submitted = device.submitted
  received : next.received = device.received
  well : next.Well → device.Well
  passed : next.Well → device.taken = device.handled ++ device.pc.inHand →
    next.taken = next.handled ++ next.pc.inHand
  dropped : next.Well → device.dropped = [] → next.dropped = []
  stops : (device.pc.Stopping → device.worker.shouldStop = true) →
    next.pc.Stopping → next.worker.shouldStop = true
  window : next.pc.Window → device.pc.Window ∧ next.bios = device.bios ∨ next.bios = []
  reads : ∀ {submitted}, next.pc = .testReceived submitted →
    device.pc = .testReceived submitted ∨ submitted = device.submitted
  exits : device.Well → next.pc = .exited → device.pc = .exited ∧ next.bios = device.bios ∨
    device.pc = .testReceived device.received ∧ next = { device with pc := .exited }

/-- A step of the thread within its loop that leaves the queue alone. -/
theorem Advances.move (running : device.worker.crashed = false) {worker : Worker} {pc : SnapPc}
    (sticky : worker.failCode = none → device.worker.failCode = none)
    (hand : pc.inHand = device.pc.inHand) (inside : ¬ pc.Stopping) :
    Advances device { device with worker, pc } where
  kept := fun _ => id
  held := fun _ => id
  order := fun _ => rfl
  submitted := rfl
  received := rfl
  well := fun well => ⟨running, sticky well.2⟩
  passed := fun _ => by rw [hand]; exact id
  dropped := fun _ => id
  stops := fun _ stopping => absurd stopping inside
  window := fun window => by cases pc <;> contradiction
  reads := fun {submitted} here => by
    have here : pc = .testReceived submitted := here
    rw [here] at inside
    exact absurd trivial inside
  exits := fun _ here => by
    have here : pc = .exited := here
    rw [here] at inside
    exact absurd trivial inside

/-- A step of the loop test. -/
theorem Advances.look (running : device.worker.crashed = false) {pc : SnapPc}
    (hand : pc.inHand = device.pc.inHand)
    (stops : pc.Stopping → device.worker.shouldStop = true ∨ device.pc.Stopping)
    (window : pc.Window → device.pc.Window ∨ device.bios = [])
    (reads : ∀ submitted, pc = .testReceived submitted → submitted = device.submitted)
    (exits : device.Well → pc = .exited → device.pc = .testReceived device.received) :
    Advances device { device with pc } where
  kept := fun _ => id
  held := fun _ => id
  order := fun _ => rfl
  submitted := rfl
  received := rfl
  well := fun well => ⟨running, well.2⟩
  passed := fun _ => by rw [hand]; exact id
  dropped := fun _ => id
  stops := fun told stopping => (stops stopping).elim id told
  window := fun inside => (window inside).imp_left fun before => ⟨before, rfl⟩
  reads := fun here => .inr (reads _ here)
  exits := fun well here => by
    have here : pc = .exited := here
    exact .inr ⟨exits well here, by rw [here]⟩

/-- The thread takes a bio off the queue. -/
theorem Advances.dequeue (running : device.worker.crashed = false) (here : device.pc = .dequeue)
    {chosen : CowBio} {bios : List CowBio} {taken : List WriteBio} {pc : SnapPc}
    (found : bioQueueDequeueDelayRead device.bios = some (chosen, bios))
    (takes : taken = device.taken ++ writes [chosen]) (hand : pc.inHand = writes [chosen])
    (inside : ¬ pc.Stopping) (reads : ∀ submitted, pc ≠ .testReceived submitted)
    (exits : pc ≠ .exited) : Advances device { device with bios, taken, pc } := by
  obtain ⟨passed, later, all, left, turn, _⟩ := dequeued found
  have hands : device.pc.inHand = [] := by
    rw [here]
    rfl
  have same : ∀ bio, bio ∈ writes bios ∨ bio ∈ taken ↔ bio ∈ writes device.bios ∨ bio ∈ device.taken := by
    intro bio
    rw [left, all, takes]
    simp only [List.mem_append]
    tauto
  exact {
    kept := fun bio holds => by
      have other := (same bio).mpr (holds.imp_left mem_writes.mpr)
      exact other.imp_left mem_writes.mp
    held := fun bio holds => by
      have other := (same bio).mp (holds.imp_left mem_writes.mpr)
      exact other.imp_left mem_writes.mp
    order := fun turns => by
      unfold SnapDevice.sequence
      rw [all]
      change recorded (taken ++ writes bios) = _
      rw [left, takes]
      exact recorded_dequeued (turn (turns (by rw [here]; rfl)))
    submitted := rfl
    received := rfl
    well := fun well => ⟨running, well.2⟩
    passed := fun _ passed => by
      rw [hands, List.append_nil] at passed
      change taken = device.handled ++ pc.inHand
      rw [takes, hand, passed]
    dropped := fun _ => id
    stops := fun _ stopping => absurd stopping inside
    window := fun window => absurd (SnapPc.Window.stopping window) inside
    reads := fun {submitted} here => absurd here (reads submitted)
    exits := fun _ here => absurd here exits }

theorem Worker.setFailState_none {worker : Worker} {error : Errno}
    (none : (worker.setFailState error).failCode = none) : False := by
  unfold Worker.setFailState at none
  cases found : worker.failCode <;> simp [found] at none

/-- A handler that leaves neither an error nor a crash returned. -/
theorem Worker.run_well {α : Type} {worker : Worker} {program : CowM α}
    {outcomes : List Outcome} :
    ((worker.run program outcomes).1.failCode = none → worker.failCode = none) ∧
      ((worker.run program outcomes).1.crashed = false →
        (worker.run program outcomes).1.failCode = none →
        (worker.run program outcomes).2.isSome = true) := by
  unfold Worker.run
  split
  · exact ⟨id, fun _ _ => rfl⟩
  · refine ⟨fun none => (Worker.setFailState_none none).elim, fun _ none => ?_⟩
    exact (Worker.setFailState_none none).elim
  · exact ⟨id, by simp⟩

theorem Worker.noticeFailure_failCode (worker : Worker) (outcomes : List Outcome) :
    (worker.noticeFailure outcomes).failCode = worker.failCode := by
  have noticed := worker.noticeFailure_spec outcomes
  generalize worker.noticeFailure outcomes = result at noticed
  cases noticed <;> rfl

theorem thread_advances {outcomes : List Outcome} (running : device.worker.crashed = false)
    (noticed : device.worker.isFailed = true → device.worker.failCode ≠ none)
    (taken : device.threadStep outcomes = some next) : Advances device next := by
  unfold SnapDevice.threadStep at taken
  cases here : device.pc with
  | testStop =>
      rw [here] at taken
      cases taken
      apply Advances.look running
      · rw [here]
        split <;> rfl
      · intro stopping
        split at stopping
        · rename_i stop
          exact .inl stop
        · exact stopping.elim
      · intro inside
        split at inside <;> exact inside.elim
      · intro submitted reads
        split at reads <;> cases reads
      · intro _ exits
        split at exits <;> cases exits
  | testQueue =>
      rw [here] at taken
      cases taken
      apply Advances.look running
      · rw [here]
        split <;> rfl
      · exact fun _ => .inr (by rw [here]; trivial)
      · intro inside
        split at inside
        · rename_i empty
          exact .inr (List.isEmpty_iff.mp empty)
        · exact inside.elim
      · intro submitted reads
        split at reads <;> cases reads
      · intro _ exits
        split at exits <;> cases exits
  | testSubmitted =>
      rw [here] at taken
      cases taken
      apply Advances.look running
      · rw [here]
        rfl
      · exact fun _ => .inr (by rw [here]; trivial)
      · exact fun _ => .inl (by rw [here]; trivial)
      · exact fun submitted reads => (SnapPc.testReceived.inj reads).symm
      · exact fun _ exits => by cases exits
  | testReceived submitted =>
      rw [here] at taken
      cases taken
      apply Advances.look running
      · rw [here]
        split <;> rfl
      · exact fun _ => .inr (by rw [here]; trivial)
      · intro inside
        split at inside <;> exact inside.elim
      · intro submitted reads
        split at reads <;> cases reads
      · intro well exits
        split at exits
        · cases exits
        · rename_i equal
          have unfailed : device.worker.isFailed = false := by
            cases failed : device.worker.isFailed with
            | false => rfl
            | true => exact absurd well.2 (noticed failed)
          rw [here, not_not.mp fun differ => equal ⟨differ, unfailed⟩]
  | waitEvent =>
      rw [here] at taken
      simp only at taken
      split at taken
      · cases taken
        exact .move running id (by rw [here]; rfl) id
      · contradiction
  | readFail =>
      rw [here] at taken
      cases taken
      have kept := device.worker.noticeFailure_failCode outcomes
      exact .move running (fun none => kept ▸ none) (by rw [here]; rfl) id
  | testEmpty =>
      rw [here] at taken
      cases taken
      apply Advances.move running id
      · rw [here]
        split <;> rfl
      · split <;> exact id
  | dequeue =>
      rw [here] at taken
      simp only at taken
      split at taken
      · cases taken
        exact {
          kept := fun _ => id
          held := fun _ => id
          order := fun _ => rfl
          submitted := rfl
          received := rfl
          well := fun well => absurd well.1 (by simp [SnapDevice.crash])
          passed := fun _ => id
          dropped := fun _ => id
          stops := id
          window := fun window => .inl ⟨window, rfl⟩
          reads := .inl
          exits := fun _ exits => .inl ⟨exits, rfl⟩ }
      · rename_i bio bios found
        cases taken
        exact .dequeue running here found (List.append_nil _).symm (List.append_nil _).symm nofun
          nofun nofun
      · rename_i bio bios found
        cases taken
        exact .dequeue running here found rfl rfl nofun nofun nofun
  | handleWrite bio =>
      have inside : device.pc.inHand = [bio] := by
        rw [here]
        rfl
      rw [here] at taken
      simp only at taken
      split at taken
      · rename_i failed
        cases taken
        exact {
          kept := fun _ => id
          held := fun _ => id
          order := fun _ => rfl
          submitted := rfl
          received := rfl
          well := fun well => ⟨running, well.2⟩
          passed := fun well => absurd well.2 (noticed failed)
          dropped := fun _ => id
          stops := fun _ => False.elim
          window := False.elim
          reads := nofun
          exits := fun _ => nofun }
      · cases taken
        have ran := @Worker.run_well _ device.worker (snapHandleWriteBio bio) outcomes
        exact {
          kept := fun _ => id
          held := fun _ => id
          order := fun _ => rfl
          submitted := rfl
          received := rfl
          well := fun well => ⟨running, ran.1 well.2⟩
          passed := fun _ passed => by
            rw [inside] at passed
            exact passed.trans (List.append_nil _).symm
          dropped := fun well none => by
            have returned := ran.2 well.1 well.2
            simp only [returned, if_true]
            exact none
          stops := fun _ => False.elim
          window := False.elim
          reads := nofun
          exits := fun _ => nofun }
  | readMode bio =>
      have ran := @Worker.run_well _ device.worker (snapReadBioGetMode bio) outcomes
      rw [here] at taken
      simp only at taken
      split at taken
      · cases taken
        exact .move running id (by rw [here]; rfl) id
      · split at taken
        · rename_i result
          cases taken
          rw [result] at ran
          exact .move running ran.1 (by rw [here]; rfl) id
        · rename_i result
          cases taken
          rw [result] at ran
          apply Advances.move running ran.1
          · rw [here]
            split <;> rfl
          · split <;> exact id
  | readBase bio mode =>
      rw [here] at taken
      contradiction
  | readOverlay bio mode data =>
      have ran := @Worker.run_well _ device.worker (snapReadOverlay bio.pieces data) outcomes
      have inside : device.pc.inHand = [] := by
        rw [here]
        rfl
      -- A read that is served goes into the history of reads only.
      have serves : ∀ (worker : Worker) served, (worker.failCode = none →
          device.worker.failCode = none) →
          Advances device { device with worker, served, pc := .testStop } := by
        intro worker served sticky
        have moved := @Advances.move device running worker .testStop sticky inside.symm id
        exact { moved with exits := fun _ => nofun }
      rw [here] at taken
      simp only at taken
      split at taken
      · cases taken
        exact serves _ _ id
      · split at taken
        · rename_i result
          cases taken
          rw [result] at ran
          exact .move running ran.1 inside.symm id
        · rename_i result
          cases taken
          rw [result] at ran
          exact serves _ _ ran.1
  | exited =>
      rw [here] at taken
      contradiction

/-- A step beside the thread. -/
theorem Advances.stay (running : device.worker.crashed = false) {worker : Worker}
    (sticky : worker.failCode = none → device.worker.failCode = none)
    (stop : device.worker.shouldStop = true → worker.shouldStop = true) :
    Advances device { device with worker } where
  kept := fun _ => id
  held := fun _ => id
  order := fun _ => rfl
  submitted := rfl
  received := rfl
  well := fun well => ⟨running, sticky well.2⟩
  passed := fun _ => id
  dropped := fun _ => id
  stops := fun told stopping => stop (told stopping)
  window := fun inside => .inl ⟨inside, rfl⟩
  reads := .inl
  exits := fun _ here => .inl ⟨here, rfl⟩

theorem Worker.close_sticky (worker : Worker) (ending : Ending) (outcomes : List Outcome) :
    ((worker.close ending outcomes).failCode = none → worker.failCode = none) ∧
      (worker.close ending outcomes).shouldStop = worker.shouldStop := by
  unfold Worker.close
  split
  · exact ⟨id, rfl⟩
  · split
    · exact ⟨fun none => (Worker.setFailState_none none).elim, rfl⟩
    · exact ⟨id, rfl⟩
  · exact ⟨id, rfl⟩

theorem Worker.reopen_sticky (worker : Worker) (outcomes : List Outcome)
    (noThread : Option Errno) :
    ((worker.reopen outcomes noThread).failCode = none → worker.failCode = none) ∧
      ((worker.reopen outcomes noThread).phase = .active ∨
        (worker.reopen outcomes noThread).shouldStop = worker.shouldStop) := by
  unfold Worker.reopen
  split
  · cases noThread with
    | none => exact ⟨id, .inl rfl⟩
    | some error => exact ⟨fun none => (Worker.setFailState_none none).elim, .inr rfl⟩
  · exact ⟨fun none => (Worker.setFailState_none none).elim, .inr rfl⟩
  · exact ⟨id, .inr rfl⟩

theorem Worker.flush_sticky (worker : Worker) (noThread : Option Errno) :
    (worker.flush noThread).failCode = worker.failCode ∧
      ((worker.flush noThread).phase = .flushing ∨
        (worker.flush noThread).shouldStop = worker.shouldStop) := by
  cases noThread with
  | none => exact ⟨rfl, .inl rfl⟩
  | some error => exact ⟨rfl, .inr rfl⟩

theorem own_advances {event : SnapEvent} (own : TracerEvent.own (.snap event) = true)
    (noticed : device.worker.isFailed = true → device.worker.failCode ≠ none)
    (ended : device.worker.Idle → device.pc = .exited)
    (taken : device.step event = some next) : Advances device next := by
  unfold SnapDevice.step at taken
  split at taken
  · contradiction
  · rename_i running
    have running : device.worker.crashed = false := by simpa using running
    cases event with
    | addBio bio => contradiction
    | submit => contradiction
    | receive => contradiction
    | fail error => contradiction
    | serve result => contradiction
    | thread outcomes =>
        simp only at taken
        split at taken
        · exact thread_advances running noticed taken
        · contradiction
    | reconfigure cacheSize =>
        simp only at taken
        split at taken
        · cases taken
          exact .stay running id id
        · contradiction
    | swap =>
        simp only at taken
        split at taken
        · cases taken
          exact .stay running id id
        · contradiction
    | stopOld =>
        simp only at taken
        split at taken
        · cases taken
          exact .stay running id fun _ => rfl
        · contradiction
    | umount =>
        simp only at taken
        split at taken
        · cases taken
          exact .stay running id fun _ => rfl
        · contradiction
    | flush noThread =>
        simp only at taken
        split at taken
        · rename_i allowed
          cases taken
          have exited := ended allowed.1
          have kept := device.worker.flush_sticky noThread
          unfold SnapDevice.flush
          dsimp only
          split
          · exact .move running (fun none => kept.1.symm.trans none) (by rw [exited]; rfl) id
          · rename_i crashed
            exact .stay running (fun none => kept.1.symm.trans none) fun told =>
              (kept.2.resolve_left crashed).trans told
        · contradiction
    | destroy =>
        simp only at taken
        split at taken
        · cases taken
          exact .stay running id fun _ => rfl
        · contradiction
    | close outcomes =>
        have closes : ∀ ending, Advances device
            { device with worker := device.worker.close ending outcomes } := by
          intro ending
          have kept := device.worker.close_sticky ending outcomes
          exact .stay running kept.1 fun stop => kept.2.trans stop
        simp only at taken
        split at taken
        · split at taken
          · cases taken
            exact closes _
          · cases taken
            exact closes _
          · contradiction
        · contradiction
    | reopen outcomes noThread =>
        simp only at taken
        split at taken
        · rename_i allowed
          cases taken
          have exited := ended allowed.1
          obtain ⟨sticky, stop⟩ := device.worker.reopen_sticky outcomes noThread
          unfold SnapDevice.reopen
          dsimp only
          split
          · exact .move running sticky (by rw [exited]; rfl) id
          · rename_i failed
            exact .stay running sticky fun told => (stop.resolve_left failed).trans told
        · contradiction

theorem serve_advances {result : Except Errno (Nat → Nat)}
    (taken : device.step (.serve result) = some next) : Advances device next := by
  simp only [SnapDevice.step] at taken
  split at taken
  · contradiction
  · rename_i running
    have running : device.worker.crashed = false := by simpa using running
    split at taken
    · unfold SnapDevice.serve at taken
      split at taken
      · rename_i here
        split at taken
        · cases taken
          exact .move running id (by rw [here]; rfl) id
        · cases taken
          exact .move running (fun none => (Worker.setFailState_none none).elim)
            (by rw [here]; rfl) id
      · contradiction
    · contradiction

variable {wiring : Wiring} {front after : Front} {elements : Nat}
  {content : Nat → Option (Nat → Nat)} {site : Site} {device' : SnapDevice} {event : SiteEvent}

/-- A failure that was noticed had been recorded. -/
def Worker.Noticing (worker : Worker) : Prop := worker.isFailed = true → worker.failCode ≠ none

theorem Worker.Noticing.sticky {worker after : Worker} (noticing : worker.Noticing)
    (same : after.isFailed = worker.isFailed)
    (sticky : after.failCode = none → worker.failCode = none) : after.Noticing :=
  fun failed none => noticing (same.symm.trans failed) (sticky none)

theorem Worker.Noticing.run {α : Type} {worker : Worker} (noticing : worker.Noticing)
    (program : CowM α) (outcomes : List Outcome) :
    (worker.run program outcomes).1.Noticing :=
  noticing.sticky (worker.run_isFailed program outcomes) Worker.run_well.1

theorem Worker.Noticing.notice {worker : Worker} (noticing : worker.Noticing)
    (outcomes : List Outcome) : (worker.noticeFailure outcomes).Noticing := by
  have noticed := worker.noticeFailure_spec outcomes
  generalize worker.noticeFailure outcomes = result at noticed
  cases noticed with
  | calm calm => exact noticing
  | freed live failed manager quiet => exact fun _ => failed
  | crashed live failed quiet => exact fun _ => failed

theorem Worker.Noticing.close {worker : Worker} (noticing : worker.Noticing) (ending : Ending)
    (outcomes : List Outcome) : (worker.close ending outcomes).Noticing := by
  refine noticing.sticky ?_ (worker.close_sticky ending outcomes).1
  unfold Worker.close
  split
  · rfl
  · split <;> rfl
  · rfl

theorem Worker.Noticing.reopen {worker : Worker} (noticing : worker.Noticing)
    (outcomes : List Outcome) (noThread : Option Errno) :
    (worker.reopen outcomes noThread).Noticing := by
  unfold Worker.reopen
  split
  · cases noThread with
    | none => exact fun failed => absurd failed Bool.false_ne_true
    | some error => exact fun _ => Worker.setFailState_ne error
  · exact fun _ => Worker.setFailState_ne _
  · exact noticing

theorem Worker.Noticing.flush {worker : Worker} (noticing : worker.Noticing)
    (noThread : Option Errno) : (worker.flush noThread).Noticing := by
  cases noThread with
  | none => exact fun failed => absurd failed Bool.false_ne_true
  | some error => exact noticing

theorem threadStep_noticing {outcomes : List Outcome}
    (taken : device.threadStep outcomes = some next) :
    (device.worker.Noticing → next.worker.Noticing) ∧
      next.worker.phase = device.worker.phase := by
  have ran : ∀ {α : Type} (program : CowM α),
      (device.worker.Noticing → (device.worker.run program outcomes).1.Noticing) ∧
        (device.worker.run program outcomes).1.phase = device.worker.phase := fun program =>
    ⟨fun noticing => noticing.run program outcomes, device.worker.run_phase program outcomes⟩
  unfold SnapDevice.threadStep at taken
  cases here : device.pc with
  | testStop =>
      rw [here] at taken
      cases taken
      exact ⟨id, rfl⟩
  | testQueue =>
      rw [here] at taken
      cases taken
      exact ⟨id, rfl⟩
  | testSubmitted =>
      rw [here] at taken
      cases taken
      exact ⟨id, rfl⟩
  | testReceived submitted =>
      rw [here] at taken
      cases taken
      exact ⟨id, rfl⟩
  | waitEvent =>
      rw [here] at taken
      simp only at taken
      split at taken
      · cases taken
        exact ⟨id, rfl⟩
      · contradiction
  | readFail =>
      rw [here] at taken
      cases taken
      exact ⟨fun noticing => noticing.notice outcomes,
        (device.worker.noticeFailure_phase outcomes).1⟩
  | testEmpty =>
      rw [here] at taken
      cases taken
      exact ⟨id, rfl⟩
  | dequeue =>
      rw [here] at taken
      simp only at taken
      split at taken
      · cases taken
        exact ⟨id, rfl⟩
      · cases taken
        exact ⟨id, rfl⟩
      · cases taken
        exact ⟨id, rfl⟩
  | handleWrite bio =>
      rw [here] at taken
      simp only at taken
      split at taken
      · cases taken
        exact ⟨id, rfl⟩
      · cases taken
        exact ran _
  | readMode bio =>
      have ran := ran (snapReadBioGetMode bio)
      rw [here] at taken
      simp only at taken
      split at taken
      · cases taken
        exact ⟨id, rfl⟩
      · split at taken
        · rename_i result
          cases taken
          rw [result] at ran
          exact ran
        · rename_i result
          cases taken
          rw [result] at ran
          exact ran
  | readBase bio mode =>
      rw [here] at taken
      contradiction
  | readOverlay bio mode data =>
      have ran := ran (snapReadOverlay bio.pieces data)
      rw [here] at taken
      simp only at taken
      split at taken
      · cases taken
        exact ⟨id, rfl⟩
      · split at taken
        · rename_i result
          cases taken
          rw [result] at ran
          exact ran
        · rename_i result
          cases taken
          rw [result] at ran
          exact ran
  | exited =>
      rw [here] at taken
      contradiction

/-- The queue is flushed, or the manager is gone. -/
def Worker.Leaving (worker : Worker) : Prop := worker.phase = .flushing ∨ worker.phase = .freed

theorem Worker.close_leaving {worker : Worker} (leaving : worker.Leaving)
    (outcomes : List Outcome) : (worker.close .destroyed outcomes).Leaving := by
  unfold Worker.close
  split
  · exact .inr rfl
  · exact .inr rfl
  · exact leaving

theorem Worker.Leaving.not_idle {worker : Worker} (leaving : worker.Leaving) :
    ¬ worker.Idle := by
  intro idle
  rcases leaving with flushing | freed
  · simpa [flushing] using idle.2
  · simpa [freed] using idle.2

theorem snapStep_noticing {event : SnapEvent} (noticing : device.worker.Noticing)
    (taken : device.step event = some next) : next.worker.Noticing := by
  unfold SnapDevice.step at taken
  split at taken
  · contradiction
  · cases event with
    | addBio bio =>
        cases taken
        exact noticing
    | submit =>
        cases taken
        exact noticing
    | receive =>
        cases taken
        exact noticing
    | fail error =>
        cases taken
        exact fun _ => Worker.setFailState_ne error
    | thread outcomes =>
        simp only at taken
        split at taken
        · exact (threadStep_noticing taken).1 noticing
        · contradiction
    | serve result =>
        simp only at taken
        split at taken
        · unfold SnapDevice.serve at taken
          split at taken
          · split at taken
            · cases taken
              exact noticing
            · rename_i error
              cases taken
              exact fun _ => Worker.setFailState_ne error
          · contradiction
        · contradiction
    | close outcomes =>
        simp only at taken
        split at taken
        · split at taken
          · cases taken
            exact noticing.close _ outcomes
          · cases taken
            exact noticing.close _ outcomes
          · contradiction
        · contradiction
    | reopen outcomes noThread =>
        simp only at taken
        split at taken
        · cases taken
          exact noticing.reopen outcomes noThread
        · contradiction
    | flush noThread =>
        simp only at taken
        split at taken
        · cases taken
          exact noticing.flush noThread
        · contradiction
    | reconfigure cacheSize | swap | stopOld | umount | destroy =>
        simp only at taken
        split at taken
        · cases taken
          exact noticing
        · contradiction

/-- A device that leaves does not come back. -/
theorem snapStep_leaving {event : SnapEvent} (leaving : device.worker.Leaving)
    (taken : device.step event = some next) : next.worker.Leaving := by
  unfold SnapDevice.step at taken
  split at taken
  · contradiction
  · cases event with
    | addBio bio =>
        cases taken
        exact leaving
    | submit =>
        cases taken
        exact leaving
    | receive =>
        cases taken
        exact leaving
    | fail error =>
        cases taken
        exact leaving
    | thread outcomes =>
        simp only at taken
        split at taken
        · unfold Worker.Leaving
          rw [(threadStep_noticing taken).2]
          exact leaving
        · contradiction
    | serve result =>
        simp only at taken
        split at taken
        · unfold SnapDevice.serve at taken
          split at taken
          · split at taken
            · cases taken
              exact leaving
            · cases taken
              exact leaving
          · contradiction
        · contradiction
    | close outcomes =>
        simp only at taken
        split at taken
        · rename_i allowed
          split at taken
          · rename_i chosen
            refine absurd allowed ?_
            unfold Worker.Closes
            rw [chosen]
            rcases leaving with flushing | freed
            · simp [flushing]
            · simp [freed]
          · cases taken
            exact Worker.close_leaving leaving outcomes
          · contradiction
        · contradiction
    | reopen outcomes noThread =>
        simp only at taken
        split at taken
        · rename_i allowed
          exact absurd allowed.1 leaving.not_idle
        · contradiction
    | flush noThread =>
        simp only at taken
        split at taken
        · rename_i allowed
          exact absurd allowed.1 leaving.not_idle
        · contradiction
    | reconfigure cacheSize | swap | stopOld | umount | destroy =>
        simp only at taken
        split at taken
        · cases taken
          exact leaving
        · contradiction

/-- What a running device makes of what it is told. -/
theorem step_told {device next : SnapDevice} {told : SnapEvent} (taken : device.step told = some next) :
    device.worker.crashed = false := by
  unfold SnapDevice.step at taken
  split at taken
  · contradiction
  · rename_i running
    simpa using running

theorem snap_told_guard {told : SnapEvent}
    (guard : ¬ device.worker.Leaving → ∃ done, SnapGuard elements content done device)
    (taken : device.step told = some device') (noticed : told.Noticed device) :
    ¬ device'.worker.Leaving → ∃ done, SnapGuard elements content done device' := by
  intro stays
  obtain ⟨done, inv⟩ := guard fun leaving => stays (snapStep_leaving leaving taken)
  exact snapStep_guard inv noticed taken

/-- No site goes back to snapshot mode. -/
theorem Site.step_snap {next : Site} (taken : site.step wiring event = some next)
    (still : next.tracer = .snap device') : ∃ device, site.tracer = .snap device := by
  cases here : site.tracer with
  | snap device => exact ⟨device, rfl⟩
  | inc device =>
      cases event with
      | front inner =>
          simp only [Site.step, Site.frontStep, here] at taken
          split at taken <;> contradiction
      | answer id index error =>
          simp only [Site.step, Site.frontStep, here] at taken
          contradiction
      | apply id =>
          obtain ⟨life, found, served⟩ := Option.bind_eq_some_iff.mp taken
          split at served
          · cases served
            cases here.symm.trans still
          · contradiction
      | base error =>
          simp only [Site.step, Site.snapStep, here] at taken
          contradiction
      | read bio =>
          simp only [Site.step, Site.snapStep, here] at taken
          contradiction
      | device inner =>
          simp only [Site.step] at taken
          split at taken
          · obtain ⟨tracer, ran, same⟩ := Option.map_eq_some_iff.mp taken
            subst same
            rw [here] at ran
            cases inner with
            | inc inner =>
                obtain ⟨after, _, same⟩ := Option.map_eq_some_iff.mp ran
                cases same.trans still
            | snap inner => contradiction
            | toInc sectOff => contradiction
          · contradiction

/-- What the tracing side, or a read of the snapshot, tells the device. -/
def SnapEvent.heard : SnapEvent → Bool
  | .addBio _ | .submit | .receive | .fail _ => true
  | _ => false

/-- The captured bio of an event. -/
def SnapEvent.added : SnapEvent → List WriteBio
  | .addBio bio => writes [bio]
  | _ => []

/-- What a device makes of what it is told. -/
structure Hears (device : SnapDevice) (told : SnapEvent) (next : SnapDevice) : Prop where
  taken : next.taken = device.taken
  handled : next.handled = device.handled
  dropped : next.dropped = device.dropped
  served : next.served = device.served
  pc : next.pc = device.pc
  cow : next.worker.cow = device.worker.cow
  bios : writes next.bios = writes device.bios ++ told.added
  well : next.Well → device.Well ∧ ∀ error, told ≠ .fail error

theorem hears {told : SnapEvent} (heard : told.heard = true)
    (ran : device.step told = some device') : Hears device told device' := by
  have running := step_told ran
  simp only [SnapDevice.step, running, Bool.false_eq_true, if_false] at ran
  cases told with
  | addBio bio =>
      cases ran
      exact ⟨rfl, rfl, rfl, rfl, rfl, rfl, List.filterMap_append, fun well => ⟨well, nofun⟩⟩
  | submit =>
      cases ran
      exact ⟨rfl, rfl, rfl, rfl, rfl, rfl, (List.append_nil _).symm, fun well => ⟨well, nofun⟩⟩
  | receive =>
      cases ran
      exact ⟨rfl, rfl, rfl, rfl, rfl, rfl, (List.append_nil _).symm, fun well => ⟨well, nofun⟩⟩
  | fail error =>
      cases ran
      exact ⟨rfl, rfl, rfl, rfl, rfl, rfl, (List.append_nil _).symm,
        fun well => (Worker.setFailState_none well.2).elim⟩
  | _ => contradiction

theorem Hears.sequence {told : SnapEvent} (hears : Hears device told device') :
    device'.sequence = device.sequence ++ told.added := by
  unfold SnapDevice.sequence
  rw [hears.taken, hears.bios, List.append_assoc]

theorem holds_iff {bio : WriteBio} : device.Holds bio ↔ bio ∈ device.sequence := by
  unfold SnapDevice.Holds SnapDevice.sequence
  rw [List.mem_append, mem_writes]
  exact or_comm

theorem Hears.holds {told : SnapEvent} (hears : Hears device told device') {bio : WriteBio} :
    device'.Holds bio ↔ device.Holds bio ∨ bio ∈ told.added := by
  rw [holds_iff, holds_iff, hears.sequence, List.mem_append]

/-- What holds of a site in snapshot mode in every run without a failure. -/
structure Tracing (elements : Nat) (content : Nat → Option (Nat → Nat)) (wiring : Wiring)
    (site : Site) (device : SnapDevice) : Prop where
  guard : ¬ device.worker.Leaving → ∃ done, SnapGuard elements content done device
  noticing : device.worker.Noticing
  dropped : device.Well → device.dropped = []
  passed : device.Well → device.taken = device.handled ++ device.pc.inHand
  accounted : device.Well → ∀ life ∈ site.front.lives, life.Accounted device.Holds
  covers : device.Well → ∀ life ∈ site.front.lives, life.Covers wiring.sectOff

theorem Tracing.advance (inv : Tracing elements content wiring site device)
    (guard : ¬ device'.worker.Leaving → ∃ done, SnapGuard elements content done device')
    (noticing : device'.worker.Noticing) (advances : Advances device device') {tracer : Tracer} :
    Tracing elements content wiring { site with tracer } device' where
  guard := guard
  noticing := noticing
  dropped := fun well => advances.dropped well (inv.dropped (advances.well well))
  passed := fun well => advances.passed well (inv.passed (advances.well well))
  accounted := fun well life member =>
    (inv.accounted (advances.well well) life member).weaken advances.kept
  covers := fun well => inv.covers (advances.well well)

/-- The device is told something, or nothing, in a step of the tracing side. -/
theorem Tracing.tells {inner : FrontEvent} {told : SnapEvent}
    (inv : Tracing elements content wiring site device)
    (stepped : site.front.Stepped wiring inner after)
    (tells : site.front.told wiring inner = some told) (heard : told.heard = true)
    (ran : device.step told = some device') (noticed : told.Noticed device) {tracer : Tracer} :
    Tracing elements content wiring { site with front := after, tracer } device' := by
  have hears := hears heard ran
  have sound : device'.Well → ∀ error, site.front.told wiring inner ≠ some (.fail error) := by
    intro well error fails
    rw [tells] at fails
    exact (hears.well well).2 error (Option.some.inj fails)
  exact {
    guard := snap_told_guard inv.guard ran noticed
    noticing := snapStep_noticing inv.noticing ran
    dropped := fun well => hears.dropped.trans (inv.dropped (hears.well well).1)
    passed := fun well => by
      rw [hears.taken, hears.handled, hears.pc]
      exact inv.passed (hears.well well).1
    accounted := fun well => by
      refine stepped.accounted (sound well) (fun bio holds => hears.holds.mpr (.inl holds)) ?_
        (inv.accounted (hears.well well).1)
      intro bio added
      rw [tells] at added
      cases added
      exact hears.holds.mpr (.inr (List.mem_singleton_self bio))
    covers := fun well => stepped.covers (sound well) (inv.covers (hears.well well).1) }

theorem Tracing.silent {inner : FrontEvent} (inv : Tracing elements content wiring site device)
    (stepped : site.front.Stepped wiring inner after)
    (untold : site.front.told wiring inner = none) :
    Tracing elements content wiring { site with front := after } device := by
  have sound : ∀ error, site.front.told wiring inner ≠ some (.fail error) := by
    rw [untold]
    exact fun error => nofun
  exact { inv with
    accounted := fun well => stepped.accounted sound (fun _ => id)
      (by rw [untold]; exact fun bio => nofun) (inv.accounted well)
    covers := fun well => stepped.covers sound (inv.covers well) }

theorem Tracing.reads_arrive {bio : ReadBio} (inv : Tracing elements content wiring site device)
    (ran : device.step (.addBio (.read bio)) = some device') {tracer : Tracer} :
    Tracing elements content wiring { site with tracer } device' := by
  have hears := hears rfl ran
  exact {
    guard := snap_told_guard inv.guard ran trivial
    noticing := snapStep_noticing inv.noticing ran
    dropped := fun well => hears.dropped.trans (inv.dropped (hears.well well).1)
    passed := fun well => by
      rw [hears.taken, hears.handled, hears.pc]
      exact inv.passed (hears.well well).1
    accounted := fun well life member =>
      (inv.accounted (hears.well well).1 life member).weaken fun _ holds =>
        hears.holds.mpr (.inl holds)
    covers := fun well => inv.covers (hears.well well).1 }

theorem Told.heard {told : SnapEvent} (moved : Told front after (some told)) :
    told.heard = true ∧ told.Noticed device := by
  cases moved <;> exact ⟨rfl, trivial⟩

theorem Tracing.ended (inv : Tracing elements content wiring site device)
    (idle : device.worker.Idle) : device.pc = .exited := by
  obtain ⟨done, guard⟩ := inv.guard fun leaving => leaving.not_idle idle
  refine guard.placed.ended ?_ ?_
  · intro active
    simpa [active] using idle.2
  · intro flushing
    simpa [flushing] using idle.2

/-- A step of the device itself. -/
theorem Tracing.own_advances {inner : SnapEvent} (inv : Tracing elements content wiring site device)
    (unfailed : device.worker.failCode = none) (own : TracerEvent.own (.snap inner) = true)
    (ran : device.step inner = some device') :
    (¬ device'.worker.Leaving → ∃ done, SnapGuard elements content done device') ∧
      Advances device device' := by
  have well : device.Well := ⟨step_told ran, unfailed⟩
  refine ⟨fun stays => ?_, Device.own_advances own inv.noticing inv.ended ran⟩
  have staying : ¬ device.worker.Leaving := fun leaving => stays (snapStep_leaving leaving ran)
  obtain ⟨done, guard⟩ := inv.guard staying
  have noticed : inner.Noticed device := by
    cases inner with
    | close outcomes => exact .inr (.inr (inv.dropped well))
    | thread outcomes => exact fun flushing => absurd (.inl flushing) staying
    | _ => trivial
  exact snapStep_guard guard noticed ran

theorem Tracing.step {next : Site} (inv : Tracing elements content wiring site device)
    (unfailed : device.worker.failCode = none) (snapshot : site.tracer = .snap device)
    (stepped : site.Stepped wiring device event next) (still : next.tracer = .snap device') :
    Tracing elements content wiring next device' := by
  cases stepped with
  | silent chosen honest stepped untold =>
      cases snapshot.symm.trans still
      exact inv.silent stepped untold
  | tells chosen honest stepped tells ran =>
      cases still
      have moved := stepped.told
      rw [tells] at moved
      have heard := @Told.heard device _ _ _ moved
      exact inv.tells stepped tells heard.1 ran heard.2
  | applies found handed =>
      cases snapshot.symm.trans still
      exact { inv with }
  | answers ran =>
      cases still
      exact inv.advance (snap_told_guard inv.guard ran trivial)
        (snapStep_noticing inv.noticing ran) (serve_advances ran)
  | reads ran =>
      cases still
      exact inv.reads_arrive ran
  | steps own ran =>
      cases still
      have advanced := inv.own_advances unfailed own ran
      exact inv.advance advanced.1 (snapStep_noticing inv.noticing ran) advanced.2
  | leaves running active replaced exited => cases still

theorem Tracing.start {cow : CowState} {base : Nat → Nat}
    (begins : Tracer.Begins elements content (.snap (.start cow))) :
    Tracing elements content wiring (.start cow base) (.start cow) where
  guard := by
    intro _
    cases begins_guard begins with
    | snap guard => exact ⟨_, guard⟩
  noticing := fun failed => absurd failed Bool.false_ne_true
  dropped := fun _ => rfl
  passed := fun _ => rfl
  accounted := fun _ life member => absurd member List.not_mem_nil
  covers := fun _ life member => absurd member List.not_mem_nil

/-- The store has what the thread handled. -/
theorem Tracing.stored (inv : Tracing elements content wiring site device) (well : device.Well)
    (active : device.worker.phase = .active) :
    Stored elements (recordAll content (device.handled.flatMap WriteBio.captures))
      (device.handled.flatMap WriteBio.blocks) device.worker.cow := by
  have stays : ¬ device.worker.Leaving := by
    unfold Worker.Leaving
    simp [active]
  obtain ⟨done, guard⟩ := inv.guard stays
  have unfailed : device.worker.isFailed = false := by
    cases failed : device.worker.isFailed with
    | false => rfl
    | true => exact absurd well.2 (inv.noticing failed)
  have same : done = device.handled :=
    List.append_cancel_right (guard.order.symm.trans (inv.passed well))
  rcases guard.guarded.sound well.1 active unfailed with stored | bad
  · exact same ▸ stored
  · exact absurd well.2 bad.2.1

end Moocbt.Device
