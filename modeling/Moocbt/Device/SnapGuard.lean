import Moocbt.Device.Capturing
import Moocbt.Device.Guard

/-! A device in snapshot mode, whatever fails: its file is clean only if every bio
that was taken off the queue is in the store. -/

namespace Moocbt.Device

open Cow Program WriteOnce

variable {elements : Nat} {content : Nat → Option (Nat → Nat)} {blocks : List Nat}
  {cow : CowState} {done : List WriteBio} {device next : SnapDevice}

/-- The store holds the content, and its index has a place for the blocks. -/
def Stored (elements : Nat) (content : Nat → Option (Nat → Nat)) (blocks : List Nat)
    (cow : CowState) : Prop :=
  Live elements cow ∧ Stores elements content cow ∧ ∀ block ∈ blocks, Covered elements block

def StoredAtRest (elements : Nat) (content : Nat → Option (Nat → Nat)) (blocks : List Nat)
    (cow : CowState) : Prop :=
  (∃ map, Shelved elements content map cow) ∧ ∀ block ∈ blocks, Covered elements block

/-- The blocks have entries on file that name the positions of their data. -/
def StoredOnFile (content : Nat → Option (Nat → Nat)) (blocks : List Nat)
    (file : Option CowFile) : Prop :=
  ∀ block ∈ blocks, ∀ buf, content block = some buf →
    fileWord file (headerWords + block) ≠ 0 ∧ ∀ word < blockWords,
      fileWord file (fileWord file (headerWords + block) * blockWords + word) = buf word

theorem Recorded.stored {after : CowState} {moved : Nat}
    (recorded : Recorded elements content cow moved after)
    (covered : ∀ block ∈ blocks, Covered elements block) : Stored elements content blocks after :=
  ⟨recorded.tended.live, recorded.stores, covered⟩

theorem stored_filing (elements : Nat) (content : Nat → Option (Nat → Nat)) (blocks : List Nat) :
    Filing (Stored elements content blocks) (StoredAtRest elements content blocks)
      (StoredOnFile content blocks) where
  shut := by
    intro cow resting
    obtain ⟨⟨map, shelved⟩, _⟩ := resting
    rw [shelved.rests.shut]
    exact nofun
  outcomes := fun outcomes stored => ⟨stored.1.of_outcomes outcomes, stored.2⟩
  rests := by
    intro cow outcomes resting
    obtain ⟨⟨map, shelved⟩, covered⟩ := resting
    exact ⟨⟨map, shelved.of_outcomes outcomes⟩, covered⟩
  closes := by
    intro cow stored
    obtain ⟨live, stores, covered⟩ := stored
    have spec := wp_and (syncAndClose_shelves live stores) (closeFile_quiet live)
    refine wp_mono spec ?_ (fun _ _ both => both.2)
    intro _ after both
    exact ⟨⟨cow.lookup, both.1⟩, covered⟩
  reopens := by
    intro cow resting
    obtain ⟨⟨map, shelved⟩, covered⟩ := resting
    refine wp_mono (wp_and (reopen_stores shelved) reopen_dirties) ?_ (fun _ _ both => both.2)
    intro _ after both
    obtain ⟨⟨live, stores⟩, dirty⟩ := both
    exact ⟨⟨live, stores, covered⟩, dirty⟩
  reconfigures := by
    intro cow cacheSize stored
    obtain ⟨live, stores, covered⟩ := stored
    obtain ⟨tended, _⟩ := modifyCacheSize_spec cacheSize live fun _ _ => rfl
    exact ⟨⟨tended.live, stores.of_cacheSize cacheSize, covered⟩, tended.quiet⟩
  applies := by
    intro cow resting block member buf present
    obtain ⟨⟨map, shelved⟩, covered⟩ := resting
    have rests := shelved.rests
    have inside : cow.cm.InRange block := by
      unfold CowManager.InRange
      rw [rests.sectSize, rests.totalSects]
      exact covered block member
    have data := shelved.blocks block (covered block member)
    rw [present] at data
    rw [rests.index block inside]
    refine ⟨?_, data.words⟩
    intro zero
    have area := data.area
    rw [zero, rests.inv.offset, cowHeaderSize] at area
    omega

/-- The places where the thread may not have noticed a failure yet. -/
def SnapPc.Early : SnapPc → Prop
  | .testEmpty | .dequeue | .handleWrite _ | .readMode _ | .readBase _ _ | .readOverlay _ _ _ =>
      False
  | _ => True

/-- A read is on its way, which only begins after the check. -/
def SnapPc.Reads : SnapPc → Prop
  | .readBase _ _ | .readOverlay _ _ _ => True
  | _ => False

/-- The captured bio the thread has in hand. -/
def SnapPc.inHand : SnapPc → List WriteBio
  | .handleWrite bio => [bio]
  | _ => []

abbrev StoreGuard (elements : Nat) (content : Nat → Option (Nat → Nat)) (done : List WriteBio)
    (early dropped : Prop) (worker : Worker) : Prop :=
  Guarded (Stored elements (recordAll content (done.flatMap WriteBio.captures))
      (done.flatMap WriteBio.blocks))
    (StoredAtRest elements (recordAll content (done.flatMap WriteBio.captures))
      (done.flatMap WriteBio.blocks))
    (StoredOnFile (recordAll content (done.flatMap WriteBio.captures))
      (done.flatMap WriteBio.blocks))
    early dropped worker

/-- What holds of a device in every run: `done` are the bios the thread has finished
with, `content` is what the store had when the thread began. -/
structure SnapGuard (elements : Nat) (content : Nat → Option (Nat → Nat))
    (done : List WriteBio) (device : SnapDevice) : Prop where
  guarded : StoreGuard elements content done device.pc.Early (device.dropped ≠ []) device.worker
  order : device.taken = done ++ device.pc.inHand
  placed : Placed device.worker.phase (device.pc = .exited)
    (device.pc.inHand = [] ∨ Dirty device.worker.cow.file)
  reading : device.pc.Reads → device.worker.isFailed = false

theorem SnapGuard.move (inv : SnapGuard elements content done device) {pc : SnapPc}
    (hand : pc.inHand = device.pc.inHand) (runs : device.worker.Runs)
    (early : device.pc.Early → pc.Early) (idle : ¬ pc.Reads) :
    SnapGuard elements content done { device with pc } where
  guarded := inv.guarded.weaken early id
  order := by
    rw [inv.order, ← hand]
  placed := inv.placed.move runs fun idle => idle.imp_left hand.trans
  reading := fun reads => absurd reads idle

theorem handleWrite_guard (inv : SnapGuard elements content done device)
    (running : device.worker.crashed = false) (active : device.worker.phase = .active)
    {outcomes : List Outcome} {bio : WriteBio} (here : device.pc = .handleWrite bio)
    (taken : device.threadStep outcomes = some next) :
    SnapGuard elements content (done ++ [bio]) next := by
  have order : device.taken = (done ++ [bio]) ++ [] := by
    rw [inv.order, here, List.append_nil]
    rfl
  have captures : recordAll content ((done ++ [bio]).flatMap WriteBio.captures) =
      recordAll (recordAll content (done.flatMap WriteBio.captures)) bio.captures := by
    rw [List.flatMap_append, recordAll_append]
    simp
  have blocks : (done ++ [bio]).flatMap WriteBio.blocks =
      done.flatMap WriteBio.blocks ++ bio.blocks := by
    simp [List.flatMap_append]
  simp only [SnapDevice.threadStep, here] at taken
  cases failed : device.worker.isFailed with
  | true =>
      rw [failed] at taken
      cases taken
      exact {
        guarded := {
          safe := .inl (inv.guarded.dirty active)
          dirty := inv.guarded.dirty
          freed := inv.guarded.freed
          sound := by simp [failed]
          resting := by simp [active]
          flushing := by simp [active]
          unopened := by simp [active]
          failing := by simp [active] }
        order
        placed := .of_active active
        reading := False.elim }
  | false =>
      rw [failed] at taken
      cases taken
      obtain ⟨live, stores, covered⟩ :=
        inv.guarded.checked (by rw [here]; exact id) running active failed
      have spec := snapHandleWriteBio_spec bio (live.of_outcomes outcomes)
        (stores.of_outcomes outcomes)
      have ran := Worker.run_spec spec
      generalize device.worker.run (snapHandleWriteBio bio) outcomes = result at ran
      cases ran with
      | @returned _ cow handled =>
          obtain ⟨inside, moved, recorded⟩ := handled
          have stored : Stored elements (recordAll content
              ((done ++ [bio]).flatMap WriteBio.captures))
              ((done ++ [bio]).flatMap WriteBio.blocks) cow := by
            rw [captures, blocks]
            refine Recorded.stored recorded ?_
            intro block member
            rcases List.mem_append.mp member with old | new
            · exact covered block old
            · exact inside block new
          have guarded : StoreGuard elements content (done ++ [bio]) _ _ _ :=
            inv.guarded.works active failed recorded.tended.quiet.of_outcomes stored
          exact ⟨(guarded.returns none).weaken (fun _ => trivial) id, order, .of_active active,
            False.elim⟩
      | @failed error cow stopped =>
          have guarded : StoreGuard elements content (done ++ [bio]) True True
              (Worker.setFailState { device.worker with cow, ret := some error } error) :=
            inv.guarded.drops active failed stopped.quiet.of_outcomes error
          exact ⟨guarded.weaken (fun _ => trivial) (by simp), order, .of_active active, False.elim⟩
      | crashed stopped =>
          exact ⟨inv.guarded.crashes active stopped.quiet.of_outcomes, order, .of_active active,
            False.elim⟩

/-- A bio that is lost on a dirty file. -/
theorem flushWrite_guard (inv : SnapGuard elements content done device)
    (running : device.worker.crashed = false) (flushing : device.worker.phase = .flushing)
    {outcomes : List Outcome} {bio : WriteBio} (here : device.pc = .handleWrite bio)
    (taken : device.threadStep outcomes = some next) :
    SnapGuard elements content (done ++ [bio]) next := by
  have order : device.taken = (done ++ [bio]) ++ [] := by
    rw [inv.order, here, List.append_nil]
    rfl
  have dirty : Dirty device.worker.cow.file := by
    refine (inv.placed.flushes flushing).resolve_left ?_
    rw [here]
    exact List.cons_ne_nil _ _
  have late : ¬ device.pc.Early := by
    rw [here]
    exact id
  simp only [SnapDevice.threadStep, here] at taken
  cases failed : device.worker.isFailed with
  | true =>
      rw [failed] at taken
      cases taken
      have guarded : StoreGuard elements content (done ++ [bio]) device.pc.Early
          (device.dropped ≠ []) device.worker := inv.guarded.loses flushing dirty
      exact ⟨guarded.weaken (fun early => absurd early late) id, order,
        ⟨fun _ unflushed => absurd flushing unflushed, fun _ => .inl rfl⟩, False.elim⟩
  | false =>
      rw [failed] at taken
      cases taken
      have shut := inv.guarded.flushed running flushing failed late
      have steady : Steady (snapHandleWriteBio bio) := snapWriteVecs_steady _ _
      have phase := (device.worker.run_phase (snapHandleWriteBio bio) outcomes).trans flushing
      have dirty' : Dirty (device.worker.run (snapHandleWriteBio bio) outcomes).1.cow.file := by
        rw [(device.worker.run_shut shut steady outcomes).1]
        exact dirty
      have read := inv.guarded.flushReads running flushing failed late steady outcomes
      exact ⟨(read.loses phase dirty').weaken (fun early => absurd early late) id, order,
        ⟨fun _ unflushed => absurd phase unflushed, fun _ => .inl rfl⟩, False.elim⟩

/-- A part of a read, which keeps the store, or a file that is not open. -/
theorem SnapGuard.reads {α : Type} {program : CowM α} {outcomes : List Outcome} {pc : SnapPc}
    {served : List (ReadBio × (Nat → Nat))} {within : Prop}
    (inv : SnapGuard elements content done device) (late : ¬ device.pc.Early)
    (running : device.worker.crashed = false) (runs : device.worker.Runs)
    (failed : device.worker.isFailed = false)
    (hand : pc.inHand = device.pc.inHand) (steady : Steady program)
    (spec : ∀ {cow : CowState} {content : Nat → Option (Nat → Nat)}, Live elements cow →
      Stores elements content cow →
      wp program (fun _ after => Recorded elements content cow 0 after)
        (Interrupted elements content cow within) cow) :
    SnapGuard elements content done
      { device with worker := (device.worker.run program outcomes).1, pc, served } := by
  have guarded : StoreGuard elements content done device.pc.Early (device.dropped ≠ [])
      (device.worker.run program outcomes).1 := by
    rcases runs with active | flushing
    · obtain ⟨live, stores, covered⟩ := inv.guarded.checked late running active failed
      have read := spec (live.of_outcomes outcomes) (stores.of_outcomes outcomes)
      exact inv.guarded.reads active failed (wp_mono read
        (fun _ _ recorded => ⟨recorded.tended.quiet.of_outcomes,
          Recorded.stored recorded covered⟩)
        (fun _ _ stopped => ⟨stopped.abandoned.quiet.of_outcomes, fun error same =>
          Recorded.stored (stopped.keeps error same) covered⟩))
    · exact inv.guarded.flushReads running flushing failed late steady outcomes
  refine ⟨guarded.weaken (fun early => absurd early late) id, ?_, ?_, ?_⟩
  · rw [inv.order, ← hand]
  · have phase := device.worker.run_phase program outcomes
    refine ⟨fun ended unflushed => absurd runs (not_or.mpr ?_), fun flushing => ?_⟩
    · rw [← phase]
      exact ⟨ended, unflushed⟩
    · have flushing := phase.symm.trans flushing
      refine (inv.placed.flushes flushing).imp hand.trans fun dirty => ?_
      rw [(device.worker.run_shut (inv.guarded.flushed running flushing failed late) steady
        outcomes).1]
      exact dirty
  · intro _
    exact (Worker.run_isFailed _ _ _).trans failed

/-- The first look of a read into the index. -/
theorem readMode_guard (inv : SnapGuard elements content done device)
    (running : device.worker.crashed = false) (runs : device.worker.Runs)
    {outcomes : List Outcome} {bio : ReadBio} (here : device.pc = .readMode bio)
    (taken : device.threadStep outcomes = some next) :
    SnapGuard elements content done next := by
  have late : ¬ device.pc.Early := by
    rw [here]
    exact id
  have spec : ∀ {cow : CowState} {content : Nat → Option (Nat → Nat)}, Live elements cow →
      Stores elements content cow →
      wp (snapReadBioGetMode bio) (fun _ after => Recorded elements content cow 0 after)
        (Interrupted elements content cow
          (∀ piece ∈ bio.pieces, Covered elements piece.block)) cow := by
    intro cow content live stores
    exact wp_mono (snapReadGetMode_spec none bio.pieces live stores)
      (fun _ _ chosen => chosen.1) fun _ _ => id
  simp only [SnapDevice.threadStep, here] at taken
  split at taken
  · cases taken
    exact inv.move (by rw [here]; rfl) runs (fun early => absurd early late) id
  · rename_i unfailed
    have failed : device.worker.isFailed = false := by simpa using unfailed
    have reads : ∀ pc : SnapPc, pc.inHand = device.pc.inHand →
        SnapGuard elements content done
          { device with worker := (device.worker.run (snapReadBioGetMode bio) outcomes).1, pc } :=
      fun _ hand => inv.reads late running runs failed hand (snapReadGetMode_steady _ _) spec
    split at taken
    · rename_i worker ran
      cases taken
      have kept := reads .testStop (by rw [here]; rfl)
      rw [ran] at kept
      exact kept
    · rename_i worker mode ran
      cases taken
      have kept := reads (if mode = some .cowFile then .readOverlay bio mode fun _ => 0
        else .readBase bio mode) (by rw [here]; split <;> rfl)
      rw [ran] at kept
      exact kept

/-- The part of a read that lays the captured data over that of the base device. -/
theorem readOverlay_guard (inv : SnapGuard elements content done device)
    (running : device.worker.crashed = false) (runs : device.worker.Runs)
    {outcomes : List Outcome} {bio : ReadBio} {mode : Option ReadMode} {data : Nat → Nat}
    (here : device.pc = .readOverlay bio mode data)
    (taken : device.threadStep outcomes = some next) :
    SnapGuard elements content done next := by
  have late : ¬ device.pc.Early := by
    rw [here]
    exact id
  have spec : ∀ {cow : CowState} {content : Nat → Option (Nat → Nat)}, Live elements cow →
      Stores elements content cow →
      wp (snapReadOverlay bio.pieces data)
        (fun _ after => Recorded elements content cow 0 after)
        (Interrupted elements content cow
          (∀ piece ∈ bio.pieces, Covered elements piece.block)) cow := by
    intro cow content live stores
    exact wp_mono (snapReadOverlay_spec bio.pieces data bio.pieces_inside live stores)
      (fun _ _ read => read.1) fun _ _ => id
  simp only [SnapDevice.threadStep, here] at taken
  split at taken
  · cases taken
    have moved : SnapGuard elements content done { device with pc := .testStop } :=
      inv.move (by rw [here]; rfl) runs (fun early => absurd early late) id
    exact ⟨moved.guarded, moved.order, moved.placed, moved.reading⟩
  · have failed := inv.reading (by rw [here]; trivial)
    have reads : ∀ served, SnapGuard elements content done
        { device with
          worker := (device.worker.run (snapReadOverlay bio.pieces data) outcomes).1
          served
          pc := .testStop } :=
      fun _ => inv.reads late running runs failed (by rw [here]; rfl)
        (snapReadOverlay_steady _ _) spec
    split at taken
    · rename_i worker ran
      cases taken
      have kept := reads device.served
      rw [ran] at kept
      exact kept
    · rename_i worker words ran
      cases taken
      have kept := reads (device.served ++ [(bio, words)])
      rw [ran] at kept
      exact kept

/-- The captured bio that the next step of the thread takes off the queue. -/
def SnapDevice.takes (device : SnapDevice) : Option WriteBio :=
  match device.pc, bioQueueDequeueDelayRead device.bios with
  | .dequeue, some (.write bio, _) => some bio
  | _, _ => none

theorem snapThread_guard (inv : SnapGuard elements content done device)
    (running : device.worker.crashed = false) (runs : device.worker.Runs)
    {outcomes : List Outcome}
    (spared : device.worker.phase = .flushing →
      device.takes.isNone = true ∨ Dirty device.worker.cow.file)
    (taken : device.threadStep outcomes = some next) :
    ∃ done', SnapGuard elements content done' next := by
  cases here : device.pc with
  | testStop =>
      simp only [SnapDevice.threadStep, here] at taken
      cases taken
      split
      · exact ⟨done, inv.move (by rw [here]; rfl) runs (fun _ => trivial) id⟩
      · exact ⟨done, inv.move (by rw [here]; rfl) runs (fun _ => trivial) id⟩
  | testQueue =>
      simp only [SnapDevice.threadStep, here] at taken
      cases taken
      split
      · exact ⟨done, inv.move (by rw [here]; rfl) runs (fun _ => trivial) id⟩
      · exact ⟨done, inv.move (by rw [here]; rfl) runs (fun _ => trivial) id⟩
  | testSubmitted =>
      simp only [SnapDevice.threadStep, here] at taken
      cases taken
      exact ⟨done, inv.move (by rw [here]; rfl) runs (fun _ => trivial) id⟩
  | testReceived submitted =>
      simp only [SnapDevice.threadStep, here] at taken
      cases taken
      split
      · exact ⟨done, inv.move (by rw [here]; rfl) runs (fun _ => trivial) id⟩
      · exact ⟨done, inv.move (by rw [here]; rfl) runs (fun _ => trivial) id⟩
  | waitEvent =>
      simp only [SnapDevice.threadStep, here] at taken
      split at taken
      · cases taken
        exact ⟨done, inv.move (by rw [here]; rfl) runs (fun _ => trivial) id⟩
      · contradiction
  | readFail =>
      simp only [SnapDevice.threadStep, here] at taken
      cases taken
      have phase := device.worker.noticeFailure_phase outcomes
      have guarded : StoreGuard elements content done False (device.dropped ≠ [])
          (device.worker.noticeFailure outcomes) := by
        rcases runs with active | flushing
        · exact inv.guarded.notices active outcomes
        · exact inv.guarded.flushNotices running flushing outcomes
      refine ⟨done, guarded, ?_, ?_, False.elim⟩
      · have order := inv.order
        rw [here] at order
        exact order
      · dsimp only
        rw [phase.1]
        exact inv.placed.move runs fun _ => .inl rfl
  | testEmpty =>
      simp only [SnapDevice.threadStep, here] at taken
      cases taken
      split
      · exact ⟨done, inv.move (by rw [here]; rfl) runs (fun _ => trivial) id⟩
      · exact ⟨done, inv.move (by rw [here]; rfl) runs (by rw [here]; exact id) id⟩
  | dequeue =>
      have guarded := inv.guarded
      have order := inv.order
      rw [here] at guarded order
      simp only [SnapDevice.threadStep, here] at taken
      split at taken
      · cases taken
        exact ⟨done, inv.guarded.crash, inv.order, inv.placed, inv.reading⟩
      · cases taken
        exact ⟨done, guarded, order, inv.placed.move runs fun _ => .inl rfl, False.elim⟩
      · rename_i bio bios found
        cases taken
        rcases runs with active | flushing
        · refine ⟨done, guarded, ?_, .of_active active, False.elim⟩
          rw [order]
          simp [SnapPc.inHand]
        · have dirty : Dirty device.worker.cow.file := by
            refine (spared flushing).resolve_left ?_
            simp [SnapDevice.takes, here, found]
          refine ⟨done, guarded, ?_, ⟨fun _ unflushed => absurd flushing unflushed, fun _ =>
            .inr dirty⟩, False.elim⟩
          rw [order]
          simp [SnapPc.inHand]
  | handleWrite bio =>
      rcases runs with active | flushing
      · exact ⟨_, handleWrite_guard inv running active here taken⟩
      · exact ⟨_, flushWrite_guard inv running flushing here taken⟩
  | readMode bio => exact ⟨done, readMode_guard inv running runs here taken⟩
  | readBase bio mode =>
      simp only [SnapDevice.threadStep, here] at taken
      contradiction
  | readOverlay bio mode data => exact ⟨done, readOverlay_guard inv running runs here taken⟩
  | exited =>
      simp only [SnapDevice.threadStep, here] at taken
      contradiction

theorem snapReopen_guard (inv : SnapGuard elements content done device)
    (running : device.worker.crashed = false)
    (closed : device.worker.phase = .dormant ∨ device.worker.phase = .failed)
    (outcomes : List Outcome) (noThread : Option Errno) :
    SnapGuard elements content done (device.reopen outcomes noThread) := by
  have exited : device.pc = .exited := by
    rcases closed with dormant | failed
    · exact inv.placed.ended (by simp [dormant]) (by simp [dormant])
    · exact inv.placed.ended (by simp [failed]) (by simp [failed])
  have order := inv.order
  rw [exited] at order
  have guarded : ∀ early, StoreGuard elements content done early (device.dropped ≠ [])
      (device.worker.reopen outcomes noThread) := fun _ =>
    inv.guarded.reopens (stored_filing _ _ _) running closed outcomes noThread
  unfold SnapDevice.reopen
  dsimp only
  split
  · rename_i active
    exact ⟨guarded _, order, .of_active active, False.elim⟩
  · refine ⟨guarded _, ?_, ⟨fun _ _ => exited, fun _ => .inl ?_⟩, fun reads => ?_⟩
    · rw [exited]
      exact order
    · rw [exited]
      rfl
    · rw [exited] at reads
      exact reads.elim

theorem snapFlush_guard (inv : SnapGuard elements content done device)
    (running : device.worker.crashed = false) (idle : device.worker.Idle)
    (closed : device.worker.phase ≠ .failed) (noThread : Option Errno) :
    SnapGuard elements content done (device.flush noThread) := by
  have phase := idle.flushable closed
  have exited : device.pc = .exited := by
    rcases phase with dormant | unopened
    · exact inv.placed.ended (by simp [dormant]) (by simp [dormant])
    · exact inv.placed.ended (by simp [unopened]) (by simp [unopened])
  have order := inv.order
  rw [exited] at order
  have guarded : StoreGuard elements content done True (device.dropped ≠ [])
      (device.worker.flush noThread) :=
    inv.guarded.flushes (stored_filing _ _ _) running phase trivial noThread
  unfold SnapDevice.flush
  dsimp only
  split
  · exact ⟨guarded, order, ⟨fun _ unflushed => absurd (by assumption) unflushed, fun _ => .inl rfl⟩,
      False.elim⟩
  · rename_i unflushed
    refine ⟨guarded.weaken (fun _ => by rw [exited]; trivial) id, ?_,
      ⟨fun _ _ => exited, fun flushing => absurd flushing unflushed⟩, fun reads => ?_⟩
    · rw [exited]
      exact order
    · rw [exited] at reads
      exact reads.elim

/-- A thread that flushes the queue of a dormant device takes no captured bio off it, unless
its file is dirty, or gone. -/
def SnapEvent.Spared (device : SnapDevice) : SnapEvent → Prop
  | .thread _ => device.worker.phase = .flushing →
      device.takes.isNone = true ∨ Dirty device.worker.cow.file
  | _ => True

/-- A step of a device in snapshot mode: the file is only closed as clean after no bio
was dropped, or once the failure was noticed. -/
def SnapEvent.Noticed (device : SnapDevice) : SnapEvent → Prop
  | .close _ => device.worker.ending = some .destroyed ∨ device.worker.isFailed = true ∨
      device.dropped = []
  | event => event.Spared device

theorem snapStep_guard {event : SnapEvent} (inv : SnapGuard elements content done device)
    (noticed : event.Noticed device) (taken : device.step event = some next) :
    ∃ done', SnapGuard elements content done' next := by
  unfold SnapDevice.step at taken
  split at taken
  · contradiction
  · rename_i running
    have running : device.worker.crashed = false := by simpa using running
    cases event with
    | addBio bio =>
        cases taken
        exact ⟨done, inv.guarded, inv.order, inv.placed, inv.reading⟩
    | submit =>
        cases taken
        exact ⟨done, inv.guarded, inv.order, inv.placed, inv.reading⟩
    | receive =>
        cases taken
        exact ⟨done, inv.guarded, inv.order, inv.placed, inv.reading⟩
    | fail error =>
        cases taken
        exact ⟨done, inv.guarded.fails error, inv.order, inv.placed, inv.reading⟩
    | thread outcomes =>
        simp only at taken
        split at taken
        · rename_i runs
          exact snapThread_guard inv running runs noticed taken
        · contradiction
    | serve result =>
        simp only at taken
        split at taken
        · rename_i runs
          unfold SnapDevice.serve at taken
          split at taken
          · rename_i bio mode here
            have guarded := inv.guarded
            have order := inv.order
            rw [here] at guarded order
            split at taken
            · cases taken
              exact ⟨done, guarded, order, inv.placed.move runs fun _ => .inl rfl, fun _ =>
                inv.reading (by rw [here]; trivial)⟩
            · rename_i error
              cases taken
              exact ⟨done, ((guarded.returns (some error)).fails error).weaken False.elim id, order,
                inv.placed.move runs fun _ => .inl rfl, False.elim⟩
          · contradiction
        · contradiction
    | reconfigure cacheSize =>
        simp only at taken
        split at taken
        · rename_i settled
          cases taken
          exact ⟨done, inv.guarded.reconfigures (stored_filing _ _ _) running settled cacheSize,
            inv.order, inv.placed, inv.reading⟩
        · contradiction
    | swap =>
        simp only at taken
        split at taken
        · rename_i settled
          cases taken
          exact ⟨done, inv.guarded.ends running settled _ _, inv.order, inv.placed, inv.reading⟩
        · contradiction
    | stopOld =>
        simp only at taken
        split at taken
        · cases taken
          exact ⟨done, inv.guarded.stops _, inv.order, inv.placed, inv.reading⟩
        · contradiction
    | umount =>
        simp only at taken
        split at taken
        · rename_i settled
          cases taken
          exact ⟨done, inv.guarded.ends running settled _ _, inv.order, inv.placed, inv.reading⟩
        · contradiction
    | flush noThread =>
        simp only at taken
        split at taken
        · rename_i allowed
          cases taken
          exact ⟨done, snapFlush_guard inv running allowed.1 allowed.2 noThread⟩
        · contradiction
    | destroy =>
        simp only at taken
        split at taken
        · cases taken
          exact ⟨done, inv.guarded.destroys _, inv.order, inv.placed, inv.reading⟩
        · contradiction
    | close outcomes =>
        simp only at taken
        split at taken
        · rename_i allowed
          split at taken
          · rename_i exited chosen
            have active : device.worker.phase = .active := by
              refine allowed.resolve_right fun destroyed => ?_
              rw [chosen] at destroyed
              exact absurd destroyed.1 (by simp)
            cases taken
            have complete : Ending.dormant ≠ .destroyed →
                device.worker.isFailed = true ∨ ¬ device.dropped ≠ [] := by
              intro _
              rcases noticed with gone | failed | none
              · rw [gone] at chosen
                contradiction
              · exact .inl failed
              · exact .inr (not_not.mpr none)
            exact ⟨done, inv.guarded.closes (stored_filing _ _ _) running active chosen
              complete outcomes, inv.order,
              ⟨fun _ _ => exited, fun _ => .inl (by dsimp only; rw [exited]; rfl)⟩,
              by simp [exited, SnapPc.Reads]⟩
          · rename_i exited _
            cases taken
            exact ⟨done, inv.guarded.removes outcomes, inv.order,
              ⟨fun _ _ => exited, fun _ => .inl (by dsimp only; rw [exited]; rfl)⟩,
              by simp [exited, SnapPc.Reads]⟩
          · contradiction
        · contradiction
    | reopen outcomes noThread =>
        simp only at taken
        split at taken
        · rename_i allowed
          cases taken
          exact ⟨done, snapReopen_guard inv running (allowed.1.closed allowed.2) outcomes noThread⟩
        · contradiction

end Moocbt.Device
