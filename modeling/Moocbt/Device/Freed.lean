import Moocbt.Cow.Steady
import Moocbt.Device.Closing

/-! After `cow_free_members` has run on the manager of a device its array and its file
are gone. When a later step uses them. -/

namespace Moocbt.Device

open Cow Program

/-- What `cow_free_members` leaves. -/
def Freed (cow : CowState) : Prop := cow.cm.dfilp = .null ∧ cow.cm.sects = none

/-- The step runs a function that reads the array of sections or the file: a handler,
the truncation, or a close that flushes the sections first. -/
def IncEvent.Uses (device : IncDevice) : IncEvent → Prop
  | .thread _ => ∃ addr sset, device.pc = .handle addr sset ∧ device.worker.isFailed = false
  | .truncate _ => True
  | .close _ => device.worker.ending ≠ some .destroyed
  | _ => False

def SnapEvent.Uses (device : SnapDevice) : SnapEvent → Prop
  | .thread _ =>
      match device.pc with
      | .handleWrite _ | .readMode _ => device.worker.isFailed = false
      | .readOverlay _ mode _ => mode ≠ some .baseDevice
      | _ => False
  | .close _ => device.worker.ending ≠ some .destroyed
  | _ => False

/-- The manager will be used again by another than the thread. -/
def IncDevice.Exposed (device : IncDevice) : Prop :=
  device.truncating = true ∨ device.worker.ending = some .dormant ∨
    device.worker.ending = some .replaced

def SnapDevice.Exposed (device : SnapDevice) : Prop := device.worker.ending = some .dormant

theorem IncDevice.exposed_of_ending {device : IncDevice} {ending : Ending}
    (chosen : device.worker.ending = some ending) (kept : ending ≠ .destroyed) :
    device.Exposed := by
  cases ending with
  | dormant => exact .inr (.inl chosen)
  | replaced => exact .inr (.inr chosen)
  | destroyed => exact absurd rfl kept

/-- No failure is noticed by a thread whose manager is exposed. -/
def IncEvent.Careful (device : IncDevice) : IncEvent → Prop
  | .thread _ => device.pc = .readFail → device.worker.isFailed = false → device.Exposed →
      device.worker.failCode = none
  | _ => True

def SnapEvent.Careful (device : SnapDevice) : SnapEvent → Prop
  | .thread _ =>
      match device.pc with
      | .readFail => device.worker.isFailed = false → device.Exposed →
          device.worker.failCode = none
      | _ => True
  | _ => True

variable {exposed early : Prop} {worker : Worker}

/-- While its thread runs the manager of a device has its array, or a failure was noticed, or
will be, and nobody else will use the manager. A file that could not be closed is dirty, so
that it will not be opened again. -/
structure Unharmed (exposed early : Prop) (worker : Worker) : Prop where
  unfailed : worker.crashed = false → worker.Runs → worker.isFailed = false →
    worker.cow.cm.sects.isSome = true ∨ early ∧ worker.failCode ≠ none ∧ ¬ exposed
  failed : worker.crashed = false → worker.Runs → worker.isFailed = true →
    worker.failCode ≠ none ∧ ¬ exposed
  resting : worker.crashed = false → worker.phase = .dormant → worker.cow.cm.sects.isSome = true
  unopened : worker.phase = .unopened → worker.failCode ≠ none
  dirty : worker.crashed = false → worker.phase = .active ∨ worker.phase = .failed →
    Dirty worker.cow.file

theorem Unharmed.weaken {exposed' early' : Prop} (intact : Unharmed exposed early worker)
    (earlier : early → early') (hidden : exposed' → exposed) : Unharmed exposed' early' worker :=
  { intact with
    unfailed := fun running runs unfailed =>
      (intact.unfailed running runs unfailed).imp_right fun bad =>
        ⟨earlier bad.1, bad.2.1, fun seen => bad.2.2 (hidden seen)⟩
    failed := fun running runs failed =>
      have bad := intact.failed running runs failed
      ⟨bad.1, fun seen => bad.2 (hidden seen)⟩ }

theorem Unharmed.of_crashed (crashed : worker.crashed = true)
    (unopened : worker.phase = .unopened → worker.failCode ≠ none) :
    Unharmed exposed early worker :=
  ⟨by simp [crashed], by simp [crashed], by simp [crashed], unopened, by simp [crashed]⟩

/-- No thread is left. -/
theorem Unharmed.of_ended (ended : ¬ worker.Runs)
    (resting : worker.phase = .dormant → worker.cow.cm.sects.isSome = true)
    (unopened : worker.phase = .unopened → worker.failCode ≠ none)
    (failing : worker.phase = .failed → Dirty worker.cow.file) :
    Unharmed exposed early worker :=
  ⟨fun _ runs => absurd runs ended, fun _ runs => absurd runs ended, fun _ => resting, unopened,
    fun _ marked => marked.elim (fun active => absurd (.inl active) ended) failing⟩

theorem Unharmed.fresh {cow : CowState} (failCode : Option Errno)
    (array : cow.cm.sects.isSome = true ∨ early ∧ failCode ≠ none ∧ ¬ exposed)
    (dirty : Dirty cow.file) : Unharmed exposed early (.fresh cow failCode) :=
  ⟨fun _ _ _ => array, by simp [Worker.fresh], by simp [Worker.fresh], by simp [Worker.fresh],
    fun _ _ => dirty⟩

theorem Unharmed.fails (intact : Unharmed exposed early worker) (error : Errno) :
    Unharmed exposed early (worker.setFailState error) where
  unfailed := fun running runs unfailed =>
    (intact.unfailed running runs unfailed).imp_right fun bad =>
      ⟨bad.1, Worker.setFailState_ne error, bad.2.2⟩
  failed := fun running runs failed =>
    ⟨Worker.setFailState_ne error, (intact.failed running runs failed).2⟩
  resting := intact.resting
  unopened := fun _ => Worker.setFailState_ne error
  dirty := intact.dirty

theorem Unharmed.crash (intact : Unharmed exposed early worker) :
    Unharmed exposed early { worker with crashed := true } := .of_crashed rfl intact.unopened

/-- The flags of the thread do not matter to the manager. -/
theorem Unharmed.flags (intact : Unharmed exposed early worker) (shouldStop : Bool)
    (ret : Option Errno) (ending : Option Ending) :
    Unharmed exposed early { worker with shouldStop, ret, ending } := { intact with }

theorem Unharmed.settled (intact : Unharmed exposed early worker)
    (running : worker.crashed = false) (settled : worker.Settled) :
    worker.isFailed = false ∧ worker.cow.cm.sects.isSome = true := by
  obtain ⟨active, sound, _⟩ := settled
  cases failed : worker.isFailed with
  | true => exact absurd sound (intact.failed running (.inl active) failed).1
  | false =>
      rcases intact.unfailed running (.inl active) failed with array | bad
      · exact ⟨rfl, array⟩
      · exact absurd sound bad.2.1

/-- A transition that begins finds the array, and exposes the manager. -/
theorem Unharmed.begins {exposed' : Prop} (intact : Unharmed exposed early worker)
    (running : worker.crashed = false) (settled : worker.Settled) (shouldStop : Bool)
    (ending : Option Ending) : Unharmed exposed' early { worker with shouldStop, ending } := by
  obtain ⟨unfailed, array⟩ := intact.settled running settled
  exact ⟨fun _ _ _ => .inl array, by simp [unfailed], intact.resting, intact.unopened,
    intact.dirty⟩

theorem Unharmed.runs {α : Type} {program : CowM α} (intact : Unharmed exposed early worker)
    (steady : Steady program) (outcomes : List Outcome) :
    Unharmed exposed early (worker.run program outcomes).1 := by
  have ran := Worker.run_spec (steady { worker.cow with outcomes })
  generalize worker.run program outcomes = result at ran
  have kept : ∀ {cow : CowState} (ret : Option Errno), Alike { worker.cow with outcomes } cow →
      Unharmed exposed early { worker with cow, ret } := by
    intro cow ret alike
    have array : cow.cm.sects.isSome = worker.cow.cm.sects.isSome := alike.array
    refine ⟨fun running runs unfailed => ?_, intact.failed, fun running dormant => ?_,
      intact.unopened, fun running marked => alike.dirty (intact.dirty running marked)⟩
    · rw [array]
      exact intact.unfailed running runs unfailed
    · rw [array]
      exact intact.resting running dormant
  cases ran with
  | returned alike => exact kept none alike
  | @failed error cow alike => exact (kept (some error) alike).fails error
  | crashed alike => exact .of_crashed rfl intact.unopened

theorem Worker.Runs.rests {worker : Worker} (runs : worker.Runs) :
    worker.phase ≠ .dormant ∧ worker.phase ≠ .unopened := by
  rcases runs with active | flushing
  · simp [active]
  · simp [flushing]

/-- A thread that finds no failure has an array after the check. -/
theorem Unharmed.notices {early' : Prop} (intact : Unharmed exposed early worker)
    (running : worker.crashed = false) (runs : worker.Runs)
    (careful : worker.isFailed = false → exposed → worker.failCode = none)
    (outcomes : List Outcome) : Unharmed exposed early' (worker.noticeFailure outcomes) := by
  have noticed := worker.noticeFailure_spec outcomes
  generalize worker.noticeFailure outcomes = result at noticed
  cases noticed with
  | calm calm =>
      refine { intact with unfailed := fun _ _ unfailed => .inl ?_ }
      have sound : worker.failCode = none := calm.resolve_left (by simp [unfailed])
      exact (intact.unfailed running runs unfailed).resolve_right fun bad => bad.2.1 sound
  | freed live failed manager quiet =>
      exact ⟨by simp, fun _ _ _ => ⟨failed, fun seen => failed (careful live seen)⟩,
        fun _ dormant => absurd dormant runs.rests.1, fun _ => failed,
        fun running marked => quiet.dirty (intact.dirty running marked)⟩
  | crashed live failed quiet => exact .of_crashed rfl fun _ => failed

theorem Unharmed.reconfigures (intact : Unharmed exposed early worker) (cacheSize : Nat) :
    Unharmed exposed early (worker.reconfigure cacheSize) := { intact with }

/-- A file that is closed leaves the array, of sections without their pages; one that could
not be closed is dirty. -/
theorem close_array {state : CowState} (array : state.cm.sects.isSome = true)
    (dirty : Dirty state.file) :
    wp cowSyncAndCloseFile (fun _ after => after.cm.sects.isSome = true)
      (fun _ after => Dirty after.file) state := by
  have freed : ∀ {middle : CowState}, Dirty middle.file →
      wp cowFreeMembers (fun _ after => Dirty after.file) (fun _ after => Dirty after.file)
        middle := fun dirty =>
    wp_mono freeMembers_quiet (fun _ _ quiet => quiet.dirty dirty)
      (fun _ _ quiet => quiet.dirty dirty)
  have sections : Steady (cowSyncAndFreeSections 0) :=
    .bind .getCm fun _ => .cowSyncSections _ _ _
  unfold cowSyncAndCloseFile
  rw [wp_onErrno, wp_bind]
  refine wp_mono (sections state) ?_ ?_
  · intro _ middle alike
    have array := alike.array.trans array
    have dirty := alike.dirty dirty
    unfold cowWriteHeader
    rw [wp_bind, wp_bind, wp_updateCm, wp_bind, wp_getCm]
    refine wp_mono (fileWriteHeader_spec _) ?_ ?_
    · intro _ wrote written
      obtain ⟨opened, _, rest, _, same⟩ := written
      subst same
      refine wp_mono closeFile_spec ?_ ?_
      · intro _ after shut
        rw [shut]
        exact array
      · intro reason after bad
        obtain ⟨_, errPtr, _⟩ := bad
        rw [opened] at errPtr
        contradiction
    · intro reason after stop
      obtain ⟨_, rest, _, same⟩ := stop
      subst same
      cases reason with
      | errno error => exact freed dirty
      | oops => exact dirty
      | crash => exact dirty
  · intro reason middle alike
    have dirty := alike.dirty dirty
    cases reason with
    | errno error => exact freed dirty
    | oops => exact dirty
    | crash => exact dirty

theorem Unharmed.closes {exposed' early' : Prop} {ending : Ending}
    (intact : Unharmed exposed early worker) (running : worker.crashed = false)
    (allowed : worker.Closes) (chosen : worker.ending = some ending)
    (seen : ending ≠ .destroyed → exposed) (outcomes : List Outcome) :
    Unharmed exposed' early' (worker.close ending outcomes) := by
  have synced : ending ≠ .destroyed →
      wp cowSyncAndCloseFile (fun _ after => after.cm.sects.isSome = true)
        (fun _ after => Dirty after.file) { worker.cow with outcomes } := by
    intro kept
    have active : worker.phase = .active := by
      refine allowed.resolve_right fun destroyed => kept ?_
      rw [chosen] at destroyed
      exact Option.some.inj destroyed.1
    refine close_array ?_ (intact.dirty running (.inl active))
    cases failed : worker.isFailed with
    | true => exact absurd (seen kept) (intact.failed running (.inl active) failed).2
    | false =>
        exact (intact.unfailed running (.inl active) failed).resolve_right fun bad =>
          bad.2.2 (seen kept)
  unfold Worker.close
  split
  · rename_i cow ran
    split
    · rename_i dormant
      subst dormant
      have rests := wp_done (synced (by simp)) ran
      exact .of_ended (by simp [Worker.Runs]) (fun _ => rests) (by simp) (by simp)
    · exact .of_ended (by simp [Worker.Runs]) (by simp) (by simp) (by simp)
  · rename_i error cow ran
    split
    · rename_i dormant
      subst dormant
      have dirty := wp_stopped (synced (by simp)) ran
      exact .of_ended (by simp [Worker.Runs, Worker.setFailState])
        (by simp [Worker.setFailState]) (by simp [Worker.setFailState]) (fun _ => dirty)
    · exact .of_ended (by simp [Worker.Runs]) (by simp) (by simp) (by simp)
  · exact .of_crashed rfl intact.unopened

theorem Unharmed.halts {exposed' early' : Prop} {cow : CowState}
    (intact : Unharmed exposed early worker) (running : worker.crashed = false)
    (same : worker.phase = .failed → cow.file = worker.cow.file) (error : Errno) :
    Unharmed exposed' early' (worker.halt cow error) := by
  have placed := worker.halt_phase cow error
  have ended : ¬ (worker.halt cow error).Runs := by
    rcases placed with failed | unopened
    · simp [Worker.Runs, failed.1]
    · simp [Worker.Runs, unopened]
  refine .of_ended ended (fun dormant => ?_) (fun _ => Worker.setFailState_ne error)
    (fun failing => ?_)
  · rcases placed with failed | unopened
    · simp [failed.1] at dormant
    · simp [unopened] at dormant
  · rcases placed with failed | unopened
    · have dirty := intact.dirty running (.inr failed.2)
      rw [← same failed.2] at dirty
      exact dirty
    · simp [unopened] at failing

theorem Unharmed.reopens {exposed' early' : Prop} (intact : Unharmed exposed early worker)
    (running : worker.crashed = false)
    (closed : worker.phase = .dormant ∨ worker.phase = .failed)
    (outcomes : List Outcome) (noThread : Option Errno) :
    Unharmed exposed' early' (worker.reopen outcomes noThread) := by
  have spec : wp cowReopen
      (fun _ after => (after.cm.sects.isSome = true ∧ Dirty after.file) ∧ worker.phase ≠ .failed)
      (fun _ after => after.file = worker.cow.file) { worker.cow with outcomes } := by
    rcases closed with dormant | failed
    · have opened : wp cowReopen _ _ { worker.cow with outcomes } :=
        wp_and cowReopen_spec reopen_dirties
      refine wp_mono opened ?_ (fun _ _ stopped => stopped.2)
      intro _ after both
      obtain ⟨⟨file, rest, _, _, _, same⟩, dirty⟩ := both
      subst same
      exact ⟨⟨intact.resting running dormant, dirty⟩, by simp [dormant]⟩
    · exact wp_mono (reopen_of_dirty (intact.dirty running (.inr failed)))
        (fun _ _ => False.elim) (fun _ _ => id)
  unfold Worker.reopen
  split
  · rename_i cow ran
    obtain ⟨⟨array, dirty⟩, sound⟩ := wp_done spec ran
    cases noThread with
    | none => exact .fresh _ (.inl array) dirty
    | some error => exact intact.halts running (fun failed => absurd failed sound) error
  · rename_i error cow ran
    have same := wp_stopped spec ran
    exact intact.halts running (fun _ => same) error
  · refine .of_crashed rfl fun unopened => ?_
    rcases closed with dormant | failed
    · simp [dormant] at unopened
    · simp [failed] at unopened

/-- A thread that is to flush the queue of a dormant device has the array, or a failure. -/
theorem Unharmed.flushes {exposed' early' : Prop} (intact : Unharmed exposed early worker)
    (running : worker.crashed = false)
    (idle : worker.phase = .dormant ∨ worker.phase = .unopened) (starts : early')
    (hidden : ¬ exposed') (noThread : Option Errno) :
    Unharmed exposed' early' (worker.flush noThread) := by
  cases noThread with
  | some error => exact .of_crashed rfl intact.unopened
  | none =>
      refine ⟨fun _ _ _ => ?_, by simp [Worker.flush, Worker.fresh],
        by simp [Worker.flush], by simp [Worker.flush], by simp [Worker.flush]⟩
      rcases idle with dormant | unopened
      · exact .inl (intact.resting running dormant)
      · exact .inr ⟨starts, intact.unopened unopened, hidden⟩

/-- What holds of a device in incremental mode in every run. -/
structure IncIntact (device : IncDevice) : Prop where
  intact : Unharmed device.Exposed device.pc.Early device.worker
  truncating : device.truncating = true →
    device.worker.phase = .active ∧ device.worker.ending = none

variable {device next : IncDevice}

theorem IncIntact.move (inv : IncIntact device) {pc : IncPc}
    (early : device.pc.Early → pc.Early) : IncIntact { device with pc } :=
  ⟨inv.intact.weaken early id, inv.truncating⟩

theorem IncIntact.freeSset (inv : IncIntact device) (addr : Nat) :
    IncIntact (device.freeSset addr) := by
  unfold IncDevice.freeSset
  split
  · exact ⟨inv.intact.weaken (fun _ => trivial) id, inv.truncating⟩
  · exact ⟨inv.intact.crash, inv.truncating⟩

theorem Worker.run_ending {α : Type} (worker : Worker) (program : CowM α)
    (outcomes : List Outcome) : (worker.run program outcomes).1.ending = worker.ending := by
  unfold Worker.run
  split <;> rfl

/-- An enabled step of such a device does not use a manager that was freed. -/
theorem IncIntact.spared {event : IncEvent} (inv : IncIntact device)
    (taken : device.step event = some next) :
    ¬ (Freed device.worker.cow ∧ event.Uses device) := by
  intro freed
  obtain ⟨⟨_, gone⟩, uses⟩ := freed
  have bare : device.worker.cow.cm.sects.isSome ≠ true := by simp [gone]
  unfold IncDevice.step at taken
  split at taken
  · contradiction
  · rename_i running
    have running : device.worker.crashed = false := by simpa using running
    have exposed : device.worker.phase = .active → ¬ device.Exposed := by
      intro active exposed
      cases failed : device.worker.isFailed with
      | true => exact (inv.intact.failed running (.inl active) failed).2 exposed
      | false =>
          have bad := (inv.intact.unfailed running (.inl active) failed).resolve_left bare
          exact bad.2.2 exposed
    cases event with
    | thread outcomes =>
        obtain ⟨addr, sset, here, unfailed⟩ := uses
        simp only at taken
        split at taken
        · rename_i runs
          have held := (inv.intact.unfailed running runs unfailed).resolve_left bare
          rw [here] at held
          exact held.1
        · contradiction
    | truncate outcomes =>
        simp only at taken
        split at taken
        · rename_i truncating
          exact exposed (inv.truncating truncating).1 (.inl truncating)
        · contradiction
    | close outcomes =>
        have uses : device.worker.ending ≠ some .destroyed := uses
        simp only at taken
        split at taken
        · rename_i allowed
          obtain ⟨ending, chosen, _⟩ := Option.map_eq_some_iff.mp taken
          have kept : ending ≠ .destroyed := by
            intro destroyed
            rw [chosen, destroyed] at uses
            exact uses rfl
          exact exposed (allowed.1.resolve_right fun destroyed => uses destroyed.1)
            (IncDevice.exposed_of_ending chosen kept)
        · contradiction
    | makeSset sect len addr => exact uses
    | reconfigure cacheSize => exact uses
    | swap => exact uses
    | stopOld => exact uses
    | umount => exact uses
    | flush noThread => exact uses
    | destroy => exact uses
    | reopen outcomes noThread => exact uses

/-- What holds of a device in snapshot mode in every run. -/
structure SnapIntact (device : SnapDevice) : Prop where
  intact : Unharmed device.Exposed device.pc.Early device.worker
  reading : device.pc.Reads → device.worker.isFailed = false

variable {snap snap' : SnapDevice}

theorem SnapIntact.move (inv : SnapIntact snap) {pc : SnapPc} (early : snap.pc.Early → pc.Early)
    (idle : ¬ pc.Reads) : SnapIntact { snap with pc } :=
  ⟨inv.intact.weaken early id, fun reads => absurd reads idle⟩

theorem SnapIntact.runs {α : Type} {program : CowM α} (inv : SnapIntact snap)
    (late : ¬ snap.pc.Early) (steady : Steady program) (outcomes : List Outcome) {early : Prop} :
    Unharmed snap.Exposed early (snap.worker.run program outcomes).1 ∧
      ((snap.worker.run program outcomes).1.ending = some .dormant ↔ snap.Exposed) := by
  have intact := inv.intact.runs steady outcomes
  refine ⟨intact.weaken (fun early => absurd early late) id, ?_⟩
  rw [snap.worker.run_ending program outcomes]
  exact Iff.rfl

theorem SnapIntact.spared {event : SnapEvent} (inv : SnapIntact snap)
    (taken : snap.step event = some snap') : ¬ (Freed snap.worker.cow ∧ event.Uses snap) := by
  intro freed
  obtain ⟨⟨_, gone⟩, uses⟩ := freed
  have bare : snap.worker.cow.cm.sects.isSome ≠ true := by simp [gone]
  unfold SnapDevice.step at taken
  split at taken
  · contradiction
  · rename_i running
    have running : snap.worker.crashed = false := by simpa using running
    have checked : snap.worker.Runs → snap.worker.isFailed = false → snap.pc.Early := by
      intro runs unfailed
      exact ((inv.intact.unfailed running runs unfailed).resolve_left bare).1
    cases event with
    | thread outcomes =>
        simp only at taken
        split at taken
        · rename_i runs
          have checked := checked runs
          unfold SnapEvent.Uses at uses
          cases here : snap.pc with
          | handleWrite bio =>
              rw [here] at uses checked
              exact checked uses
          | readMode bio =>
              rw [here] at uses checked
              exact checked uses
          | readOverlay bio mode data =>
              have unfailed := inv.reading (by rw [here]; trivial)
              rw [here] at checked
              exact checked unfailed
          | _ =>
              rw [here] at uses
              exact uses
        · contradiction
    | close outcomes =>
        have uses : snap.worker.ending ≠ some .destroyed := uses
        simp only at taken
        split at taken
        · rename_i allowed
          have active : snap.worker.Runs :=
            .inl (allowed.resolve_right fun destroyed => uses destroyed.1)
          split at taken
          · rename_i dormant
            cases failed : snap.worker.isFailed with
            | true => exact (inv.intact.failed running active failed).2 dormant
            | false =>
                have bad := (inv.intact.unfailed running active failed).resolve_left bare
                exact bad.2.2 dormant
          · rename_i destroyed
            exact uses destroyed
          · contradiction
        · contradiction
    | _ => exact uses

namespace Tracer

/-- A device whose thread was just created for a manager with its array, on a file that was
marked as dirty. -/
inductive Opens : Tracer → Prop
  | snap {cow : CowState} : cow.cm.sects.isSome = true → Dirty cow.file →
      Opens (.snap (.start cow))
  | inc {cow : CowState} {sectOff : Nat} : cow.cm.sects.isSome = true → Dirty cow.file →
      Opens (.inc (.start cow sectOff false))

def Uses (tracer : Tracer) (event : TracerEvent) : Prop :=
  match tracer, event with
  | .inc device, .inc event => event.Uses device
  | .snap device, .snap event => event.Uses device
  | _, _ => False

/-- No thread notices a failure while the manager is to be closed or truncated by the
transition that waits for it, or runs beside it. -/
def Careful (tracer : Tracer) (event : TracerEvent) : Prop :=
  match tracer, event with
  | .inc device, .inc event => event.Careful device
  | .snap device, .snap event => event.Careful device
  | _, _ => True

end Tracer

variable {start tracer after : Tracer}

instance (cow : CowState) : Decidable (Freed cow) := inferInstanceAs (Decidable (_ ∧ _))

instance (device : IncDevice) : Decidable device.Exposed :=
  inferInstanceAs (Decidable (_ ∨ _ ∨ _))

instance (device : SnapDevice) : Decidable device.Exposed :=
  inferInstanceAs (Decidable (_ = _))

instance (device : IncDevice) (event : IncEvent) : Decidable (event.Careful device) :=
  match event with
  | .thread _ => inferInstanceAs (Decidable (_ → _ → _ → _))
  | .makeSset _ _ _ | .reconfigure _ | .truncate _ | .swap | .stopOld | .umount | .flush _
  | .destroy | .close _ | .reopen _ _ => .isTrue trivial

instance (pc : SnapPc) : Decidable (pc = .readFail) :=
  match pc with
  | .readFail => .isTrue rfl
  | .testStop | .testQueue | .testSubmitted | .testReceived _ | .waitEvent | .testEmpty | .dequeue
  | .handleWrite _ | .readMode _ | .readBase _ _ | .readOverlay _ _ _ | .exited =>
      .isFalse (by simp)

theorem SnapEvent.careful_thread {device : SnapDevice} (outcomes : List Outcome) :
    (SnapEvent.thread outcomes).Careful device ↔
      (device.pc = .readFail → device.worker.isFailed = false → device.Exposed →
        device.worker.failCode = none) := by
  unfold SnapEvent.Careful
  cases device.pc <;> simp

instance (device : SnapDevice) (event : SnapEvent) : Decidable (event.Careful device) :=
  match event with
  | .thread outcomes =>
      decidable_of_iff (device.pc = .readFail → device.worker.isFailed = false → device.Exposed →
        device.worker.failCode = none) (SnapEvent.careful_thread outcomes).symm
  | .addBio _ | .submit | .receive | .fail _ | .serve _ | .reconfigure _ | .swap | .stopOld
  | .umount | .flush _ | .destroy | .close _ | .reopen _ _ => .isTrue trivial

instance (tracer : Tracer) (event : TracerEvent) : Decidable (tracer.Careful event) :=
  match tracer, event with
  | .inc device, .inc event => inferInstanceAs (Decidable (event.Careful device))
  | .snap device, .snap event => inferInstanceAs (Decidable (event.Careful device))
  | .inc _, .snap _ | .inc _, .toInc _ | .snap _, .inc _ | .snap _, .toInc _ => .isTrue trivial

end Moocbt.Device
