import Moocbt.Device.IncGuard
import Moocbt.Device.IncSession
import Moocbt.Device.SnapGuard

/-! A device in either mode, through the transitions that close its file. -/

namespace Moocbt.Device

open Cow Program WriteOnce

inductive Tracer where
  | inc (device : IncDevice)
  | snap (device : SnapDevice)

/-- A step of the device, or the end of `tracer_active_snap_to_inc` for a snapshot
whose thread has stopped. -/
inductive TracerEvent where
  | inc (event : IncEvent)
  | snap (event : SnapEvent)
  | toInc (sectOff : Nat)

/-- The state `__tracer_setup_snap_cow_thread` starts from. -/
def SnapDevice.start (cow : CowState) : SnapDevice where
  worker := .fresh cow none
  pc := .testStop
  bios := []
  submitted := 0
  received := 0
  taken := []
  handled := []
  dropped := []
  served := []

/-- The device that takes over the manager, with the fail code of the old one. What
writers queued before the thread begins is queued after this step: nothing reads the
queue in between. -/
def SnapDevice.toInc (device : SnapDevice) (sectOff : Nat) : IncDevice where
  worker := .fresh device.worker.cow device.worker.failCode
  pc := .testStop
  ssets := .empty
  sectOff
  tracing := true
  truncating := device.worker.failCode.isNone
  inherited := device.taken.flatMap WriteBio.blocks
  queued := []
  taken := []
  handled := []
  dropped := []

namespace Tracer

def worker : Tracer → Worker
  | .inc device => device.worker
  | .snap device => device.worker

def step : Tracer → TracerEvent → Option Tracer
  | .inc device, .inc event => (device.step event).map .inc
  | .snap device, .snap event => (device.step event).map .snap
  | .snap device, .toInc sectOff =>
      if device.worker.crashed then none
      else if device.worker.phase = .active ∧ device.worker.ending = some .replaced then
        match device.pc with
        | .exited => some (.inc (device.toInc sectOff))
        | _ => none
      else none
  | _, _ => none

/-- The start of a device: in snapshot mode on a store with that content, or in
incremental mode, on a file that was marked as dirty. -/
inductive Begins (elements : Nat) (content : Nat → Option (Nat → Nat)) : Tracer → Prop
  | snap {cow : CowState} : Live elements cow → Stores elements content cow → Dirty cow.file →
      Begins elements content (.snap (.start cow))
  | inc {cow : CowState} {sectOff : Nat} : Live elements cow → Dirty cow.file →
      Begins elements content (.inc (.start cow sectOff false))

/-- Everything that was taken off the queue is on the file: in incremental mode each
block has an entry, in snapshot mode the entry names the position of the data that was
captured first. -/
def Applied (content : Nat → Option (Nat → Nat)) (file : Option CowFile) : Tracer → Prop
  | .inc device =>
      MarkedOnFile (device.inherited ++ device.taken.flatMap SectorSet.blocks) file
  | .snap device => ∀ bio ∈ device.taken, ∀ block ∈ bio.blocks, ∃ data,
      recordAll content (device.taken.flatMap WriteBio.captures) block = some data ∧
      fileWord file (headerWords + block) ≠ 0 ∧ ∀ word < blockWords,
        fileWord file (fileWord file (headerWords + block) * blockWords + word) = data word

/-- The file is only closed as clean after no handler failed, or once the thread has
noticed the failure, and nothing is taken off the queue of a dormant device to flush it,
unless its file is dirty or gone. -/
def Noticed (tracer : Tracer) (event : TracerEvent) : Prop :=
  match tracer, event with
  | .inc device, .inc event => event.Noticed device
  | .snap device, .snap event => event.Noticed device
  | _, _ => True

end Tracer

variable {elements : Nat} {content : Nat → Option (Nat → Nat)} {start tracer next : Tracer}

inductive TracerGuard (elements : Nat) (content : Nat → Option (Nat → Nat)) : Tracer → Prop
  | inc {done : List SectorSet} {device : IncDevice} : IncGuard elements done device →
      TracerGuard elements content (.inc device)
  | snap {done : List WriteBio} {device : SnapDevice} : SnapGuard elements content done device →
      TracerGuard elements content (.snap device)

theorem Guarded.fresh {good shelf : CowState → Prop} {applied : Option CowFile → Prop}
    {early dropped : Prop} {cow : CowState} (marked : good cow) (dirty : Dirty cow.file)
    (failCode : Option Errno) :
    Guarded good shelf applied early dropped (.fresh cow failCode) where
  safe := .inl dirty
  dirty := fun _ => dirty
  freed := by simp [Worker.fresh]
  sound := fun _ _ _ => .inl marked
  resting := by simp [Worker.fresh]
  flushing := by simp [Worker.fresh]
  unopened := by simp [Worker.fresh]
  failing := by simp [Worker.fresh]

theorem begins_guard (begins : Tracer.Begins elements content tracer) :
    TracerGuard elements content tracer := by
  cases begins with
  | @snap cow live stores dirty =>
      have stored : Stored elements (recordAll content []) [] cow := ⟨live, stores, by simp⟩
      have inv : SnapGuard elements content [] (.start cow) :=
        ⟨Guarded.fresh stored dirty none, rfl, .of_active rfl, False.elim⟩
      exact .snap inv
  | @inc cow sectOff live dirty =>
      have marked : Marked elements [] cow := ⟨live, by simp⟩
      have inv : IncGuard elements [] (.start cow sectOff false) :=
        ⟨Guarded.fresh marked dirty none, rfl, .of_active rfl, by simp [IncDevice.start]⟩
      exact .inc inv

theorem WriteBio.isSome_of_mem {bios : List WriteBio} {block : Nat}
    (member : block ∈ bios.flatMap WriteBio.blocks) :
    (recordAll content (bios.flatMap WriteBio.captures) block).isSome = true := by
  rw [recordAll_isSome]
  obtain ⟨bio, found, inside⟩ := List.mem_flatMap.mp member
  obtain ⟨write, captured, same⟩ := List.mem_map.mp inside
  subst same
  exact .inr ⟨write.2, List.mem_flatMap.mpr ⟨bio, found, captured⟩⟩

/-- The blocks a snapshot captured have entries when its manager changes hands. -/
theorem toInc_guard {device : SnapDevice} {done : List WriteBio} (sectOff : Nat)
    (inv : SnapGuard elements content done device) (running : device.worker.crashed = false)
    (exited : device.pc = .exited) (active : device.worker.phase = .active) :
    IncGuard elements [] (device.toInc sectOff) := by
  have dirty := inv.guarded.dirty active
  have order := inv.order
  rw [exited] at order
  have taken : device.taken = done := order.trans (List.append_nil done)
  have required : (device.toInc sectOff).required [] = done.flatMap WriteBio.blocks := by
    unfold IncDevice.required SnapDevice.toInc
    rw [taken]
    exact List.append_nil _
  have marked : Stored elements (recordAll content (done.flatMap WriteBio.captures))
      (done.flatMap WriteBio.blocks) device.worker.cow →
      Marked elements (done.flatMap WriteBio.blocks) device.worker.cow := by
    intro stored
    obtain ⟨live, stores, covered⟩ := stored
    refine ⟨live, fun block member => ⟨covered block member, ?_⟩⟩
    exact (Stores.mapped_iff live stores (covered block member)).mpr
      (WriteBio.isSome_of_mem member)
  have failing : device.worker.failCode ≠ none →
      MarkGuard elements (done.flatMap WriteBio.blocks) True False
        (Worker.fresh device.worker.cow device.worker.failCode) := by
    intro failed
    exact ⟨.inl dirty, fun _ => dirty, by simp [Worker.fresh],
      fun _ _ _ => .inr ⟨trivial, failed, .inr (.inl rfl)⟩,
      by simp [Worker.fresh], by simp [Worker.fresh], by simp [Worker.fresh],
      by simp [Worker.fresh]⟩
  have guarded : MarkGuard elements (done.flatMap WriteBio.blocks) True False
      (Worker.fresh device.worker.cow device.worker.failCode) := by
    cases failed : device.worker.isFailed with
    | true => exact failing (inv.guarded.freed running active failed).2.2
    | false =>
        rcases inv.guarded.sound running active failed with good | bad
        · exact Guarded.fresh (marked good) dirty _
        · exact failing bad.2.1
  refine ⟨?_, rfl, .of_active rfl, fun _ => ⟨rfl, rfl⟩⟩
  rw [required]
  exact guarded.weaken (fun _ => trivial) False.elim

theorem tracer_step {event : TracerEvent} (inv : TracerGuard elements content tracer)
    (noticed : tracer.Noticed event) (taken : tracer.step event = some next) :
    TracerGuard elements content next := by
  cases inv with
  | @inc done device inv =>
      cases event with
      | inc event =>
          obtain ⟨next', ran, same⟩ := Option.map_eq_some_iff.mp taken
          subst same
          obtain ⟨done', inv'⟩ := incStep_guard inv noticed ran
          exact .inc inv'
      | snap event => contradiction
      | toInc sectOff => contradiction
  | @snap done device inv =>
      cases event with
      | inc event => contradiction
      | snap event =>
          obtain ⟨next', ran, same⟩ := Option.map_eq_some_iff.mp taken
          subst same
          obtain ⟨done', inv'⟩ := snapStep_guard inv noticed ran
          exact .snap inv'
      | toInc sectOff =>
          simp only [Tracer.step] at taken
          split at taken
          · contradiction
          · rename_i running
            split at taken
            · rename_i allowed
              split at taken
              · rename_i exited
                cases taken
                exact .inc (toInc_guard sectOff inv (by simpa using running) exited allowed.1)
              · contradiction
            · contradiction

/-- A clean file hides nothing that was taken off the queue, when no file is closed
as clean between a failed handler and the check that notices it, and the queue of a
dormant device with such a file is not flushed. -/
theorem clean_file_hides_nothing (begins : Tracer.Begins elements content start)
    (reached : Transition.Reaches Tracer.step Tracer.Noticed start tracer) {file : CowFile}
    (found : tracer.worker.cow.file = some file) (clean : Clean file) :
    tracer.Applied content (some file) := by
  have inv : TracerGuard elements content tracer :=
    reached.invariant (begins_guard begins) fun inv noticed taken => tracer_step inv noticed taken
  cases inv with
  | @inc done device inv =>
      have found : device.worker.cow.file = some file := found
      have ended : device.worker.phase ≠ .active := fun active =>
        (inv.guarded.dirty active).not_clean' found clean
      have order := inv.order
      have idle := inv.placed.empty (fun exited => .inl (by rw [exited]; rfl)) ended
      rw [idle.resolve_right fun dirty => dirty.not_clean' found clean] at order
      have taken : device.taken = done := order.trans (List.append_nil done)
      have applied := inv.guarded.safe.resolve_left fun dirty => dirty.not_clean' found clean
      rw [found, ← taken] at applied
      exact applied
  | @snap done device inv =>
      have found : device.worker.cow.file = some file := found
      have ended : device.worker.phase ≠ .active := fun active =>
        (inv.guarded.dirty active).not_clean' found clean
      have order := inv.order
      have idle := inv.placed.empty (fun exited => .inl (by rw [exited]; rfl)) ended
      rw [idle.resolve_right fun dirty => dirty.not_clean' found clean] at order
      have taken : device.taken = done := order.trans (List.append_nil done)
      have applied := inv.guarded.safe.resolve_left fun dirty => dirty.not_clean' found clean
      rw [found, ← taken] at applied
      intro bio member block inside
      have known : block ∈ device.taken.flatMap WriteBio.blocks :=
        List.mem_flatMap.mpr ⟨bio, member, inside⟩
      obtain ⟨data, present⟩ := Option.isSome_iff_exists.mp (WriteBio.isSome_of_mem known)
      obtain ⟨mapped, words⟩ := applied block known data present
      exact ⟨data, present, mapped, words⟩

instance (file : CowFile) : Decidable (Clean file) := inferInstanceAs (Decidable (_ = true))

instance (file : Option CowFile) : Decidable (Dirty file) :=
  match file with
  | none => .isTrue (by simp [Dirty])
  | some found => decidable_of_iff (¬ Clean found) (by simp [Dirty, Clean])

instance (device : IncDevice) (event : IncEvent) : Decidable (event.Noticed device) :=
  match event with
  | .close _ => inferInstanceAs (Decidable (_ ∨ _ ∨ _))
  | .thread _ => inferInstanceAs (Decidable (_ → _ → _ ∨ _))
  | .makeSset _ _ _ | .reconfigure _ | .truncate _ | .swap | .stopOld | .umount | .flush _
  | .destroy | .reopen _ _ => .isTrue trivial

instance (device : SnapDevice) (event : SnapEvent) : Decidable (event.Noticed device) :=
  match event with
  | .close _ => inferInstanceAs (Decidable (_ ∨ _ ∨ _))
  | .thread _ => inferInstanceAs (Decidable (_ → _ ∨ _))
  | .addBio _ | .submit | .receive | .fail _ | .serve _ | .reconfigure _ | .swap | .stopOld
  | .umount | .flush _ | .destroy | .reopen _ _ => .isTrue trivial

instance (tracer : Tracer) (event : TracerEvent) : Decidable (tracer.Noticed event) :=
  match tracer, event with
  | .inc device, .inc event => inferInstanceAs (Decidable (event.Noticed device))
  | .snap device, .snap event => inferInstanceAs (Decidable (event.Noticed device))
  | .inc _, .snap _ | .inc _, .toInc _ | .snap _, .inc _ | .snap _, .toInc _ => .isTrue trivial

theorem newManager_stores {size : Nat}
    (created : (cowInit (sectorToBlock size) cowSectionSize 65536 (size * 512 * 10 / 100) 0#128 1
      freshState).1 = .ok ()) :
    Stores (sectorToBlock size) (fun _ => none) (newManager size) := by
  have init := wp_done (cowInit_live _ _ _ _ _) (ran_of_reply created)
  intro block covered
  exact init.2 block ((inRange_iff_covered init.1).mpr covered)

theorem newManager_dirty {size : Nat}
    (dirty : (newManager size).file.all (fun file => ¬ Clean file) = true) :
    Dirty (newManager size).file := by
  intro file found
  rw [found] at dirty
  have unclean : ¬ Clean file := by simpa using dirty
  exact Bool.eq_false_iff.mpr unclean

/-- A bio of one block, captured with `data` in each word. -/
def oneBlock (sector data : Nat) : WriteBio := ⟨sector, [⟨cowBlockSize, fun _ => data⟩]⟩

def Tracer.takenSsets : Tracer → List SectorSet
  | .inc device => device.taken
  | .snap _ => []

/-- The thread of a snapshot handles one bio. -/
def captureOne : List TracerEvent := List.replicate 6 (.snap (.thread []))

theorem clean_file_hides_nothing_captured :
    ∃ (tracer : Tracer) (file : CowFile), tracer.worker.cow.file = some file ∧ Clean file ∧
      tracer.Applied (fun _ => none) (some file) ∧
      fileWord (some file) (headerWords + 1) ≠ 0 := by
  have live : Live (sectorToBlock 4096) (newManager 4096) := newManager_live (by decide +kernel)
  have stores : Stores (sectorToBlock 4096) (fun _ => none) (newManager 4096) :=
    newManager_stores (by decide +kernel)
  have dirty : Dirty (newManager 4096).file := newManager_dirty (by decide +kernel)
  have ran : (Transition.run (Transition.checked Tracer.step Tracer.Noticed)
      (.snap (.start (newManager 4096)))
      (.snap (.addBio (.write (oneBlock 8 7))) :: captureOne ++ [.snap .umount] ++
        List.replicate 4 (.snap (.thread [])) ++ [.snap (.close [])])).any
      (fun tracer => tracer.worker.cow.file.any fun file =>
        Clean file ∧ fileWord (some file) (headerWords + 1) ≠ 0) = true := by
    decide +kernel
  obtain ⟨tracer, reached, ended⟩ := Transition.Reaches.of_evaluated ran
  obtain ⟨file, found, holds⟩ := (Option.any_eq_true _ _).mp ended
  obtain ⟨clean, mapped⟩ := of_decide_eq_true holds
  exact ⟨tracer, file, found, clean,
    clean_file_hides_nothing (.snap live stores dirty) reached found clean, mapped⟩

/-- The last sector set fails while the thread drains its queue for an umount: the
loop ends before the failure is noticed and the file is closed as clean. -/
theorem clean_file_hides_nothing_drained :
    ∃ (tracer : Tracer) (file : CowFile), Live (sectorToBlock 4096) (newManager 4096) ∧ Dirty (newManager 4096).file ∧
      Transition.Reachable Tracer.step (.inc (.start (newManager 4096) 0 false)) tracer ∧
      tracer.worker.cow.file = some file ∧ Clean file ∧
      ¬ tracer.Applied (fun _ => none) (some file) := by
  have live : Live (sectorToBlock 4096) (newManager 4096) := newManager_live (by decide +kernel)
  have dirty : Dirty (newManager 4096).file := newManager_dirty (by decide +kernel)
  have ran : (Transition.run (Transition.checked Tracer.step fun _ _ => True)
      (.inc (.start (newManager 4096) 0 false))
      (.inc (.makeSset 8 8 (some 0)) :: List.replicate 5 (.inc (.thread [])) ++
        [.inc .umount, .inc (.thread [.fails .enomem 0])] ++
        List.replicate 2 (.inc (.thread [])) ++ [.inc (.close [])])).any
      (fun tracer => tracer.worker.cow.file.any fun file =>
        Clean file ∧ fileWord (some file) (headerWords + 1) = 0 ∧
          tracer.takenSsets = [⟨8, 8⟩]) = true := by
    decide +kernel
  obtain ⟨tracer, reached, ended⟩ := Transition.Reaches.of_evaluated ran
  obtain ⟨file, found, holds⟩ := (Option.any_eq_true _ _).mp ended
  obtain ⟨clean, unmapped, taken⟩ := of_decide_eq_true holds
  refine ⟨tracer, file, live, dirty, reached, found, clean, fun applied => ?_⟩
  cases tracer with
  | snap device => exact List.cons_ne_nil _ _ taken.symm
  | inc device =>
      have taken : device.taken = [⟨8, 8⟩] := taken
      have marked := applied 1 (by
        rw [taken]
        exact List.mem_append_right _ (by decide))
      exact marked unmapped

/-- A sector set that is queued for a dormant device is lost when the device is destroyed. -/
example : (Transition.run (Transition.checked Tracer.step fun _ _ => True)
    (.inc (.start (newManager 4096) 0 false))
    ([.inc .umount] ++ List.replicate 2 (.inc (.thread [])) ++
      [.inc (.close []), .inc (.makeSset 8 8 (some 0)), .inc (.flush none), .inc .destroy] ++
      List.replicate 9 (.inc (.thread [])) ++ [.inc (.close [])])).any
    (fun tracer => tracer.worker.cow.file.any fun file =>
      Clean file ∧ fileWord (some file) (headerWords + 1) = 0 ∧
        tracer.takenSsets = [⟨8, 8⟩]) = true := by
  decide +kernel

end Moocbt.Device
