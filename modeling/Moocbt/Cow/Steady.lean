import Moocbt.Cow.Opening

/-! What the work of a cow thread leaves alone, whether it returns or ends early:
the handle, the flags and the identity of the manager, the header on file, and a file that is
not open. -/

namespace Moocbt.Cow

open Program

variable {α β : Type}

/-- The manager without its sections, its write head and its count of changes. -/
def CowManager.identity (cm : CowManager) : CowManager :=
  { cm with sects := none, allocatedSects := 0, currPos := 0, nrChangedBlocks := 0 }

structure Alike (before after : CowState) : Prop where
  manager : after.cm.identity = before.cm.identity
  array : after.cm.sects.isSome = before.cm.sects.isSome
  header : after.file.map CowFile.header = before.file.map CowFile.header
  shut : before.cm.dfilp ≠ .opened → after.file = before.file

theorem Alike.refl (state : CowState) : Alike state state := ⟨rfl, rfl, rfl, fun _ => rfl⟩

theorem Alike.dfilp {before after : CowState} (alike : Alike before after) :
    after.cm.dfilp = before.cm.dfilp := by
  have same := congrArg CowManager.dfilp alike.manager
  exact same

theorem Alike.trans {first second third : CowState} (left : Alike first second)
    (right : Alike second third) : Alike first third where
  manager := right.manager.trans left.manager
  array := right.array.trans left.array
  header := right.header.trans left.header
  shut := by
    intro shut
    have still : second.cm.dfilp ≠ .opened := by
      rw [left.dfilp]
      exact shut
    exact (right.shut still).trans (left.shut shut)

theorem Alike.flags {before after : CowState} (alike : Alike before after) :
    after.cm.flags = before.cm.flags := by
  have same := congrArg CowManager.flags alike.manager
  exact same

theorem Alike.dirty {before after : CowState} (alike : Alike before after)
    (dirty : Dirty before.file) : Dirty after.file := by
  intro found same
  have headers := alike.header
  rw [same] at headers
  obtain ⟨file, stored, header⟩ := Option.map_eq_some_iff.mp headers.symm
  rw [← header]
  exact dirty file stored

def Steady (program : CowM α) : Prop :=
  ∀ state, wp program (fun _ after => Alike state after) (fun _ after => Alike state after) state

theorem Steady.run {program : CowM α} (steady : Steady program) (state : CowState) :
    Alike state (program state).2 := wp_always (steady state)

theorem Steady.pure (value : α) : Steady (pure value) := Alike.refl

theorem Steady.stop (reason : Stop) : Steady (stop reason : CowM α) := Alike.refl

theorem Steady.getCm : Steady getCm := Alike.refl

theorem Steady.updateCm {change : CowManager → CowManager}
    (manager : ∀ cm, (change cm).identity = cm.identity)
    (array : ∀ cm, (change cm).sects.isSome = cm.sects.isSome) : Steady (updateCm change) :=
  fun state => ⟨manager state.cm, array state.cm, rfl, fun _ => rfl⟩

/-- What is written to an open file is not in its header. -/
theorem wp_updateFile_alike {state : CowState} {change : CowFile → CowFile}
    (opened : state.cm.dfilp = .opened) (header : ∀ file, (change file).header = file.header) :
    wp (updateFile change) (fun _ after => Alike state after) (fun _ after => Alike state after)
      state := by
  refine ⟨rfl, rfl, ?_, fun shut => absurd opened shut⟩
  change (state.file.map change).map CowFile.header = state.file.map CowFile.header
  cases state.file with
  | none => rfl
  | some file => exact congrArg some (header file)

theorem Steady.bind {program : CowM α} {next : α → CowM β} (first : Steady program)
    (second : ∀ value, Steady (next value)) : Steady (program >>= next) := by
  intro state
  rw [wp_bind]
  refine wp_mono (first state) ?_ (fun _ _ => id)
  intro value middle alike
  exact wp_mono (second value middle) (fun _ _ later => alike.trans later)
    fun _ _ later => alike.trans later

theorem Steady.when {program : CowM Unit} (condition : Bool) (inner : Steady program) :
    Steady (when condition program) := by
  unfold Program.when
  split
  · exact inner
  · exact .pure ()

theorem Steady.ite {left right : CowM α} (condition : Prop) [Decidable condition]
    (first : Steady left) (second : Steady right) :
    Steady (if condition then left else right) := by
  split
  · exact first
  · exact second

theorem Steady.onErrno {program : CowM α} {cleanup : CowM Unit} (inner : Steady program)
    (after : Steady cleanup) : Steady (onErrno program cleanup) := by
  intro state
  rw [wp_onErrno]
  refine wp_mono (inner state) (fun _ _ => id) ?_
  intro reason middle alike
  cases reason with
  | errno error =>
      exact wp_mono (after middle) (fun _ _ later => alike.trans later) fun _ _ later =>
        alike.trans later
  | oops => exact alike
  | crash => exact alike

theorem Steady.nextOutcome : Steady nextOutcome := by
  intro state
  unfold wp Cow.nextOutcome
  cases state.outcomes with
  | nil => exact .refl state
  | cons outcome rest => exact ⟨rfl, rfl, rfl, fun _ => rfl⟩

theorem Steady.allocate : Steady allocate := by
  refine .bind .nextOutcome fun outcome => ?_
  cases outcome with
  | succeeds => exact .pure ()
  | fails error written => exact .stop _
  | crashes => exact .stop _

/-- A transfer, each part of which only has to be steady where the file is open. -/
theorem Steady.fileIo {failed : Nat → CowM Unit} {transfer : CowFile → CowM α}
    (partly : ∀ written, ∀ state : CowState, state.cm.dfilp = .opened →
      wp (failed written) (fun _ after => Alike state after) (fun _ after => Alike state after)
        state)
    (inner : ∀ file, ∀ state : CowState, state.cm.dfilp = .opened →
      wp (transfer file) (fun _ after => Alike state after) (fun _ after => Alike state after)
        state) :
    Steady (fileIo failed transfer) := by
  intro state
  unfold Cow.fileIo
  rw [wp_bind, wp_read]
  cases here : state.cm.dfilp with
  | null => exact .refl state
  | errPtr => exact .refl state
  | opened =>
      simp only
      rw [wp_bind]
      refine wp_mono (Steady.nextOutcome state) ?_ (fun _ _ => id)
      intro outcome middle alike
      have opened : middle.cm.dfilp = .opened := alike.dfilp.trans here
      cases outcome with
      | succeeds =>
          simp only
          cases state.file with
          | none => exact alike
          | some file =>
              exact wp_mono (inner file middle opened) (fun _ _ => alike.trans)
                fun _ _ => alike.trans
      | fails error written =>
          simp only
          rw [wp_bind]
          exact wp_mono (partly written middle opened) (fun _ _ => alike.trans)
            fun _ _ => alike.trans
      | crashes => exact alike

theorem Steady.sectAt (idx : Nat) : Steady (sectAt idx) := by
  refine .bind .getCm fun cm => ?_
  cases cm.sects with
  | none => exact .stop _
  | some sects => exact .ite _ (.pure _) (.stop _)

theorem Steady.sectMappings (idx : Nat) : Steady (sectMappings idx) := by
  refine .bind (.sectAt idx) fun sect => ?_
  cases sect.mappings with
  | none => exact .stop _
  | some mappings => exact .pure _

theorem Steady.updateSect (idx : Nat) (change : CowSection → CowSection) :
    Steady (updateSect idx change) := by
  have both : ∀ cm : CowManager, (cm.setSect idx change).identity = cm.identity ∧
      (cm.setSect idx change).sects.isSome = cm.sects.isSome := by
    intro cm
    cases found : cm.sects with
    | none =>
        unfold CowManager.setSect
        rw [found]
        exact ⟨rfl, congrArg Option.isSome found⟩
    | some sects =>
        rw [CowManager.setSect_some found]
        exact ⟨rfl, rfl⟩
  exact .updateCm (fun cm => (both cm).1) fun cm => (both cm).2

theorem writeWords_header (file : CowFile) (start count : Nat) (data : Nat → Nat) :
    (file.writeWords start count data).header = file.header := rfl

theorem Steady.fileRead (start count : Nat) : Steady (fileRead start count) :=
  .fileIo (fun _ state _ => Steady.pure () state) fun _ state _ =>
    Steady.ite _ (.pure _) (.stop _) state

theorem Steady.fileWrite (start count : Nat) (data : Nat → Nat) :
    Steady (fileWrite start count data) :=
  .fileIo (fun _ _ opened => wp_updateFile_alike opened fun _ => writeWords_header ..)
    fun _ _ opened => wp_updateFile_alike opened fun _ => writeWords_header ..

theorem Steady.cowAllocSection (idx : Nat) : Steady (cowAllocSection idx) :=
  .bind (.sectAt idx) fun _ => .bind .allocate fun _ =>
    .bind (.updateSect _ _) fun _ => .updateCm (fun _ => rfl) fun _ => rfl

theorem Steady.cowFreeSection (idx : Nat) : Steady (cowFreeSection idx) :=
  .bind (.updateSect _ _) fun _ => .updateCm (fun _ => rfl) fun _ => rfl

theorem Steady.cowLoadSection (idx : Nat) : Steady (cowLoadSection idx) :=
  .onErrno
    (.bind (.cowAllocSection idx) fun _ => .bind .getCm fun _ =>
      .bind (.fileRead _ _) fun _ => .updateSect _ _)
    (.bind (.sectAt idx) fun _ => .when _ (.cowFreeSection idx))

theorem Steady.cowWriteSection (idx : Nat) : Steady (cowWriteSection idx) :=
  .bind .getCm fun _ => .bind (.sectMappings idx) fun _ => .fileWrite _ _ _

theorem Steady.cowSyncSection (thresh idx : Nat) : Steady (cowSyncSection thresh idx) :=
  .bind (.sectAt idx) fun _ =>
    .bind (.when _ (.bind (.cowWriteSection idx) fun _ => .cowFreeSection idx)) fun _ =>
      .updateSect _ _

theorem Steady.cowSyncSections (thresh remaining idx : Nat) :
    Steady (cowSyncSections thresh remaining idx) := by
  induction remaining generalizing idx with
  | zero => exact .pure ()
  | succ remaining ih =>
      exact .bind .getCm fun _ =>
        .when _ (.bind (.cowSyncSection thresh idx) fun _ => ih (idx + 1))

theorem Steady.cowEvict : Steady cowEvict := by
  refine .bind .getCm fun _ => .when _ (.bind .getCm fun cm => ?_)
  cases cm.sects with
  | none => exact .stop _
  | some sects => exact .bind .getCm fun _ => .cowSyncSections _ _ _

theorem Steady.cowReadMapping (pos : Nat) : Steady (cowReadMapping pos) :=
  .bind .getCm fun _ => .bind (.sectAt _) fun _ => .bind (.updateSect _ _) fun _ =>
    .ite _ (.pure 0) (.bind (.when _ (.cowLoadSection _)) fun _ =>
      .bind (.sectMappings _) fun _ => .bind .cowEvict fun _ => .pure _)

theorem Steady.cowWriteMapping (pos val : Nat) : Steady (cowWriteMapping pos val) :=
  .bind .getCm fun _ => .bind (.sectAt _) fun _ => .bind (.updateSect _ _) fun _ =>
    .bind (.when _ (.ite _ (.cowLoadSection _) (.cowAllocSection _))) fun _ =>
      .bind (.sectMappings _) fun _ => .bind (.updateCm (fun _ => rfl) fun _ => rfl) fun _ =>
        .bind (.updateSect _ _) fun _ => .cowEvict

theorem Steady.cowWriteData (buf : Nat → Nat) : Steady (cowWriteData buf) :=
  .bind .getCm fun _ => .ite _ (.stop _) (.bind (.fileWrite _ _ _) fun _ =>
    .updateCm (fun _ => rfl) fun _ => rfl)

theorem Steady.cowWriteCurrent (block : Nat) (buf : Nat → Nat) :
    Steady (cowWriteCurrent block buf) :=
  .bind (.cowReadMapping block) fun _ => .ite _ (.pure ())
    (.bind .getCm fun _ => .bind (.cowWriteMapping block _) fun _ => .cowWriteData buf)

theorem Steady.cowReadData (blockPos blockOff len : Nat) :
    Steady (cowReadData blockPos blockOff len) := .ite _ (.stop _) (.fileRead _ _)

end Moocbt.Cow
