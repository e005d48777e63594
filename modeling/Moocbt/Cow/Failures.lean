import Moocbt.Cow.Rules

/-! An access to the index that returns met no failure: every allocation and file
operation it made has succeeded. -/

namespace Moocbt.Cow

open Program

variable {α β : Type}

/-- The outcomes used up between two states all were successes. -/
def Spent (before after : CowState) : Prop :=
  ∃ used, before.outcomes = used ++ after.outcomes ∧ ∀ outcome ∈ used, outcome = .succeeds

theorem Spent.of_same {before after : CowState} (same : after.outcomes = before.outcomes) :
    Spent before after := ⟨[], by rw [same]; rfl, by simp⟩

theorem Spent.trans {first second third : CowState} (left : Spent first second)
    (right : Spent second third) : Spent first third := by
  obtain ⟨used, before, fine⟩ := left
  obtain ⟨used', before', fine'⟩ := right
  refine ⟨used ++ used', by rw [before, before', List.append_assoc], ?_⟩
  intro outcome member
  rcases List.mem_append.mp member with first | second
  · exact fine outcome first
  · exact fine' outcome second

/-- A program that returns only when nothing it tried has failed. -/
def Reports (program : CowM α) : Prop :=
  ∀ state, wp program (fun _ after => Spent state after) (fun _ _ => True) state

theorem Reports.pure (value : α) : Reports (pure value) := fun _ => .of_same rfl

theorem Reports.stop (reason : Stop) : Reports (stop reason : CowM α) := fun _ => trivial

theorem Reports.getCm : Reports getCm := fun _ => .of_same rfl

theorem Reports.updateCm (change : CowManager → CowManager) : Reports (updateCm change) :=
  fun _ => .of_same rfl

theorem Reports.updateFile (change : CowFile → CowFile) : Reports (updateFile change) :=
  fun _ => .of_same rfl

theorem Reports.bind {program : CowM α} {next : α → CowM β} (first : Reports program)
    (second : ∀ value, Reports (next value)) : Reports (program >>= next) := by
  intro state
  rw [wp_bind]
  refine wp_mono (first state) ?_ (fun _ _ _ => trivial)
  intro value middle spent
  exact wp_mono (second value middle) (fun _ _ spent' => spent.trans spent') (fun _ _ => id)

theorem Reports.when {program : CowM Unit} (condition : Bool) (inner : Reports program) :
    Reports (when condition program) := by
  unfold Program.when
  split
  · exact inner
  · exact .pure ()

theorem Reports.ite {left right : CowM α} (condition : Prop) [Decidable condition]
    (first : Reports left) (second : Reports right) :
    Reports (if condition then left else right) := by
  split
  · exact first
  · exact second

theorem Reports.onErrno {program : CowM α} (inner : Reports program) (cleanup : CowM Unit) :
    Reports (onErrno program cleanup) := by
  intro state
  rw [wp_onErrno]
  refine wp_mono (inner state) (fun _ _ => id) ?_
  intro reason middle _
  cases reason with
  | errno error => exact wp_true cleanup middle
  | oops => trivial
  | crash => trivial

/-- The outcome decides: only a success goes on. -/
theorem Reports.outcome {next : Outcome → CowM α} (succeeds : Reports (next .succeeds))
    (fails : ∀ error written state, wp (next (.fails error written)) (fun _ _ => False)
      (fun _ _ => True) state)
    (crashes : ∀ state, wp (next .crashes) (fun _ _ => False) (fun _ _ => True) state) :
    Reports (nextOutcome >>= next) := by
  intro state
  rw [wp_bind]
  unfold wp nextOutcome
  cases queued : state.outcomes with
  | nil =>
      have inner := succeeds state
      exact inner
  | cons outcome rest =>
      cases outcome with
      | succeeds =>
          refine wp_mono (succeeds { state with outcomes := rest }) ?_ (fun _ _ => id)
          rintro _ after ⟨used, before, fine⟩
          refine ⟨.succeeds :: used, ?_, ?_⟩
          · rw [queued]
            exact congrArg (List.cons _) before
          · intro outcome member
            rcases List.mem_cons.mp member with rfl | member
            · rfl
            · exact fine outcome member
      | fails error written =>
          exact wp_mono (fails error written _) (fun _ _ => False.elim) (fun _ _ => id)
      | crashes => exact wp_mono (crashes _) (fun _ _ => False.elim) (fun _ _ => id)

theorem Reports.allocate : Reports allocate :=
  .outcome (.pure ()) (fun _ _ _ => trivial) (fun _ => trivial)

theorem Reports.fileIo {failed : Nat → CowM Unit} {transfer : CowFile → CowM α}
    (inner : ∀ file, Reports (transfer file)) : Reports (fileIo failed transfer) := by
  intro state
  unfold Cow.fileIo
  rw [wp_bind, wp_read]
  cases state.cm.dfilp with
  | null => trivial
  | errPtr => trivial
  | opened =>
      refine Reports.outcome ?_ ?_ ?_ state
      · simp only
        cases state.file with
        | none => exact .stop _
        | some file => exact inner file
      · intro error written middle
        simp only [wp_bind, wp_stop]
        exact wp_true (failed written) middle
      · intro middle
        trivial

theorem Reports.sectAt (idx : Nat) : Reports (sectAt idx) := by
  refine .bind .getCm fun cm => ?_
  cases cm.sects with
  | none => exact .stop _
  | some sects => exact .ite _ (.pure _) (.stop _)

theorem Reports.sectMappings (idx : Nat) : Reports (sectMappings idx) := by
  refine .bind (.sectAt idx) fun sect => ?_
  cases sect.mappings with
  | none => exact .stop _
  | some mappings => exact .pure _

theorem Reports.fileRead (start count : Nat) : Reports (fileRead start count) :=
  .fileIo fun _ => .ite _ (.pure _) (.stop _)

theorem Reports.fileWrite (start count : Nat) (data : Nat → Nat) :
    Reports (fileWrite start count data) := .fileIo fun _ => .updateFile _

theorem Reports.cowAllocSection (idx : Nat) : Reports (cowAllocSection idx) :=
  .bind (.sectAt idx) fun _ => .bind .allocate fun _ =>
    .bind (.updateCm _) fun _ => .updateCm _

theorem Reports.cowLoadSection (idx : Nat) : Reports (cowLoadSection idx) :=
  .onErrno
    (.bind (.cowAllocSection idx) fun _ => .bind .getCm fun _ =>
      .bind (.fileRead _ _) fun _ => .updateCm _) _

theorem Reports.cowFreeSection (idx : Nat) : Reports (cowFreeSection idx) :=
  .bind (.updateCm _) fun _ => .updateCm _

theorem Reports.cowWriteSection (idx : Nat) : Reports (cowWriteSection idx) :=
  .bind .getCm fun _ => .bind (.sectMappings idx) fun _ => .fileWrite _ _ _

theorem Reports.cowSyncSection (thresh idx : Nat) : Reports (cowSyncSection thresh idx) :=
  .bind (.sectAt idx) fun _ =>
    .bind (.when _ (.bind (.cowWriteSection idx) fun _ => .cowFreeSection idx)) fun _ =>
      .updateCm _

theorem Reports.cowSyncSections (thresh remaining idx : Nat) :
    Reports (cowSyncSections thresh remaining idx) := by
  induction remaining generalizing idx with
  | zero => exact .pure ()
  | succ remaining ih =>
      exact .bind .getCm fun _ =>
        .when _ (.bind (.cowSyncSection thresh idx) fun _ => ih (idx + 1))

theorem Reports.cowEvict : Reports cowEvict := by
  refine .bind .getCm fun _ => .when _ (.bind .getCm fun cm => ?_)
  cases cm.sects with
  | none => exact .stop _
  | some sects => exact .bind .getCm fun _ => .cowSyncSections _ _ _

theorem Reports.cowReadMapping (pos : Nat) : Reports (cowReadMapping pos) :=
  .bind .getCm fun _ => .bind (.sectAt _) fun _ => .bind (.updateCm _) fun _ =>
    .ite _ (.pure 0) (.bind (.when _ (.cowLoadSection _)) fun _ =>
      .bind (.sectMappings _) fun _ => .bind .cowEvict fun _ => .pure _)

theorem Reports.cowWriteMapping (pos val : Nat) : Reports (cowWriteMapping pos val) :=
  .bind .getCm fun _ => .bind (.sectAt _) fun _ => .bind (.updateCm _) fun _ =>
    .bind (.when _ (.ite _ (.cowLoadSection _) (.cowAllocSection _))) fun _ =>
      .bind (.sectMappings _) fun _ => .bind (.updateCm _) fun _ =>
        .bind (.updateCm _) fun _ => .cowEvict

theorem Reports.cowWriteData (buf : Nat → Nat) : Reports (cowWriteData buf) :=
  .bind .getCm fun _ => .ite _ (.stop _) (.bind (.fileWrite _ _ _) fun _ => .updateCm _)

theorem Reports.cowWriteCurrent (block : Nat) (buf : Nat → Nat) :
    Reports (cowWriteCurrent block buf) :=
  .bind (.cowReadMapping block) fun _ => .ite _ (.pure ())
    (.bind .getCm fun _ => .bind (.cowWriteMapping block _) fun _ => .cowWriteData buf)

theorem Reports.cowTruncateToIndex : Reports cowTruncateToIndex := by
  refine .bind (.updateCm _) fun _ => .bind .getCm fun _ => .bind ?_ fun _ => .updateCm _
  refine .bind .getCm fun cm => ?_
  cases cm.dfilp with
  | null => exact .stop _
  | errPtr => exact .stop _
  | opened => exact .outcome (.updateFile _) (fun _ _ _ => trivial) (fun _ => trivial)

end Moocbt.Cow
