import Moocbt.Cow.Index

/-! Rules for the primitives: one for each way the manager touches memory or the
file. The later proofs use these and do not unfold the primitives. -/

namespace Moocbt.Cow

open Program

variable {α : Type} {state : CowState} {sects : Nat → CowSection} {idx : Nat}
variable {stopped : Stop → CowState → Prop}

/-- `rest` can be what the outcomes of `state` leave: nothing when there are none. -/
def Leaves (state : CowState) (rest : List Outcome) : Prop := state.outcomes = [] → rest = []

theorem wp_nextOutcome {done : Outcome → CowState → Prop}
    (each : ∀ outcome rest, (state.outcomes = [] → outcome = .succeeds) → Leaves state rest →
      done outcome { state with outcomes := rest }) :
    wp nextOutcome done stopped state := by
  unfold wp nextOutcome
  cases queued : state.outcomes with
  | nil =>
      have kept := each .succeeds [] (fun _ => rfl) (fun _ => rfl)
      rw [← queued] at kept
      exact kept
  | cons outcome rest =>
      exact each outcome rest (fun none => by simp [queued] at none)
        (fun none => by simp [queued] at none)

theorem wp_getCm {done : CowManager → CowState → Prop} :
    wp getCm done stopped state ↔ done state.cm state := Iff.rfl

theorem wp_updateCm {done : Unit → CowState → Prop} (change : CowManager → CowManager) :
    wp (updateCm change) done stopped state ↔
      done () { state with cm := change state.cm } := Iff.rfl

theorem wp_sectAt {s : CowState} {done : CowSection → CowState → Prop} (found : s.cm.sects = some sects)
    (bounded : idx < s.cm.totalSects) :
    wp (sectAt idx) done stopped s ↔ done (sects idx) s := by
  simp only [sectAt, wp_bind, wp_getCm, found, if_pos bounded, wp_pure]

theorem wp_sectMappings {s : CowState} {done : (Nat → Nat) → CowState → Prop}
    (found : s.cm.sects = some sects) (bounded : idx < s.cm.totalSects)
    {mappings : Nat → Nat} (cached : (sects idx).mappings = some mappings) :
    wp (sectMappings idx) done stopped s ↔ done mappings s := by
  simp only [sectMappings, wp_bind, wp_sectAt found bounded, cached, wp_pure]

/-- An access outside the array stops the program where it is. -/
theorem wp_sectAt_invalid {done : CowSection → CowState → Prop}
    (invalid : state.cm.sects = none ∨ ¬ idx < state.cm.totalSects) :
    wp (sectAt idx) done stopped state ↔ stopped .oops state := by
  rcases invalid with gone | outside
  · simp only [sectAt, wp_bind, wp_getCm, gone, wp_stop]
  · cases found : state.cm.sects with
    | none => simp only [sectAt, wp_bind, wp_getCm, found, wp_stop]
    | some sects => simp only [sectAt, wp_bind, wp_getCm, found, if_neg outside, wp_stop]

theorem wp_updateSect {s : CowState} {done : Unit → CowState → Prop} (found : s.cm.sects = some sects)
    (change : CowSection → CowSection) :
    wp (updateSect idx change) done stopped s ↔
      done ()
        { s with
          cm := { s.cm with
            sects := some (Function.update sects idx (change (sects idx))) } } := by
  simp only [updateSect, wp_updateCm, CowManager.setSect_some found]

theorem wp_allocate {done : Unit → CowState → Prop}
    (ok : ∀ rest, Leaves state rest → done () { state with outcomes := rest })
    (bad : ∀ reason rest, reason ≠ .oops → state.outcomes ≠ [] →
      stopped reason { state with outcomes := rest }) :
    wp allocate done stopped state := by
  unfold allocate
  rw [wp_bind]
  apply wp_nextOutcome
  intro outcome rest certain leaves
  cases outcome with
  | succeeds => exact ok rest leaves
  | fails error written =>
      exact bad (.errno .enomem) rest (by simp) (fun none => by simpa using certain none)
  | crashes => exact bad .crash rest (by simp) (fun none => by simpa using certain none)

theorem wp_onErrno {done : α → CowState → Prop} (program : CowM α) (cleanup : CowM Unit) :
    wp (onErrno program cleanup) done stopped state ↔
      wp program done
        (fun reason middle =>
          match reason with
          | .errno error =>
              wp cleanup (fun _ after => stopped (.errno error) after) stopped middle
          | reason => stopped reason middle) state := by
  unfold onErrno
  rw [wp_handle]
  constructor <;>
  · intro holds
    refine wp_mono holds (fun _ _ => id) ?_
    intro reason after
    cases reason <;> simp [wp_bind, wp_stop]

/-- A cleanup that keeps what every stop leaves. -/
theorem onErrno_keeps {inv : CowState → Prop} {cleanup : CowM Unit} {reason : Stop}
    (cleans : ∀ {middle : CowState}, inv middle →
      wp cleanup (fun _ after => inv after) (fun _ after => inv after) middle) (holds : inv state) :
    match reason with
    | .errno _ => wp cleanup (fun _ after => inv after) (fun _ after => inv after) state
    | _ => inv state := by
  cases reason with
  | errno error => exact cleans holds
  | oops => exact holds
  | crash => exact holds

theorem Leaves.of_failure (failure : state.outcomes ≠ []) (rest : List Outcome) :
    Leaves state rest := fun none => absurd none failure

/-- Why an operation on a file of `size` bytes or more may stop. -/
structure FileExcuse (state : CowState) (size : Nat) (reason : Stop) : Prop where
  invalid : reason = .oops → state.cm.dfilp = .errPtr
  failure : state.cm.dfilp = .opened →
    (∃ file, state.file = some file ∧ size ≤ file.size) → state.outcomes ≠ []

theorem FileExcuse.of_failure {size : Nat} {reason : Stop} (valid : reason ≠ .oops)
    (failure : state.outcomes ≠ []) : FileExcuse state size reason :=
  ⟨fun oops => absurd oops valid, fun _ _ => failure⟩

theorem FileExcuse.excuse {size : Nat} {reason : Stop} (excuse : FileExcuse state size reason)
    (large : size ≤ state.cm.dataOffset) : Excuse state reason := by
  refine ⟨fun oops => .inl (excuse.invalid oops), ?_⟩
  intro ready
  obtain ⟨file, found, enough⟩ := ready.file
  exact excuse.failure ready.opened ⟨file, found, Nat.le_trans large enough⟩

/-- The file operations: what stops before the transfer leaves only the outcomes
changed, and what the transfer leaves when it fails is `left`. -/
theorem wp_fileIo {failed : Nat → CowM Unit} {transfer : CowFile → CowM α}
    {done : α → CowState → Prop} {left : CowState → Prop} (size : Nat)
    (unchanged : ∀ rest, Leaves state rest → left { state with outcomes := rest })
    (failure : ∀ written rest, state.cm.dfilp = .opened → Leaves state rest →
      wp (failed written) (fun _ => left) (fun _ _ => False) { state with outcomes := rest })
    (served : ∀ file rest, state.cm.dfilp = .opened → state.file = some file →
      Leaves state rest → wp (transfer file) done
        (fun reason after => FileExcuse state size reason ∧ left after)
        { state with outcomes := rest }) :
    wp (fileIo failed transfer) done
      (fun reason after => FileExcuse state size reason ∧ left after) state := by
  unfold fileIo
  rw [wp_bind, wp_read]
  cases handle : state.cm.dfilp with
  | null => exact ⟨⟨by simp, by simp [handle]⟩, unchanged _ id⟩
  | errPtr => exact ⟨⟨fun _ => handle, by simp [handle]⟩, unchanged _ id⟩
  | opened =>
      simp only [wp_bind]
      apply wp_nextOutcome
      intro outcome rest certain leaves
      cases outcome with
      | crashes =>
          refine ⟨.of_failure (by simp) fun none => ?_, unchanged rest leaves⟩
          simpa using certain none
      | fails error written =>
          simp only [wp_bind, wp_stop]
          refine wp_mono (failure written rest handle leaves) ?_ (fun _ _ => False.elim)
          intro _ after last
          refine ⟨.of_failure (by simp) fun none => ?_, last⟩
          simpa using certain none
      | succeeds =>
          have unchanged' := unchanged rest leaves
          have served' := fun file => served file rest handle
          rcases state with ⟨cm, _ | file, outcomes⟩
          · exact ⟨⟨by simp, by simp⟩, unchanged'⟩
          · exact served' file rfl leaves

theorem Kept.of_outcomes (inv : CowInv state.cm state.file) {rest : List Outcome}
    (leaves : Leaves state rest) : Kept state { state with outcomes := rest } :=
  ⟨inv, ⟨⟨_, _, rfl⟩, rfl, .refl _ _, fun _ => rfl, leaves⟩, fun _ _ => rfl⟩

theorem Excuse.of_failure {reason : Stop} (valid : reason ≠ .oops)
    (failure : state.outcomes ≠ []) : Excuse state reason :=
  ⟨fun oops => absurd oops valid, fun _ => failure⟩

/-- A read returns what is on file. -/
theorem fileRead_spec {s : CowState} (start count : Nat) :
    wp (fileRead start count)
      (fun words after => (∃ rest, Leaves s rest ∧ after = { s with outcomes := rest }) ∧
        words = fun word => fileWord s.file (start + word))
      (fun reason after => FileExcuse s (8 * (start + count)) reason ∧
        ∃ rest, Leaves s rest ∧ after = { s with outcomes := rest }) s := by
  apply wp_fileIo (8 * (start + count))
  · exact fun rest leaves => ⟨rest, leaves, rfl⟩
  · exact fun _ rest _ leaves => ⟨rest, leaves, rfl⟩
  · intro file rest opened stored leaves
    rw [wp_ite]
    split
    · refine ⟨⟨rest, leaves, rfl⟩, ?_⟩
      simp only [stored, fileWord]
    · rename_i short
      refine ⟨⟨by simp, ?_⟩, rest, leaves, rfl⟩
      rintro _ ⟨file', found, enough⟩
      rw [stored] at found
      cases found
      exact absurd (.inr enough) short

/-- A write leaves a prefix of its words, all of them when it succeeds. -/
theorem fileWrite_spec (start count : Nat) (data : Nat → Nat) :
    wp (fileWrite start count data)
      (fun _ after => state.cm.dfilp = .opened ∧ state.file.isSome = true ∧
        ∃ rest, Leaves state rest ∧
          after = ⟨state.cm, state.file.map (·.writeWords start count data), rest⟩)
      (fun reason after => FileExcuse state 0 reason ∧
        ((∃ rest, Leaves state rest ∧ after = { state with outcomes := rest }) ∨
          (state.cm.dfilp = .opened ∧ ∃ written rest, Leaves state rest ∧ after =
            ⟨state.cm, state.file.map (·.writeWords start (min written count) data), rest⟩)))
      state := by
  apply wp_fileIo 0
  · exact fun rest leaves => .inl ⟨rest, leaves, rfl⟩
  · exact fun written rest opened leaves => .inr ⟨opened, written, rest, leaves, rfl⟩
  · exact fun file rest opened stored leaves => ⟨opened, by rw [stored]; rfl, rest, leaves, rfl⟩

theorem fileReadHeader_spec :
    wp fileReadHeader
      (fun ch after => state.cm.dfilp = .opened ∧
        (∃ file, state.file = some file ∧ ch = file.header) ∧
        ∃ rest, Leaves state rest ∧ after = { state with outcomes := rest })
      (fun reason after => FileExcuse state cowHeaderBytes reason ∧
        ∃ rest, Leaves state rest ∧ after = { state with outcomes := rest }) state := by
  apply wp_fileIo cowHeaderBytes
  · exact fun rest leaves => ⟨rest, leaves, rfl⟩
  · exact fun _ rest _ leaves => ⟨rest, leaves, rfl⟩
  · intro file rest opened stored leaves
    rw [wp_ite]
    split
    · exact ⟨opened, ⟨file, stored, rfl⟩, rest, leaves, rfl⟩
    · rename_i short
      refine ⟨⟨by simp, ?_⟩, rest, leaves, rfl⟩
      rintro _ ⟨file', found, enough⟩
      rw [stored] at found
      cases found
      exact absurd enough short

theorem fileWriteHeader_spec (header : CowHeader) :
    wp (fileWriteHeader header)
      (fun _ after => state.cm.dfilp = .opened ∧ state.file.isSome = true ∧
        ∃ rest, Leaves state rest ∧
          after = ⟨state.cm, state.file.map (·.writeHeader header), rest⟩)
      (fun reason after => FileExcuse state 0 reason ∧
        ∃ rest, Leaves state rest ∧ after = { state with outcomes := rest }) state := by
  apply wp_fileIo 0
  · exact fun rest leaves => ⟨rest, leaves, rfl⟩
  · exact fun _ rest _ leaves => ⟨rest, leaves, rfl⟩
  · exact fun file rest opened stored leaves => ⟨opened, by rw [stored]; rfl, rest, leaves, rfl⟩

end Moocbt.Cow
