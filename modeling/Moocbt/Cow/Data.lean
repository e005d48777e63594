import Moocbt.Cow.Mapping

/-! The data area of the COW file: a captured block goes to the write head, past
the index, and its mapping is the position it was written to. -/

namespace Moocbt.Cow

open Program

variable {state : CowState} {sects : Nat → CowSection} {block : Nat} {buf : Nat → Nat}

/-- The write head is past the index. -/
def HeadPastIndex (cm : CowManager) : Prop := cm.dataOffset ≤ cm.currPos * cowBlockSize

theorem fileWord_of_data {cm : CowManager} {file : Option CowFile} (inv : CowInv cm file)
    (head : HeadPastIndex cm) (count : Nat) (buf : Nat → Nat) {pos : Nat}
    (inside : cm.InRange pos) :
    fileWord (file.map (·.writeWords (cm.currPos * blockWords) count buf)) (headerWords + pos) =
      fileWord file (headerWords + pos) := by
  have beyond : cm.dataOffset ≤ 8 * (cm.currPos * blockWords) := by
    unfold HeadPastIndex cowBlockSize at head
    unfold blockWords
    omega
  have before := inv.data_word inside beyond
  have missed : ¬ (cm.currPos * blockWords ≤ headerWords + pos ∧
      headerWords + pos < cm.currPos * blockWords + count) := by omega
  cases file with
  | none => rfl
  | some file => simp only [Option.map_some, fileWord, CowFile.writeWords, if_neg missed]

/-- Data written at the head leaves the invariant, also where it fails half way. -/
theorem CowInv.of_data {cm : CowManager} {file : Option CowFile} (inv : CowInv cm file)
    (count : Nat) (buf : Nat → Nat) {currPos : Nat} (later : cm.currPos ≤ currPos) :
    CowInv { cm with currPos }
      (file.map (·.writeWords (cm.currPos * blockWords) count buf)) := by
  refine ⟨inv.positive, inv.aligned, inv.offset, ?_⟩
  intro sects idx found bounded empty
  have old := inv.blank sects idx found bounded empty
  refine ⟨old.uncached, ?_, Nat.le_trans old.head (Nat.mul_le_mul_right _ later)⟩
  intro pos located
  have inside : cm.InRange pos := by
    unfold CowManager.InRange
    rw [located]
    exact bounded
  rw [fileWord_of_data inv old.head count buf inside]
  exact old.zero pos located

theorem lookup_of_data (inv : CowInv state.cm state.file) (head : HeadPastIndex state.cm)
    (count : Nat) (buf : Nat → Nat) (currPos : Nat) (rest : List Outcome) {pos : Nat}
    (inside : state.cm.InRange pos) :
    CowState.lookup
      ⟨{ state.cm with currPos },
        state.file.map (·.writeWords (state.cm.currPos * blockWords) count buf), rest⟩ pos =
      state.lookup pos := by
  unfold CowState.lookup CowManager.lookup
  cases found : state.cm.sects with
  | none => rfl
  | some sects => simp only [CowSection.entry, fileWord_of_data inv head count buf inside]

/-- The state after a block of data was written at the head. -/
def CowState.withData (state : CowState) (buf : Nat → Nat) (rest : List Outcome) : CowState :=
  ⟨{ state.cm with currPos := state.cm.currPos + 1 },
    state.file.map (·.writeWords (state.cm.currPos * blockWords) blockWords buf), rest⟩

/-- Why a write of data may stop: as index traffic, or because the file is full. -/
def DataExcuse (state : CowState) (reason : Stop) : Prop :=
  Excuse state reason ∨
    (reason = .errno .efbig ∧ state.cm.fileSize ≤ state.cm.currPos * cowBlockSize)

theorem cowWriteData_spec (buf : Nat → Nat) :
    wp (cowWriteData buf)
      (fun _ after => state.cm.dfilp = .opened ∧ state.file.isSome = true ∧
        ∃ rest, Leaves state rest ∧ after = state.withData buf rest)
      (fun reason after => DataExcuse state reason ∧
        ((∃ rest, Leaves state rest ∧ after = { state with outcomes := rest }) ∨
          (state.cm.dfilp = .opened ∧ ∃ count rest, Leaves state rest ∧ after =
            ⟨state.cm,
              state.file.map (·.writeWords (state.cm.currPos * blockWords) count buf), rest⟩)))
      state := by
  unfold cowWriteData
  rw [wp_bind, wp_getCm, wp_ite]
  split
  · rename_i full
    exact ⟨.inr ⟨rfl, full⟩, .inl ⟨state.outcomes, id, rfl⟩⟩
  · rw [wp_bind]
    refine wp_mono (fileWrite_spec _ _ buf) ?_ ?_
    · rintro _ _ ⟨opened, present, rest, leaves, rfl⟩
      exact ⟨opened, present, rest, leaves, rfl⟩
    · rintro reason after ⟨excuse, still | ⟨opened, written, rest, leaves, same⟩⟩
      · exact ⟨.inl (excuse.excuse (Nat.zero_le _)), .inl still⟩
      · exact ⟨.inl (excuse.excuse (Nat.zero_le _)), .inr ⟨opened, _, rest, leaves, same⟩⟩

/-- A block was captured: its mapping is the old head and its data is there. -/
def Captured (before : CowState) (block : Nat) (buf : Nat → Nat) (after : CowState) : Prop :=
  ∃ middle rest, Assigned before block before.cm.currPos middle ∧ Leaves middle rest ∧
    middle.cm.dfilp = .opened ∧ middle.file.isSome = true ∧ after = middle.withData buf rest

/-- A capture stopped before, in or after the write of the mapping. -/
def CaptureStopped (before : CowState) (block : Nat) (buf : Nat → Nat) (reason : Stop)
    (after : CowState) : Prop :=
  WriteStopped before block before.cm.currPos reason after ∨
    ∃ middle, Assigned before block before.cm.currPos middle ∧ DataExcuse middle reason ∧
      ((∃ rest, Leaves middle rest ∧ after = { middle with outcomes := rest }) ∨
        (middle.cm.dfilp = .opened ∧ ∃ count rest, Leaves middle rest ∧ after =
          ⟨middle.cm,
            middle.file.map (·.writeWords (middle.cm.currPos * blockWords) count buf), rest⟩))

theorem Kept.withFound {before after : CowState} (kept : Kept before after)
    (found : before.cm.sects = some sects) : ∃ sects', after.cm.sects = some sects' := by
  have array := kept.traffic.array
  rw [found] at array
  exact Option.isSome_iff_exists.mp array

/-- The first data that is captured for a block is kept. -/
theorem cowWriteCurrent_spec (buf : Nat → Nat) (inv : CowInv state.cm state.file)
    (found : state.cm.sects = some sects) (inside : state.cm.InRange block) :
    wp (cowWriteCurrent block buf)
      (fun _ after => if state.lookup block = 0 then ∃ middle, Kept state middle ∧
          Captured middle block buf after
        else Kept state after)
      (fun reason after => Stopped state reason after ∨
        (state.lookup block = 0 ∧ ∃ middle, Kept state middle ∧
          CaptureStopped middle block buf reason after)) state := by
  unfold cowWriteCurrent
  rw [wp_bind]
  refine wp_mono (cowReadMapping_spec inv found inside) ?_ (fun _ _ => .inl)
  rintro value middle ⟨kept, rfl⟩
  by_cases absent : state.lookup block = 0
  · obtain ⟨sects', found'⟩ := kept.withFound found
    have inside' := (kept.traffic.inRange block).mpr inside
    simp only [absent, ne_eq, not_true_eq_false, if_false, if_true]
    rw [wp_bind, wp_getCm, wp_bind]
    refine wp_mono (cowWriteMapping_spec middle.cm.currPos kept.inv found' inside') ?_ ?_
    · intro _ assigned wrote
      refine wp_mono (cowWriteData_spec buf) ?_ ?_
      · rintro _ _ ⟨opened, present, rest, leaves, rfl⟩
        exact ⟨middle, kept, assigned, rest, wrote, leaves, opened, present, rfl⟩
      · rintro reason after ⟨excuse, effect⟩
        exact .inr ⟨trivial, middle, kept, .inr ⟨assigned, wrote, excuse, effect⟩⟩
    · intro reason after stop
      exact .inr ⟨trivial, middle, kept, .inl stop⟩
  · simp only [absent, ne_eq, not_false_eq_true, if_true, if_false]
    exact kept

end Moocbt.Cow
