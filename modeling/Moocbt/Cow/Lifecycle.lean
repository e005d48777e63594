import Moocbt.Cow.Data

/-! Opening and closing the COW file: what the header on file says after each of
the functions that write it, and what an error leaves. -/

namespace Moocbt.Cow

open Program

variable {state : CowState}

/-- The state after the header was written. -/
def CowState.withHeader (state : CowState) (isClean : Bool) (rest : List Outcome) : CowState :=
  ⟨state.cm.withClean isClean,
    state.file.map (·.writeHeader (state.cm.withClean isClean).header), rest⟩

theorem cowWriteHeader_spec (isClean : Bool) :
    wp (cowWriteHeader isClean)
      (fun _ after => state.cm.dfilp = .opened ∧ state.file.isSome = true ∧
        ∃ rest, Leaves state rest ∧ after = state.withHeader isClean rest)
      (fun reason after => FileExcuse state 0 reason ∧
        ∃ rest, Leaves state rest ∧ after = ⟨state.cm.withClean isClean, state.file, rest⟩)
      state := by
  unfold cowWriteHeader
  rw [wp_bind, wp_updateCm, wp_bind, wp_getCm]
  refine wp_mono (fileWriteHeader_spec _) ?_ ?_
  · rintro _ _ ⟨opened, present, rest, leaves, rfl⟩
    exact ⟨opened, present, rest, leaves, rfl⟩
  · rintro reason _ ⟨excuse, rest, leaves, rfl⟩
    exact ⟨⟨excuse.invalid, excuse.failure⟩, rest, leaves, rfl⟩

/-- The header is one `__cow_open_header` accepts in this mode. -/
structure Acceptable (ch : CowHeader) (indexOnly : Bool) : Prop where
  magic : ch.magic = cowMagic
  clean : hasFlag ch.flags cowClean = true
  mode : hasFlag ch.flags cowIndexOnly = indexOnly

/-- Opening a header takes its fields over and makes it dirty on file; an error
leaves the file alone. -/
theorem cowOpenHeader_spec (indexOnly resetVmalloc : Bool) :
    wp (cowOpenHeader indexOnly resetVmalloc)
      (fun _ after => state.cm.dfilp = .opened ∧ ∃ file, state.file = some file ∧
        Acceptable file.header indexOnly ∧ ∃ rest, Leaves state rest ∧
          after = CowState.withHeader
            ⟨state.cm.restore file.header resetVmalloc, state.file, state.outcomes⟩ false rest)
      (fun reason after => after.file = state.file ∧ after.cm.dfilp = state.cm.dfilp ∧
        (FileExcuse state cowHeaderBytes reason ∨ ∃ file, state.file = some file ∧
          ¬ Acceptable file.header indexOnly) ∧
        (after.cm = state.cm ∨ ∃ file, state.file = some file ∧ Acceptable file.header indexOnly ∧
          after.cm = (state.cm.restore file.header resetVmalloc).withClean false))
      state := by
  unfold cowOpenHeader
  rw [wp_bind]
  refine wp_mono fileReadHeader_spec ?_ ?_
  · rintro ch _ ⟨opened, ⟨file, stored, rfl⟩, rest, leaves, rfl⟩
    have refused : ¬ Acceptable file.header indexOnly →
        wp (stop (.errno .einval) : CowM Unit)
          (fun _ after => state.cm.dfilp = .opened ∧ ∃ file, state.file = some file ∧
            Acceptable file.header indexOnly ∧ ∃ rest, Leaves state rest ∧
              after = CowState.withHeader
                ⟨state.cm.restore file.header resetVmalloc, state.file, state.outcomes⟩ false rest)
          (fun reason after => after.file = state.file ∧ after.cm.dfilp = state.cm.dfilp ∧
            (FileExcuse state cowHeaderBytes reason ∨ ∃ file, state.file = some file ∧
              ¬ Acceptable file.header indexOnly) ∧
            (after.cm = state.cm ∨ ∃ file, state.file = some file ∧
              Acceptable file.header indexOnly ∧
              after.cm = (state.cm.restore file.header resetVmalloc).withClean false))
          { state with outcomes := rest } :=
      fun bad => ⟨rfl, rfl, .inr ⟨file, stored, bad⟩, .inl rfl⟩
    rw [wp_ite]
    split
    · rename_i magic
      exact refused fun good => magic good.magic
    · rename_i magic
      rw [wp_ite]
      split
      · rename_i dirty
        refine refused fun good => ?_
        simp [good.clean] at dirty
      · rename_i clean
        rw [wp_ite]
        split
        · rename_i mode
          refine refused fun good => ?_
          simp [good.mode] at mode
        · rename_i mode
          have good : Acceptable file.header indexOnly := by
            refine ⟨by simpa using magic, by simpa using clean, ?_⟩
            cases indexOnly <;> simpa using mode
          rw [wp_bind, wp_updateCm]
          refine wp_mono (cowWriteHeader_spec false) ?_ ?_
          · rintro _ _ ⟨_, _, rest', leaves', rfl⟩
            exact ⟨opened, file, stored, good, rest', fun none => leaves' (leaves none), rfl⟩
          · rintro reason _ ⟨excuse, rest', leaves', rfl⟩
            refine ⟨rfl, rfl, .inl ⟨excuse.invalid, ?_⟩, .inr ⟨file, stored, good, rfl⟩⟩
            rintro handle ⟨file', found, _⟩ none
            exact excuse.failure handle ⟨file', found, Nat.zero_le _⟩ (leaves none)
  · rintro reason _ ⟨excuse, rest, _, rfl⟩
    exact ⟨rfl, rfl, .inl excuse, .inl rfl⟩

theorem closeFile_spec :
    wp closeAndDestroyMoocbtCowFile
      (fun _ after => after = { state with cm := { state.cm with dfilp := .null } })
      (fun reason after => reason = .oops ∧ state.cm.dfilp = .errPtr ∧ after = state) state := by
  unfold closeAndDestroyMoocbtCowFile
  rw [wp_bind, wp_getCm, wp_ite]
  split
  · rename_i bad
    exact ⟨rfl, bad, rfl⟩
  · rfl

theorem fileUnlink_spec :
    wp fileUnlink
      (fun _ after => state.cm.dfilp = .opened ∧ after.cm = state.cm ∧
        (after.file = state.file ∨ after.file = none))
      (fun reason after => after.file = state.file ∧ (∀ error, reason ≠ .errno error) ∧
        (reason = .oops → state.cm.dfilp ≠ .opened) ∧
        (state.outcomes = [] → state.cm.dfilp ≠ .opened)) state := by
  unfold fileUnlink
  rw [wp_bind, wp_getCm]
  cases handle : state.cm.dfilp with
  | null => exact ⟨rfl, by simp, fun _ => by simp, fun _ => by simp⟩
  | errPtr => exact ⟨rfl, by simp, fun _ => by simp, fun _ => by simp⟩
  | opened =>
      simp only [wp_bind]
      apply wp_nextOutcome
      intro outcome rest certain leaves
      cases outcome with
      | crashes =>
          refine ⟨rfl, by simp, by simp, fun none => ?_⟩
          simpa using certain none
      | fails error written => exact ⟨trivial, rfl, .inl rfl⟩
      | succeeds => exact ⟨trivial, rfl, .inr rfl⟩

theorem cowFreeMembers_spec :
    wp cowFreeMembers
      (fun _ after => after.cm = { state.cm with sects := none, dfilp := .null } ∧
        (after.file = state.file ∨ (after.file = none ∧ state.cm.dfilp = .opened)))
      (fun reason after => after.file = state.file ∧ (∀ error, reason ≠ .errno error) ∧
        (reason = .oops → state.cm.dfilp = .errPtr) ∧
        (state.outcomes = [] → state.cm.dfilp = .errPtr)) state := by
  unfold cowFreeMembers
  rw [wp_bind, wp_updateCm, wp_bind, wp_getCm, wp_when]
  split
  · rename_i present
    have errPtr : state.cm.dfilp ≠ .opened → state.cm.dfilp = .errPtr := by
      cases handle : state.cm.dfilp <;> simp [handle] at present ⊢
    rw [wp_bind]
    refine wp_mono fileUnlink_spec ?_ ?_
    · rintro _ middle ⟨opened, manager, file⟩
      refine wp_mono closeFile_spec ?_ ?_
      · rintro _ _ rfl
        refine ⟨by rw [manager], ?_⟩
        rcases file with same | gone
        · exact .inl same
        · exact .inr ⟨gone, opened⟩
      · rintro reason _ ⟨_, bad, _⟩
        rw [manager] at bad
        exact absurd (bad.symm.trans opened) (by simp)
    · rintro reason after ⟨still, notErrno, invalid, failure⟩
      exact ⟨still, notErrno, fun oops => errPtr (invalid oops), fun none => errPtr (failure none)⟩
  · rename_i absent
    have handle : state.cm.dfilp = .null := by simpa using absent
    refine ⟨?_, .inl rfl⟩
    simp only [handle]

/-- The state a successful close leaves, from the one its flush left. -/
def CowState.closed (flushed : CowState) (rest : List Outcome) : CowState :=
  ⟨{ flushed.cm.withClean true with dfilp := .null },
    flushed.file.map (·.writeHeader (flushed.cm.withClean true).header), rest⟩

/-- What a close that failed leaves: its members are gone, and the file has no
other header than before. -/
structure CloseFailed (before : CowState) (reason : Stop) (after : CowState) : Prop where
  excuse : Excuse before reason
  shut : before.cm.dfilp ≠ .opened → after.file = before.file
  file : after.file = none ∨ FileFrame before.cm.dataOffset before.file after.file
  members : ∀ error, reason = .errno error →
    after.cm.dfilp = .null ∧ after.cm.sects = none ∧ SameFields before.cm after.cm

theorem cowSyncAndCloseFile_spec (inv : CowInv state.cm state.file) :
    wp cowSyncAndCloseFile
      (fun _ after => ∃ flushed rest, Kept state flushed ∧ Flushed flushed.cm ∧
        flushed.cm.dfilp = .opened ∧ flushed.file.isSome = true ∧ Leaves state rest ∧
        after = flushed.closed rest)
      (CloseFailed state) state := by
  -- The cleanup after an error, once only index traffic and the flag have happened.
  have cleanup : ∀ {middle middle' : CowState} {error : Errno}, SectionTraffic state middle →
      Excuse state (.errno error) → middle'.file = middle.file →
      middle'.cm.dfilp = middle.cm.dfilp → SameFields middle.cm middle'.cm →
      (state.outcomes = [] → middle'.outcomes = []) →
      wp cowFreeMembers (fun _ after => CloseFailed state (.errno error) after)
        (CloseFailed state) middle' := by
    intro middle middle' error traffic excuse sameFile sameHandle sameFields calm
    have handle : middle'.cm.dfilp = state.cm.dfilp := sameHandle.trans traffic.dfilp
    have fields : SameFields state.cm { middle'.cm with sects := none, dfilp := .null } :=
      (traffic.fields.trans sameFields).trans ⟨rfl, rfl, rfl, rfl, rfl, rfl, rfl, rfl⟩
    refine wp_mono cowFreeMembers_spec ?_ ?_
    · rintro _ after ⟨manager, still | ⟨gone, opened⟩⟩
      · refine ⟨excuse, ?_, .inr ?_, fun _ _ => by rw [manager]; exact ⟨rfl, rfl, fields⟩⟩
        · intro shut
          rw [still, sameFile, traffic.closed shut]
        · rw [still, sameFile]
          exact traffic.file
      · refine ⟨excuse, ?_, .inl gone, fun _ _ => by rw [manager]; exact ⟨rfl, rfl, fields⟩⟩
        intro shut
        rw [handle] at opened
        exact absurd opened shut
    · rintro reason after ⟨still, notErrno, invalid, failure⟩
      refine ⟨⟨?_, ?_⟩, ?_, .inr ?_, fun _ same => absurd same (notErrno _)⟩
      · intro oops
        rw [← handle]
        exact .inl (invalid oops)
      · intro ready none
        have bad := failure (calm none)
        rw [handle, ready.opened] at bad
        contradiction
      · intro shut
        rw [still, sameFile, traffic.closed shut]
      · rw [still, sameFile]
        exact traffic.file
  unfold cowSyncAndCloseFile
  rw [wp_onErrno, wp_bind]
  refine wp_mono (cowSyncAndFreeSections_spec 0 inv) ?_ ?_
  · rintro _ flushed ⟨kept, empty⟩
    rw [wp_bind]
    refine wp_mono (cowWriteHeader_spec true) ?_ ?_
    · rintro _ _ ⟨opened, present, rest, leaves, rfl⟩
      refine wp_mono closeFile_spec ?_ ?_
      · rintro _ _ rfl
        exact ⟨flushed, rest, kept, empty rfl, opened, present,
          fun none => leaves (kept.traffic.calm none), rfl⟩
      · rintro _ _ ⟨_, bad, _⟩
        have opened' : (flushed.withHeader true rest).cm.dfilp = .opened := opened
        rw [opened'] at bad
        contradiction
    · rintro reason _ ⟨excuse, rest, leaves, rfl⟩
      have excused := (excuse.excuse (Nat.zero_le _)).of_traffic kept.traffic
      cases reason with
      | errno error =>
          exact cleanup kept.traffic excused rfl rfl ⟨rfl, rfl, rfl, rfl, rfl, rfl, rfl, rfl⟩
            fun none => leaves (kept.traffic.calm none)
      | oops => exact ⟨excused, kept.traffic.closed, .inr kept.traffic.file, by simp⟩
      | crash => exact ⟨excused, kept.traffic.closed, .inr kept.traffic.file, by simp⟩
  · intro reason middle stop
    cases reason with
    | errno error => exact cleanup stop.traffic stop.excuse rfl rfl (.refl _) stop.traffic.calm
    | oops => exact ⟨stop.excuse, stop.traffic.closed, .inr stop.traffic.file, by simp⟩
    | crash => exact ⟨stop.excuse, stop.traffic.closed, .inr stop.traffic.file, by simp⟩

end Moocbt.Cow
