import Moocbt.Cow.CachedIndex
import Moocbt.Cow.CleanFlag

/-! What work on a live manager leaves behind, whether it returns or ends early. -/

namespace Moocbt.Cow

open Program

variable {elements pos : Nat} {state after : CowState} {map : Nat → Nat}

/-- The positions of the index of a device with so many whole blocks. -/
def Covered (elements pos : Nat) : Prop :=
  pos / cowSectionSize < (reloadManager elements cowSectionSize 0).totalSects

instance (elements pos : Nat) : Decidable (Covered elements pos) :=
  inferInstanceAs (Decidable (_ < _))

theorem inRange_iff_covered (live : Live elements state) :
    state.cm.InRange pos ↔ Covered elements pos := by
  unfold CowManager.InRange Covered
  rw [live.sectSize, live.totalSects]

/-- What work on a live manager leaves when it returns. -/
structure Tended (elements : Nat) (before after : CowState) : Prop where
  live : Live elements after
  quiet : Quiet before after
  ready : Ready before → Ready after
  calm : before.outcomes = [] → after.outcomes = []

theorem Tended.refl (live : Live elements state) : Tended elements state state :=
  ⟨live, .of_same rfl, id, id⟩

theorem Tended.trans {first second third : CowState} (start : Live elements first)
    (left : Tended elements first second) (right : Tended elements second third) :
    Tended elements first third :=
  ⟨right.live, left.quiet.trans right.quiet (left.live.opened.trans start.opened.symm),
    fun ready => right.ready (left.ready ready), fun none => right.calm (left.calm none)⟩

theorem Tended.of_traffic {changed : Nat} (live : Live elements state)
    (traffic : SectionTraffic (state.withChanged changed) after)
    (inv : CowInv after.cm after.file) : Tended elements state after :=
  ⟨live.of_traffic changed traffic inv, .of_traffic traffic,
    fun ready => traffic.ready ⟨ready.opened, ready.array, ready.file⟩, traffic.calm⟩

theorem Tended.of_kept (live : Live elements state) (kept : Kept state after) :
    Tended elements state after :=
  ⟨live.of_kept kept, .of_sections kept.traffic, kept.traffic.ready, kept.traffic.calm⟩

/-- Why work on a live manager ends early: something failed, or it left the index. -/
structure Abandoned (before : CowState) (within : Prop) (after : CowState) : Prop where
  quiet : Quiet before after
  cause : Ready before → before.outcomes = [] → ¬ within

theorem Abandoned.later {first second third : CowState} {within within' : Prop}
    (start : Live elements first) (left : Tended elements first second)
    (right : Abandoned second within third) (weaker : within' → within) :
    Abandoned first within' third :=
  ⟨left.quiet.trans right.quiet (left.live.opened.trans start.opened.symm),
    fun ready none inside => right.cause (left.ready ready) (left.calm none) (weaker inside)⟩

theorem Abandoned.weaken {within within' : Prop} (stop : Abandoned state within after)
    (weaker : Ready state → state.outcomes = [] → within' → within) :
    Abandoned state within' after :=
  ⟨stop.quiet, fun ready none inside => stop.cause ready none (weaker ready none inside)⟩

theorem modifyCacheSize_spec (cacheSize : Nat) (live : Live elements state)
    (agrees : Agrees map state) :
    Tended elements state (cowModifyCacheSize cacheSize state).2 ∧
      Agrees map (cowModifyCacheSize cacheSize state).2 := by
  obtain ⟨live', map', simulated, agrees'⟩ := modifyCacheSize_simulates cacheSize live agrees
  cases simulated
  exact ⟨⟨live', .of_same rfl, fun ready => ⟨ready.opened, ready.array, ready.file⟩, id⟩, agrees'⟩

/-- The truncation keeps the index, also when it fails. -/
theorem truncateToIndex_spec (live : Live elements state) (agrees : Agrees map state) :
    wp cowTruncateToIndex (fun _ after => Tended elements state after ∧ Agrees map after)
      (fun reason after => Quiet state after ∧ reason ≠ .oops ∧ state.outcomes ≠ [] ∧
        ∀ error, reason = .errno error → Live elements after ∧ Agrees map after) state := by
  refine wp_mono (wp_and cowTruncateToIndex_spec (truncateToIndex_simulates live agrees)) ?_ ?_
  · intro _ after both
    obtain ⟨⟨opened, rest, leaves, same⟩, live', map', simulated, agrees'⟩ := both
    cases simulated
    subst same
    refine ⟨⟨live', ⟨fun shut => absurd opened shut, ?_⟩, ?_, leaves⟩, agrees'⟩
    · intro dirty found same
      obtain ⟨file, stored, rfl⟩ := Option.map_eq_some_iff.mp same
      exact dirty file stored
    · intro ready
      obtain ⟨file, stored, _⟩ := ready.file
      exact ⟨opened, ready.array, file.truncate state.cm.dataOffset, by simp [stored],
        Nat.le_refl _⟩
  · intro reason after both
    obtain ⟨⟨_, failure, rest, _, same⟩, valid, errno⟩ := both
    subst same
    refine ⟨.of_same rfl, valid, failure live.opened, fun error same => ?_⟩
    obtain ⟨live', map', simulated, agrees'⟩ := errno error same
    cases simulated with
    | failed => exact ⟨live', agrees'⟩
    | failedLate => exact ⟨live', agrees'⟩

theorem reopen_dirties :
    wp cowReopen (fun _ after => Dirty after.file) (fun _ after => after.file = state.file)
      state := by
  refine wp_mono cowReopen_spec ?_ (fun _ _ stopped => stopped.1)
  intro _ after reopened
  obtain ⟨file, rest, stored, _, _, same⟩ := reopened
  subst same
  exact withHeader_dirty _ _

theorem Rests.of_outcomes (rests : Rests elements map state)
    (outcomes : List Outcome) : Rests elements map { state with outcomes } :=
  ⟨rests.inv, rests.array, rests.head, rests.sectSize, rests.totalSects, rests.index, rests.cached,
    rests.header, rests.shut⟩

theorem closeFile_quiet (live : Live elements state) :
    wp cowSyncAndCloseFile (fun _ _ => True) (fun _ after => Quiet state after) state :=
  wp_mono (cowSyncAndCloseFile_spec live.inv) (fun _ _ _ => trivial) fun _ _ failed => failed.quiet

end Moocbt.Cow
