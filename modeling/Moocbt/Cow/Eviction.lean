import Moocbt.Cow.CacheBound

/-! Which sections a cleanup of the cache evicts. The loop goes through the sections in the
order of their indices and ends as soon as the cache is half empty. -/

namespace Moocbt.Cow

open Program

variable {state : CowState} {sects first : Nat → CowSection} {thresh limit cached idx : Nat}

/-- The flushing loop gets to this section: the stale ones before it leave too much cached. -/
def Visits (thresh limit cached : Nat) (sects : Nat → CowSection) (idx : Nat) : Prop :=
  thresh = 0 ∨ limit + tally (CowSection.Stale thresh) sects idx < cached

instance : DecidablePred (Visits thresh limit cached sects) :=
  fun _ => inferInstanceAs (Decidable (_ ∨ _))

theorem Visits.earlier {other : Nat} (visits : Visits thresh limit cached sects idx)
    (before : other ≤ idx) : Visits thresh limit cached sects other := by
  cases visits with
  | inl all => exact .inl all
  | inr room =>
      have fewer := Tally.bound_le (P := CowSection.Stale thresh) sects before
      exact .inr (by omega)

/-- What the flushing loop makes of a section. -/
structure Flushes (thresh limit cached : Nat) (first flushed : Nat → CowSection) (idx : Nat) :
    Prop where
  usage : Visits thresh limit cached first idx → (flushed idx).usage = 0
  resident : Visits thresh limit cached first idx →
    ((flushed idx).Resident ↔ (first idx).Resident ∧ ¬ (first idx).Stale thresh)
  beyond : ¬ Visits thresh limit cached first idx → flushed idx = first idx

theorem cowSyncSections_flushes (thresh : Nat) {remaining : Nat} (counted : Counted state sects)
    (rest : ∀ other, idx ≤ other → sects other = first other)
    (left : state.cm.allocatedSects + tally (CowSection.Stale thresh) first idx = cached)
    (bounded : idx + remaining = state.cm.totalSects) :
    wp (cowSyncSections thresh remaining idx)
      (fun _ after => ∃ flushed, Counted after flushed ∧
        (∀ other < idx, flushed other = sects other) ∧
        ∀ other, idx ≤ other → other < state.cm.totalSects →
          Flushes thresh (state.cm.allowedSects / 2) cached first flushed other)
      (fun _ _ => True) state := by
  induction remaining generalizing state sects idx with
  | zero => exact ⟨sects, counted, fun _ _ => rfl, fun other lower upper => by omega⟩
  | succ remaining ih =>
      simp only [cowSyncSections]
      rw [wp_bind, wp_getCm, wp_when]
      split
      · rename_i turns
        have visits : Visits thresh (state.cm.allowedSects / 2) cached first idx := by
          simp only [Bool.or_eq_true, decide_eq_true_eq] at turns
          exact turns.imp_right fun more => by omega
        have inside : idx < state.cm.totalSects := by omega
        rw [wp_bind]
        have turn := (Steady.cowSyncSection thresh idx).returns
          (cowSyncSection_frees thresh counted inside)
        refine wp_mono turn ?_ (fun _ _ _ => trivial)
        intro _ middle turned
        obtain ⟨alike, sect, counted', unused, resident⟩ := turned
        have total := alike.totalSects
        rw [rest idx (Nat.le_refl idx)] at resident
        have rest' : ∀ other, idx + 1 ≤ other → Function.update sects idx sect other = first other := by
          intro other later
          rw [Function.update_of_ne (by omega)]
          exact rest other (by omega)
        have left' : middle.cm.allocatedSects +
            tally (CowSection.Stale thresh) first (idx + 1) = cached := by
          have change := Tally.update (P := CowSection.Resident) sects inside sect
          have before := counted.count
          have after := counted'.count
          rw [total] at after
          rw [rest idx (Nat.le_refl idx)] at change
          rw [Tally.succ]
          simp only [resident] at change
          by_cases stale : (first idx).Stale thresh
          · simp only [stale, stale.1, not_true, and_false, if_true, if_false] at change ⊢
            omega
          · simp only [stale, not_false_iff, and_true, if_false] at change ⊢
            omega
        refine wp_mono (ih counted' rest' left' (by omega)) ?_ (fun _ _ _ => trivial)
        intro _ last flushes
        obtain ⟨flushed, counted'', earlier, each⟩ := flushes
        rw [alike.allowedSects, total] at each
        have here : flushed idx = sect := by
          rw [earlier idx (Nat.lt_succ_self idx), Function.update_self]
        refine ⟨flushed, counted'', fun other before => ?_, fun other lower upper => ?_⟩
        · rw [earlier other (by omega), Function.update_of_ne (by omega)]
        · by_cases same : other = idx
          · subst same
            exact ⟨fun _ => here ▸ unused, fun _ => here ▸ resident, fun past => absurd visits past⟩
          · exact each other (by omega) upper
      · rename_i enough
        have past : ¬ Visits thresh (state.cm.allowedSects / 2) cached first idx := by
          simp only [Bool.or_eq_true, decide_eq_true_eq] at enough
          intro visits
          exact enough (visits.imp_right fun more => by omega)
        refine ⟨sects, counted, fun _ _ => rfl, fun other lower _ => ?_⟩
        exact ⟨fun visits => absurd (visits.earlier lower) past,
          fun visits => absurd (visits.earlier lower) past, fun _ => rest other lower⟩

/-- The cut-off of a cleanup: half the highest usage, moved towards the median by steps that
are halved each time. -/
def usageCutoff (sects : Nat → CowSection) (total : Nat) : Nat :=
  medianUsage sects total (maxUsage sects total / 2) (maxUsage sects total / 2)
    (maxUsage sects total / 2)

theorem medianUsage_pos {total rounds granularity thresh : Nat} (coarse : granularity ≤ thresh)
    (positive : 0 < thresh) : 0 < medianUsage sects total rounds granularity thresh := by
  induction rounds generalizing granularity thresh with
  | zero => exact positive
  | succ rounds ih =>
      simp only [medianUsage]
      split
      · split
        · exact ih (by omega) (by omega)
        · split
          · exact ih (by omega) (by omega)
          · exact positive
      · exact positive

theorem maxUsage_le_iff {total bound : Nat} :
    maxUsage sects total ≤ bound ↔ ∀ other < total, (sects other).usage ≤ bound := by
  induction total with
  | zero => simp [maxUsage]
  | succ total ih =>
      simp only [maxUsage]
      constructor
      · intro high other below
        split at high
        · by_cases same : other = total
          · subst same
            exact high
          · exact ih.mp (by omega) other (by omega)
        · by_cases same : other = total
          · subst same
            omega
          · exact ih.mp high other (by omega)
      · intro each
        have last := each total (Nat.lt_succ_self total)
        have others := ih.mpr fun other below => each other (by omega)
        split <;> assumption

/-- Everything is evicted when no section was used twice. -/
theorem usageCutoff_eq_zero_iff {total : Nat} :
    usageCutoff sects total = 0 ↔ ∀ other < total, (sects other).usage ≤ 1 := by
  rw [← maxUsage_le_iff]
  constructor
  · intro zero
    by_contra high
    have positive : 0 < usageCutoff sects total :=
      medianUsage_pos (Nat.le_refl _) (by omega)
    omega
  · intro low
    have half : maxUsage sects total / 2 = 0 := by omega
    simp [usageCutoff, half, medianUsage]

theorem cowCleanupMappings_flushes (counted : Counted state sects) :
    wp cowCleanupMappings
      (fun _ after => ∃ flushed, Counted after flushed ∧ ∀ other < state.cm.totalSects,
        Flushes (usageCutoff sects state.cm.totalSects) (state.cm.allowedSects / 2)
          state.cm.allocatedSects sects flushed other)
      (fun _ _ => True) state := by
  simp only [cowCleanupMappings]
  rw [wp_bind, wp_getCm, counted.found]
  simp only [cowSyncAndFreeSections]
  rw [wp_bind, wp_getCm]
  have start : state.cm.allocatedSects +
      tally (CowSection.Stale (usageCutoff sects state.cm.totalSects)) sects 0 =
      state.cm.allocatedSects := by rw [Tally.zero, Nat.add_zero]
  have loop := cowSyncSections_flushes _ counted (fun _ _ => rfl) start
    (Nat.zero_add state.cm.totalSects)
  refine wp_mono loop ?_ (fun _ _ _ => trivial)
  intro _ after flushes
  obtain ⟨flushed, counted', _, each⟩ := flushes
  exact ⟨flushed, counted', fun other below => each other (Nat.zero_le other) below⟩

/-- No section was evicted that had been used more than one that stays, and every usage
starts again at zero. -/
structure EvictsLeastUsed (total : Nat) (sects flushed : Nat → CowSection) : Prop where
  least : ∀ evicted < total, ∀ kept < total, (sects evicted).Resident →
    ¬ (flushed evicted).Resident → (sects kept).Resident → (flushed kept).Resident →
    (sects evicted).usage ≤ (sects kept).usage
  reset : ∀ other < total, (flushed other).usage = 0

/-- The sections the loop of a cleanup gets to. -/
abbrev CowState.Cleans (state : CowState) (sects : Nat → CowSection) (idx : Nat) : Prop :=
  Visits (usageCutoff sects state.cm.totalSects) (state.cm.allowedSects / 2)
    state.cm.allocatedSects sects idx

/-- The sections behind the point where the cache is half empty were not used; where one of
them is cached, neither were those that are evicted. -/
def UnusedBehind (state : CowState) (sects : Nat → CowSection) : Prop :=
  ∀ behind < state.cm.totalSects, ¬ state.Cleans sects behind →
    (sects behind).usage = 0 ∧ ((sects behind).Resident →
      ∀ other < behind, state.Cleans sects other →
        (sects other).Stale (usageCutoff sects state.cm.totalSects) → (sects other).usage = 0)

instance (state : CowState) (sects : Nat → CowSection) : Decidable (UnusedBehind state sects) :=
  Nat.decidableBallLT _ _

theorem evictsLeastUsed_iff {flushed : Nat → CowSection}
    (each : ∀ other < state.cm.totalSects,
      Flushes (usageCutoff sects state.cm.totalSects) (state.cm.allowedSects / 2)
        state.cm.allocatedSects sects flushed other) :
    EvictsLeastUsed state.cm.totalSects sects flushed ↔ UnusedBehind state sects := by
  constructor
  · intro fair behind below past
    have same := (each behind below).beyond past
    have unused : (sects behind).usage = 0 := by
      rw [← same]
      exact fair.reset behind below
    refine ⟨unused, fun resident other before visits stale => ?_⟩
    have below' : other < state.cm.totalSects := by omega
    have evicted : ¬ (flushed other).Resident :=
      fun stays => (((each other below').resident visits).mp stays).2 stale
    have most := fair.least other below' behind below stale.1 evicted resident (same ▸ resident)
    omega
  · intro unused
    constructor
    · intro evicted below kept below' cached gone _ stays
      have visits : state.Cleans sects evicted := by
        by_contra past
        exact gone ((each evicted below).beyond past ▸ cached)
      have stale : (sects evicted).Stale (usageCutoff sects state.cm.totalSects) := by
        by_contra used
        exact gone (((each evicted below).resident visits).mpr ⟨cached, used⟩)
      by_cases visits' : state.Cleans sects kept
      · obtain ⟨cached', used⟩ := ((each kept below').resident visits').mp stays
        have high : ¬ (usageCutoff sects state.cm.totalSects = 0 ∨
            (sects kept).usage ≤ usageCutoff sects state.cm.totalSects) :=
          fun low => used ⟨cached', low⟩
        have low := stale.2
        omega
      · have before : evicted < kept := by
          by_contra after
          exact visits' (visits.earlier (by omega))
        rw [(each kept below').beyond visits'] at stays
        have zero := (unused kept below' visits').2 stays evicted before visits stale
        omega
    · intro other below
      by_cases visits : state.Cleans sects other
      · exact (each other below).usage visits
      · rw [(each other below).beyond visits]
        exact (unused other below visits).1

/-- A cleanup that succeeds evicts the sections that were used least, and resets every
counter, exactly if what lies behind the point where it ends was not used. -/
theorem cleanup_evicts_least_used_iff {after : CowState} (counted : Counted state sects)
    (ran : cowCleanupMappings state = (.ok (), after)) :
    (∃ flushed, after.cm.sects = some flushed ∧
      EvictsLeastUsed state.cm.totalSects sects flushed) ↔ UnusedBehind state sects := by
  obtain ⟨flushed, counted', each⟩ := wp_done (cowCleanupMappings_flushes counted) ran
  rw [← evictsLeastUsed_iff each]
  constructor
  · intro fair
    obtain ⟨flushed', found, fair⟩ := fair
    cases counted'.found.symm.trans found
    exact fair
  · exact fun fair => ⟨flushed, counted'.found, fair⟩

/-- Four sections, of which the last has no data. -/
def usedSections (usage : Nat → Nat) (idx : Nat) : CowSection :=
  ⟨idx < 3, usage idx, if idx < 3 then some fun _ => 0 else none⟩

/-- A cache for two sections that holds three. -/
def crowded (usage : Nat → Nat) : CowState :=
  let created := (cowInit 16384 cowSectionSize 0 (100 * cowBlockSize) 0#128 1 freshState).2
  { created with
    cm := { created.cm with
      sects := some (usedSections usage), allocatedSects := 3, allowedSects := 2 } }

theorem crowded_counted (usage : Nat → Nat) : Counted (crowded usage) (usedSections usage) :=
  ⟨rfl, rfl⟩

/-- No section was used twice: all are evicted. -/
theorem cleanup_evicts_least_used_once :
    ∃ after flushed, cowCleanupMappings (crowded fun _ => 1) = (.ok (), after) ∧
      after.cm.sects = some flushed ∧
      EvictsLeastUsed (crowded fun _ => 1).cm.totalSects (usedSections fun _ => 1) flushed := by
  have ran : cowCleanupMappings (crowded fun _ => 1) = (.ok (), _) := ran_of_reply (by decide +kernel)
  have unused : UnusedBehind (crowded fun _ => 1) (usedSections fun _ => 1) := by decide +kernel
  obtain ⟨flushed, found, fair⟩ :=
    (cleanup_evicts_least_used_iff (crowded_counted _) ran).mpr unused
  exact ⟨_, flushed, ran, found, fair⟩

/-- Two sections used twice are evicted and one used once stays, with its counter. The fourth
section was only asked for. -/
theorem cleanup_evicts_more_used :
    ¬ ∀ (state after : CowState) (sects : Nat → CowSection), Counted state sects →
      state.cm.allowedSects < state.cm.allocatedSects →
      cowCleanupMappings state = (.ok (), after) →
      ∃ flushed, after.cm.sects = some flushed ∧
        EvictsLeastUsed state.cm.totalSects sects flushed := by
  intro always
  let usage : Nat → Nat := fun idx => [2, 2, 1, 6].getD idx 0
  have counted := crowded_counted usage
  have ran : cowCleanupMappings (crowded usage) = (.ok (), _) := ran_of_reply (by decide +kernel)
  obtain ⟨flushed, found, fair⟩ := always _ _ _ counted (by decide +kernel) ran
  obtain ⟨flushed', counted', each⟩ := wp_done (cowCleanupMappings_flushes counted) ran
  cases counted'.found.symm.trans found
  have used : ¬ UnusedBehind (crowded usage) (usedSections usage) := by decide +kernel
  exact used ((evictsLeastUsed_iff each).mp fair)

end Moocbt.Cow
