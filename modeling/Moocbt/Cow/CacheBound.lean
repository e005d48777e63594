import Moocbt.Data.Tally
import Moocbt.Cow.CachedIndex
import Moocbt.Cow.Steady

/-! How many sections the cache holds. A cleanup frees the cached sections that were
used least, or, where all were used more, none; then it has set every usage back to
zero, and the next cleanup finds all of them but the one used since. -/

namespace Moocbt.Cow

open Program

variable {state after : CowState} {sects : Nat → CowSection} {idx thresh : Nat}

def CowSection.Resident (sect : CowSection) : Prop := sect.mappings.isSome = true

instance : DecidablePred CowSection.Resident := fun _ => inferInstanceAs (Decidable (_ = true))

/-- The sections with a buffer. -/
def CowManager.residents (cm : CowManager) : Nat :=
  match cm.sects with
  | none => 0
  | some sects => tally CowSection.Resident sects cm.totalSects

/-- The counter is the number of sections with a buffer. -/
structure Counted (state : CowState) (sects : Nat → CowSection) : Prop where
  found : state.cm.sects = some sects
  count : state.cm.allocatedSects = tally CowSection.Resident sects state.cm.totalSects

theorem Alike.totalSects (alike : Alike state after) :
    after.cm.totalSects = state.cm.totalSects := by
  have same := congrArg CowManager.totalSects alike.manager
  exact same

theorem Alike.allowedSects (alike : Alike state after) :
    after.cm.allowedSects = state.cm.allowedSects := by
  have same := congrArg CowManager.allowedSects alike.manager
  exact same

theorem Alike.sectSize (alike : Alike state after) : after.cm.sectSize = state.cm.sectSize := by
  have same := congrArg CowManager.sectSize alike.manager
  exact same

/-- What a steady program that returns does, beside leaving the limits alone. -/
theorem Steady.returns {α : Type} {program : CowM α} {done : α → CowState → Prop}
    (steady : Steady program) (returned : wp program done (fun _ _ => True) state) :
    wp program (fun value after => Alike state after ∧ done value after) (fun _ _ => True) state :=
  wp_mono (wp_and (steady state) returned) (fun _ _ both => both) fun _ _ _ => trivial

/-- One section changes, and the counter with it. -/
theorem Counted.update (counted : Counted state sects) (bounded : idx < state.cm.totalSects)
    (sect : CowSection) {allocated : Nat} {file : Option CowFile} {rest : List Outcome}
    (count : allocated + (if (sects idx).Resident then 1 else 0) =
      state.cm.allocatedSects + if sect.Resident then 1 else 0) :
    Counted ⟨state.cm.withSections (some (Function.update sects idx sect)) allocated, file, rest⟩
      (Function.update sects idx sect) := by
  refine ⟨rfl, ?_⟩
  have change := Tally.update (P := CowSection.Resident) sects bounded sect
  have before := counted.count
  change allocated = tally CowSection.Resident (Function.update sects idx sect) state.cm.totalSects
  omega

theorem Counted.of_same {sects' : Nat → CowSection} (counted : Counted state sects)
    (bounded : idx < state.cm.totalSects) (sect : CowSection)
    (same : sect.Resident ↔ (sects idx).Resident)
    (changed : sects' = Function.update sects idx sect) :
    Counted { state with cm := { state.cm with sects := some sects' } } sects' := by
  subst changed
  refine ⟨rfl, ?_⟩
  have change := Tally.update (P := CowSection.Resident) sects bounded sect
  have before := counted.count
  simp only [same] at change
  change state.cm.allocatedSects =
    tally CowSection.Resident (Function.update sects idx sect) state.cm.totalSects
  omega

theorem cowAllocSection_counts (counted : Counted state sects)
    (bounded : idx < state.cm.totalSects) (absent : ¬ (sects idx).Resident) :
    wp (cowAllocSection idx)
      (fun _ after => ∃ sect, Counted after (Function.update sects idx sect) ∧ sect.Resident ∧
        after.cm.allocatedSects = state.cm.allocatedSects + 1) (fun _ _ => True) state := by
  refine wp_mono (cowAllocSection_spec counted.found bounded) ?_ (fun _ _ _ => trivial)
  intro _ after allocated
  obtain ⟨rest, _, same⟩ := allocated
  subst same
  have resident : CowSection.Resident ⟨true, (sects idx).usage, some fun _ => 0⟩ := rfl
  refine ⟨_, counted.update bounded _ ?_, resident, rfl⟩
  rw [if_neg absent, if_pos resident]

theorem cowLoadSection_counts (counted : Counted state sects)
    (bounded : idx < state.cm.totalSects) (absent : ¬ (sects idx).Resident) :
    wp (cowLoadSection idx)
      (fun _ after => ∃ sect, Counted after (Function.update sects idx sect) ∧ sect.Resident ∧
        after.cm.allocatedSects = state.cm.allocatedSects + 1) (fun _ _ => True) state := by
  -- Whatever the cleanup after an error does, the error code is passed on.
  have given : ∀ (cleanup : CowM Unit) (error : Errno) (middle : CowState),
      wp cleanup (fun _ _ => True) (fun _ _ => True) middle := fun _ _ _ => wp_true _ _
  unfold cowLoadSection
  rw [wp_onErrno, wp_bind]
  refine wp_mono (wp_and (Steady.cowAllocSection idx state)
    (cowAllocSection_counts counted bounded absent)) ?_ ?_
  · intro _ middle both
    obtain ⟨alike, sect, counted', resident, allocated⟩ := both
    have bounded' : idx < middle.cm.totalSects := by
      rw [alike.totalSects]
      exact bounded
    rw [wp_bind, wp_getCm, wp_bind]
    refine wp_mono (fileRead_spec _ _) ?_ ?_
    · intro words read both
      obtain ⟨⟨rest, _, same⟩, _⟩ := both
      subst same
      rw [wp_updateSect (s := { middle with outcomes := rest }) counted'.found]
      rw [Function.update_self, Function.update_idem]
      refine ⟨{ sect with mappings := some words }, ?_, rfl, allocated⟩
      have kept := counted'.of_same bounded' { sect with mappings := some words } ?_ rfl
      · rw [Function.update_idem] at kept
        exact ⟨kept.found, kept.count⟩
      · rw [Function.update_self]
        exact iff_of_true rfl resident
    · intro reason _ _
      cases reason with
      | errno error => exact given _ error _
      | oops => trivial
      | crash => trivial
  · intro reason _ _
    cases reason with
    | errno error => exact given _ error _
    | oops => trivial
    | crash => trivial

/-- A section that the flushing loop writes back and frees when it gets to it. -/
def CowSection.Stale (thresh : Nat) (sect : CowSection) : Prop :=
  sect.Resident ∧ (thresh = 0 ∨ sect.usage ≤ thresh)

instance (thresh : Nat) : DecidablePred (CowSection.Stale thresh) :=
  fun _ => inferInstanceAs (Decidable (_ ∧ _))

/-- One turn of the flushing loop frees a stale section and resets every usage. -/
theorem cowSyncSection_frees (thresh : Nat) (counted : Counted state sects)
    (bounded : idx < state.cm.totalSects) :
    wp (cowSyncSection thresh idx)
      (fun _ after => ∃ sect : CowSection, Counted after (Function.update sects idx sect) ∧
        sect.usage = 0 ∧ (sect.Resident ↔ (sects idx).Resident ∧ ¬ (sects idx).Stale thresh))
      (fun _ _ => True) state := by
  unfold cowSyncSection
  rw [wp_bind, wp_sectAt counted.found bounded, wp_bind, wp_when]
  split
  · rename_i chosen
    simp only [Bool.and_eq_true, Bool.or_eq_true, decide_eq_true_eq] at chosen
    obtain ⟨mappings, cached⟩ := Option.isSome_iff_exists.mp chosen.1
    unfold cowWriteSection
    rw [wp_bind, wp_bind, wp_getCm, wp_bind, wp_sectMappings counted.found bounded cached]
    refine wp_mono (fileWrite_spec _ _ mappings) ?_ (fun _ _ _ => trivial)
    intro _ middle written
    obtain ⟨_, _, rest, _, same⟩ := written
    subst same
    rw [wp_cowFreeSection (s := ⟨state.cm, _, rest⟩) counted.found]
    rw [wp_updateSect (s := ⟨state.cm.withSections _ _, _, rest⟩) rfl]
    rw [Function.update_self, Function.update_idem]
    let freed : CowSection := ⟨(sects idx).hasData, 0, none⟩
    have resident : (sects idx).Resident := chosen.1
    have absent : ¬ freed.Resident := by simp [freed, CowSection.Resident]
    have change := Tally.update (P := CowSection.Resident) sects bounded freed
    have count := counted.count
    rw [if_pos resident, if_neg absent] at change
    have stale : (sects idx).Stale thresh := chosen
    refine ⟨freed, counted.update bounded _ ?_, rfl, iff_of_false absent fun kept => kept.2 stale⟩
    rw [if_pos resident, if_neg absent]
    change state.cm.allocatedSects - 1 + 1 = state.cm.allocatedSects + 0
    omega
  · rename_i skipped
    rw [wp_updateSect counted.found]
    let rested : CowSection := { sects idx with usage := 0 }
    refine ⟨rested, counted.of_same bounded rested Iff.rfl rfl, rfl, ?_⟩
    have fresh : ¬ (sects idx).Stale thresh := by
      simpa [CowSection.Stale, CowSection.Resident] using skipped
    exact ⟨fun resident => ⟨resident, fresh⟩, And.left⟩

/-- What one turn of the flushing loop makes of a section. -/
structure Swept (thresh : Nat) (before after : CowSection) : Prop where
  usage : after.usage = 0
  stays : after.Resident → before.Resident ∧ thresh < before.usage

theorem cowSyncSection_counts (thresh : Nat) (counted : Counted state sects)
    (bounded : idx < state.cm.totalSects) :
    wp (cowSyncSection thresh idx)
      (fun _ after => ∃ sect, Counted after (Function.update sects idx sect) ∧
        Swept thresh (sects idx) sect) (fun _ _ => True) state := by
  refine wp_mono (cowSyncSection_frees thresh counted bounded) ?_ (fun _ _ _ => trivial)
  intro _ after freed
  obtain ⟨sect, counted', unused, resident⟩ := freed
  refine ⟨sect, counted', unused, fun stays => ?_⟩
  obtain ⟨before, fresh⟩ := resident.mp stays
  have used : ¬ (thresh = 0 ∨ (sects idx).usage ≤ thresh) := fun low => fresh ⟨before, low⟩
  exact ⟨before, by omega⟩

/-- What the flushing loop leaves of the sections from `idx` on: it stopped with half
of the cache free, or it came to the end. -/
structure SweptAll (thresh idx remaining : Nat) (sects : Nat → CowSection) (state : CowState)
    (sects' : Nat → CowSection) (after : CowState) : Prop where
  counted : Counted after sects'
  earlier : ∀ other, other < idx → sects' other = sects other
  stays : ∀ other, (sects' other).Resident → (sects other).Resident
  swept : after.cm.allocatedSects ≤ state.cm.allowedSects / 2 ∨
    ∀ other, idx ≤ other → other < idx + remaining → Swept thresh (sects other) (sects' other)

theorem cowSyncSections_counts (thresh : Nat) {remaining : Nat} (counted : Counted state sects)
    (bounded : idx + remaining ≤ state.cm.totalSects) :
    wp (cowSyncSections thresh remaining idx)
      (fun _ after => ∃ sects', SweptAll thresh idx remaining sects state sects' after)
      (fun _ _ => True) state := by
  induction remaining generalizing state sects idx with
  | zero =>
      refine ⟨sects, counted, fun _ _ => rfl, fun _ => id, .inr fun other lower upper => ?_⟩
      omega
  | succ remaining ih =>
      unfold cowSyncSections
      rw [wp_bind, wp_getCm, wp_when]
      split
      · rw [wp_bind]
        have inside : idx < state.cm.totalSects := by omega
        have first := (Steady.cowSyncSection thresh idx).returns
          (cowSyncSection_counts thresh counted inside)
        refine wp_mono first ?_ (fun _ _ _ => trivial)
        intro _ middle turned
        obtain ⟨alike, sect, counted', swept⟩ := turned
        have bounded' : idx + 1 + remaining ≤ middle.cm.totalSects := by
          rw [alike.totalSects]
          omega
        refine wp_mono (ih counted' bounded') ?_ (fun _ _ _ => trivial)
        intro _ last rest
        obtain ⟨sects', all⟩ := rest
        refine ⟨sects', all.counted, fun other below => ?_, fun other resident => ?_, ?_⟩
        · rw [all.earlier other (by omega), Function.update_of_ne (by omega)]
        · have kept := all.stays other resident
          by_cases same : other = idx
          · subst same
            rw [Function.update_self] at kept
            exact (swept.stays kept).1
          · rw [Function.update_of_ne same] at kept
            exact kept
        · rw [← alike.allowedSects]
          refine all.swept.imp_right fun each other lower upper => ?_
          by_cases same : other = idx
          · subst same
            rw [all.earlier other (by omega), Function.update_self]
            exact swept
          · have later := each other (by omega) (by omega)
            rw [Function.update_of_ne same] at later
            exact later
      · rename_i enough
        simp only [Bool.or_eq_true, decide_eq_true_eq, not_or, gt_iff_lt, Nat.not_lt] at enough
        exact ⟨sects, counted, fun _ _ => rfl, fun _ => id, .inl enough.2⟩

/-- The cache keeps its limit, or it is one over and no cached section was used since
the last cleanup. -/
structure Settled (state : CowState) (sects : Nat → CowSection) : Prop where
  counted : Counted state sects
  limit : state.cm.allocatedSects ≤ state.cm.allowedSects ∨
    (state.cm.allocatedSects = state.cm.allowedSects + 1 ∧
      ∀ other < state.cm.totalSects, (sects other).Resident → (sects other).usage = 0)

theorem Settled.bound (settled : Settled state sects) :
    state.cm.allocatedSects ≤ state.cm.allowedSects + 1 := by
  rcases settled.limit with within | ⟨beyond, _⟩ <;> omega

/-- Between the use of a section and the cleanup after it. -/
structure Using (state : CowState) (used : Nat) (sects : Nat → CowSection) : Prop where
  counted : Counted state sects
  bounded : used < state.cm.totalSects
  limit : state.cm.allocatedSects ≤ state.cm.allowedSects + 1 ∨
    ∀ other < state.cm.totalSects, other ≠ used → (sects other).Resident → (sects other).usage = 0

/-- The cleanup brings the cache back to its limit, or resets every usage. -/
theorem cowEvict_settles {used : Nat} (using_ : Using state used sects) :
    wp cowEvict (fun _ after => ∃ sects', Settled after sects') (fun _ _ => True) state := by
  unfold cowEvict
  rw [wp_bind, wp_getCm, wp_when]
  split
  · unfold cowCleanupMappings
    rw [wp_bind, wp_getCm, using_.counted.found]
    dsimp only
    generalize medianUsage _ _ _ _ _ = thresh
    unfold cowSyncAndFreeSections
    rw [wp_bind, wp_getCm]
    have all : 0 + state.cm.totalSects ≤ state.cm.totalSects := by omega
    have loop := (Steady.cowSyncSections thresh state.cm.totalSects 0).returns
      (cowSyncSections_counts thresh using_.counted all)
    refine wp_mono loop ?_ (fun _ _ _ => trivial)
    intro _ after finished
    obtain ⟨alike, sects', all⟩ := finished
    refine ⟨sects', all.counted, ?_⟩
    rw [alike.allowedSects, alike.totalSects]
    rcases all.swept with early | each
    · left
      omega
    · have reset : ∀ other < state.cm.totalSects, (sects' other).usage = 0 :=
        fun other below => (each other (Nat.zero_le _) (by omega)).usage
      have total := alike.totalSects
      have bound : after.cm.allocatedSects ≤ state.cm.allowedSects + 1 := by
        rw [all.counted.count, total]
        rcases using_.limit with within | unused
        · have fewer : tally CowSection.Resident sects' state.cm.totalSects ≤
              tally CowSection.Resident sects state.cm.totalSects :=
            Tally.mono fun other _ => all.stays other
          have before := using_.counted.count
          omega
        · have one : tally CowSection.Resident sects' state.cm.totalSects ≤ 1 := by
            refine Tally.le_one used fun other below resident => ?_
            by_contra apart
            have swept := (each other (Nat.zero_le _) (by omega)).stays resident
            have zero := unused other below apart swept.1
            omega
          omega
      by_cases within : after.cm.allocatedSects ≤ state.cm.allowedSects
      · exact .inl within
      · exact .inr ⟨by omega, fun other below _ => reset other below⟩
  · rename_i within
    simp only [decide_eq_true_eq, gt_iff_lt, Nat.not_lt] at within
    exact ⟨sects, using_.counted, .inl within⟩

/-- A section in use has a buffer, and the others are as they were. -/
structure InUse (used : Nat) (before : CowState) (sects : Nat → CowSection) (state : CowState)
    (sects' : Nat → CowSection) : Prop where
  alike : Alike before state
  counted : Counted state sects'
  resident : (sects' used).Resident
  others : ∀ other, other ≠ used → sects' other = sects other
  count : state.cm.allocatedSects ≤ before.cm.allocatedSects + 1

variable {used pos val : Nat} {sects' : Nat → CowSection}

theorem InUse.using (inUse : InUse used state sects after sects') (settled : Settled state sects)
    (bounded : used < state.cm.totalSects) : Using after used sects' := by
  refine ⟨inUse.counted, by rw [inUse.alike.totalSects]; exact bounded, ?_⟩
  have count := inUse.count
  rw [inUse.alike.allowedSects, inUse.alike.totalSects]
  rcases settled.limit with within | ⟨_, unused⟩
  · left
    omega
  · right
    intro other below apart
    rw [inUse.others other apart]
    exact unused other below

theorem InUse.settles (inUse : InUse used state sects after sects') (settled : Settled state sects)
    (bounded : used < state.cm.totalSects) :
    wp cowEvict (fun _ after => ∃ sects', Settled after sects') (fun _ _ => True) after :=
  cowEvict_settles (inUse.using settled bounded)

/-- The usage of a section is counted. -/
def CowState.withUsage (state : CowState) (sects : Nat → CowSection) (used : Nat) : CowState :=
  { state with
    cm := { state.cm with
      sects := some (Function.update sects used
        { sects used with usage := (sects used).usage + 1 }) } }

theorem Counted.withUsage (counted : Counted state sects) (bounded : used < state.cm.totalSects) :
    Counted (state.withUsage sects used)
      (Function.update sects used { sects used with usage := (sects used).usage + 1 }) :=
  counted.of_same bounded { sects used with usage := (sects used).usage + 1 } Iff.rfl rfl

theorem Alike.withUsage (found : state.cm.sects = some sects) :
    Alike state (state.withUsage sects used) := ⟨rfl, by rw [found]; rfl, rfl, fun _ => rfl⟩

/-- A section that was cached before is in use once its usage is counted. -/
theorem InUse.of_cached (counted : Counted state sects) (bounded : used < state.cm.totalSects)
    (cached : (sects used).Resident) :
    InUse used state sects (state.withUsage sects used)
      (Function.update sects used { sects used with usage := (sects used).usage + 1 }) := by
  refine ⟨.withUsage counted.found, counted.withUsage bounded, ?_, fun other apart => ?_,
    Nat.le_succ _⟩
  · rw [Function.update_self]
    exact cached
  · rw [Function.update_of_ne apart]

/-- The section an access finds absent, once it was allocated or loaded. -/
theorem InUse.of_filled {program : CowM Unit} (steady : Steady program)
    (counted : Counted state sects)
    (filled : wp program
      (fun _ after => ∃ sect,
        Counted after (Function.update
          (Function.update sects used { sects used with usage := (sects used).usage + 1 }) used
          sect) ∧ sect.Resident ∧
        after.cm.allocatedSects = (state.withUsage sects used).cm.allocatedSects + 1)
      (fun _ _ => True) (state.withUsage sects used)) :
    wp program (fun _ after => ∃ sects', InUse used state sects after sects') (fun _ _ => True)
      (state.withUsage sects used) := by
  refine wp_mono (steady.returns filled) ?_ (fun _ _ _ => trivial)
  intro _ after both
  obtain ⟨alike, sect, counted', resident, count⟩ := both
  rw [Function.update_idem] at counted'
  refine ⟨_, (Alike.withUsage counted.found).trans alike, counted', ?_, fun other apart => ?_,
    Nat.le_of_eq count⟩
  · rw [Function.update_self]
    exact resident
  · rw [Function.update_of_ne apart]

theorem cowReadMapping_settles (settled : Settled state sects) :
    wp (cowReadMapping pos) (fun _ after => ∃ sects', Settled after sects') (fun _ _ => True)
      state := by
  have found := settled.counted.found
  by_cases bounded : pos / state.cm.sectSize < state.cm.totalSects
  · -- The section is in memory; what is left is to read it and to clean up.
    have finish : ∀ middle, (∃ sects', InUse (pos / state.cm.sectSize) state sects middle sects') →
        wp (do
            let mappings ← sectMappings (pos / state.cm.sectSize)
            cowEvict
            pure (mappings (pos % state.cm.sectSize)))
          (fun _ after => ∃ sects', Settled after sects') (fun _ _ => True) middle := by
      intro middle ready
      obtain ⟨sects', inUse⟩ := ready
      obtain ⟨mappings, cached⟩ := Option.isSome_iff_exists.mp inUse.resident
      have bounded' := inUse.alike.totalSects ▸ bounded
      rw [wp_bind, wp_sectMappings inUse.counted.found bounded' cached, wp_bind]
      exact wp_mono (inUse.settles settled bounded) (fun _ _ => id) (fun _ _ => id)
    unfold cowReadMapping
    rw [wp_bind, wp_getCm, wp_bind, wp_sectAt found bounded, wp_bind, wp_updateSect found, wp_ite]
    split
    · rename_i absent
      simp only [Bool.and_eq_true, Option.isNone_iff_eq_none] at absent
      refine ⟨_, settled.counted.withUsage bounded, settled.limit.imp_right fun beyond => ?_⟩
      refine ⟨beyond.1, fun other below resident => ?_⟩
      by_cases same : other = pos / state.cm.sectSize
      · subst same
        rw [Function.update_self] at resident
        have cached : (sects (pos / state.cm.sectSize)).mappings.isSome = true := resident
        rw [absent.1] at cached
        contradiction
      · rw [Function.update_of_ne same] at resident ⊢
        exact beyond.2 other below resident
    · rw [wp_bind, wp_when]
      split
      · rename_i absent
        have missing : ¬ (sects (pos / state.cm.sectSize)).Resident := by
          simpa [CowSection.Resident] using absent
        refine wp_mono (InUse.of_filled (.cowLoadSection _) settled.counted
          (cowLoadSection_counts (settled.counted.withUsage bounded) bounded ?_)) ?_
          (fun _ _ => id)
        · rw [Function.update_self]
          exact missing
        · intro _ middle inUse
          exact finish middle inUse
      · rename_i cached
        have resident : (sects (pos / state.cm.sectSize)).Resident := by
          simpa [CowSection.Resident, Option.isSome_iff_ne_none] using cached
        exact finish _ ⟨_, .of_cached settled.counted bounded resident⟩
  · unfold cowReadMapping
    rw [wp_bind, wp_getCm, wp_bind, wp_sectAt_invalid (.inr bounded)]
    trivial

theorem cowWriteMapping_settles (settled : Settled state sects) :
    wp (cowWriteMapping pos val) (fun _ after => ∃ sects', Settled after sects')
      (fun _ _ => True) state := by
  have found := settled.counted.found
  by_cases bounded : pos / state.cm.sectSize < state.cm.totalSects
  · -- The section is in memory; what is left is to count the change, store it and clean up.
    have finish : ∀ middle, (∃ sects', InUse (pos / state.cm.sectSize) state sects middle sects') →
        wp (do
            let mappings ← sectMappings (pos / state.cm.sectSize)
            updateCm fun cm =>
              { cm with
                nrChangedBlocks :=
                  if cm.version ≥ cowVersionChangedBlocks ∧
                      mappings (pos % state.cm.sectSize) = 0 then
                    cm.nrChangedBlocks + 1
                  else cm.nrChangedBlocks }
            updateSect (pos / state.cm.sectSize) fun sect =>
              { sect with
                mappings := some (Function.update mappings (pos % state.cm.sectSize) val) }
            cowEvict)
          (fun _ after => ∃ sects', Settled after sects') (fun _ _ => True) middle := by
      intro middle ready
      obtain ⟨sects', inUse⟩ := ready
      obtain ⟨mappings, cached⟩ := Option.isSome_iff_exists.mp inUse.resident
      have bounded' := inUse.alike.totalSects ▸ bounded
      rw [wp_bind, wp_sectMappings inUse.counted.found bounded' cached, wp_bind, wp_updateCm,
        wp_bind]
      generalize (if middle.cm.version ≥ cowVersionChangedBlocks ∧
        mappings (pos % state.cm.sectSize) = 0 then middle.cm.nrChangedBlocks + 1
          else middle.cm.nrChangedBlocks) = changed
      refine (wp_updateSect (s := middle.withChanged changed) inUse.counted.found _).mpr ?_
      let stored : CowSection :=
        { sects' (pos / state.cm.sectSize) with
          mappings := some (Function.update mappings (pos % state.cm.sectSize) val) }
      have kept := inUse.counted.of_same bounded' stored
        (iff_of_true rfl inUse.resident) rfl
      have assigned : InUse (pos / state.cm.sectSize) state sects
          { middle.withChanged changed with
            cm := { (middle.withChanged changed).cm with
              sects := some (Function.update sects' (pos / state.cm.sectSize) stored) } }
          (Function.update sects' (pos / state.cm.sectSize) stored) := by
        refine ⟨inUse.alike.trans ⟨rfl, ?_, rfl, fun _ => rfl⟩, ⟨kept.found, kept.count⟩, ?_,
          fun other apart => ?_, inUse.count⟩
        · rw [inUse.counted.found]
          rfl
        · rw [Function.update_self]
          rfl
        · rw [Function.update_of_ne apart, inUse.others other apart]
      exact assigned.settles settled bounded
    unfold cowWriteMapping
    rw [wp_bind, wp_getCm, wp_bind, wp_sectAt found bounded, wp_bind, wp_updateSect found, wp_bind,
      wp_when]
    have same : (Function.update sects (pos / state.cm.sectSize)
        { sects (pos / state.cm.sectSize) with
          usage := (sects (pos / state.cm.sectSize)).usage + 1 }
        (pos / state.cm.sectSize)).mappings = (sects (pos / state.cm.sectSize)).mappings := by
      rw [Function.update_self]
    split
    · rename_i absent
      have missing : ¬ CowSection.Resident (Function.update sects (pos / state.cm.sectSize)
          { sects (pos / state.cm.sectSize) with
            usage := (sects (pos / state.cm.sectSize)).usage + 1 } (pos / state.cm.sectSize)) := by
        unfold CowSection.Resident
        rw [same]
        simpa using absent
      have counted := settled.counted.withUsage bounded
      rw [wp_ite]
      split
      · exact wp_mono (InUse.of_filled (.cowLoadSection _) settled.counted
          (cowLoadSection_counts counted bounded missing)) (fun _ middle => finish middle)
          (fun _ _ => id)
      · exact wp_mono (InUse.of_filled (.cowAllocSection _) settled.counted
          (cowAllocSection_counts counted bounded missing)) (fun _ middle => finish middle)
          (fun _ _ => id)
    · rename_i cached
      have resident : (sects (pos / state.cm.sectSize)).Resident := by
        simpa [CowSection.Resident, Option.isSome_iff_ne_none] using cached
      exact finish _ ⟨_, .of_cached settled.counted bounded resident⟩
  · unfold cowWriteMapping
    rw [wp_bind, wp_getCm, wp_bind, wp_sectAt_invalid (.inr bounded)]
    trivial

/-- An access of the index. -/
inductive MapAccess where
  | read (pos : Nat)
  | write (pos val : Nat)
  deriving DecidableEq, Repr

namespace MapAccess

def position : MapAccess → Nat
  | read pos => pos
  | write pos _ => pos

def exec : MapAccess → CowM Unit
  | read pos => do
      let _ ← cowReadMapping pos
      pure ()
  | write pos val => cowWriteMapping pos val

end MapAccess

def accessAll : List MapAccess → CowM Unit
  | [] => pure ()
  | access :: rest => do
      access.exec
      accessAll rest

/-- Nothing is cached. -/
structure NothingCached (cm : CowManager) : Prop where
  allocated : cm.allocatedSects = 0
  uncached : ∀ sects, cm.sects = some sects → ∀ idx < cm.totalSects, (sects idx).mappings = none

theorem NothingCached.settled (empty : NothingCached state.cm) (found : state.cm.sects = some sects) :
    Settled state sects := by
  refine ⟨⟨found, ?_⟩, .inl ?_⟩
  · rw [empty.allocated]
    refine (Tally.eq_zero fun idx below held => ?_).symm
    have absent := empty.uncached sects found idx below
    unfold CowSection.Resident at held
    rw [absent] at held
    contradiction
  · rw [empty.allocated]
    exact Nat.zero_le _

theorem MapAccess.settles (access : MapAccess) (settled : Settled state sects) :
    wp access.exec (fun _ after => Alike state after ∧ ∃ sects', Settled after sects')
      (fun _ _ => True) state := by
  cases access with
  | read pos =>
      unfold MapAccess.exec
      rw [wp_bind]
      exact (Steady.cowReadMapping pos).returns (cowReadMapping_settles settled)
  | write pos val => exact (Steady.cowWriteMapping pos val).returns (cowWriteMapping_settles settled)

theorem accessAll_settles (accesses : List MapAccess) (settled : Settled state sects) :
    wp (accessAll accesses) (fun _ after => Alike state after ∧ ∃ sects', Settled after sects')
      (fun _ _ => True) state := by
  induction accesses generalizing state sects with
  | nil => exact ⟨.refl state, sects, settled⟩
  | cons access rest ih =>
      unfold accessAll
      rw [wp_bind]
      refine wp_mono (access.settles settled) ?_ (fun _ _ => id)
      intro _ middle both
      obtain ⟨alike, sects', settled'⟩ := both
      refine wp_mono (ih settled') ?_ (fun _ _ => id)
      intro _ after rest
      exact ⟨alike.trans rest.1, rest.2⟩

/-- Where nothing fails, every access in range returns. -/
theorem accessAll_returns (accesses : List MapAccess) (inv : CowInv state.cm state.file)
    (ready : Ready state) (calm : state.outcomes = [])
    (inside : ∀ access ∈ accesses, state.cm.InRange access.position) :
    wp (accessAll accesses) (fun _ _ => True) (fun _ _ => False) state := by
  induction accesses generalizing state with
  | nil => trivial
  | cons access rest ih =>
      obtain ⟨sects, found⟩ := Option.isSome_iff_exists.mp ready.array
      have here := inside access List.mem_cons_self
      have later : ∀ (changed : Nat) (middle : CowState),
          SectionTraffic (state.withChanged changed) middle → CowInv middle.cm middle.file →
          wp (accessAll rest) (fun _ _ => True) (fun _ _ => False) middle := by
        intro changed middle traffic inv'
        have ready' : Ready (state.withChanged changed) := ⟨ready.opened, ready.array, ready.file⟩
        exact ih inv' (traffic.ready ready') (traffic.calm calm) fun other member =>
          (traffic.inRange _).mpr (inside other (List.mem_cons_of_mem _ member))
      unfold accessAll
      rw [wp_bind]
      cases access with
      | read pos =>
          unfold MapAccess.exec
          rw [wp_bind]
          refine wp_mono (cowReadMapping_spec inv found here) ?_ ?_
          · intro _ middle read
            exact later state.cm.nrChangedBlocks middle read.1.traffic read.1.inv
          · intro _ _ stop
            exact stop.excuse.failure ready calm
      | write pos val =>
          refine wp_mono (cowWriteMapping_spec val inv found here) ?_ ?_
          · intro _ middle assigned
            exact later _ middle assigned.traffic assigned.inv
          · intro _ _ stop
            exact stop.excuse.failure ready calm

theorem CowManager.residents_of (counted : Counted state sects) :
    state.cm.allocatedSects = state.cm.residents := by
  unfold CowManager.residents
  rw [counted.found]
  exact counted.count

/-- From an empty cache on, the counter stays the number of cached sections and at most
one above the limit, after any accesses that return; and where nothing fails, all
accesses in range do. -/
theorem section_cache_bounded (accesses : List MapAccess) (empty : NothingCached state.cm) :
    (∀ after, accessAll accesses state = (.ok (), after) →
      after.cm.allocatedSects = after.cm.residents ∧
        after.cm.allocatedSects ≤ state.cm.allowedSects + 1) ∧
    (CowInv state.cm state.file → Ready state → state.outcomes = [] →
      (∀ access ∈ accesses, state.cm.InRange access.position) →
      ∃ after, accessAll accesses state = (.ok (), after)) := by
  constructor
  · intro after ran
    cases found : state.cm.sects with
    | some sects =>
        obtain ⟨alike, sects', settled⟩ :=
          wp_done (accessAll_settles accesses (empty.settled found)) ran
        refine ⟨CowManager.residents_of settled.counted, ?_⟩
        rw [← alike.allowedSects]
        exact settled.bound
    | none =>
        -- Without an array only the empty list of accesses returns.
        have stays : wp (accessAll accesses) (fun _ last => last = state) (fun _ _ => True) state := by
          cases accesses with
          | nil => rfl
          | cons access rest =>
              unfold accessAll
              rw [wp_bind]
              cases access with
              | read pos =>
                  unfold MapAccess.exec cowReadMapping
                  rw [wp_bind, wp_bind, wp_getCm, wp_bind, wp_sectAt_invalid (.inl found)]
                  trivial
              | write pos val =>
                  unfold MapAccess.exec cowWriteMapping
                  rw [wp_bind, wp_getCm, wp_bind, wp_sectAt_invalid (.inl found)]
                  trivial
        have same := wp_done stays ran
        subst same
        unfold CowManager.residents
        rw [found, empty.allocated]
        exact ⟨rfl, Nat.zero_le _⟩
  · intro inv ready calm inside
    have returns := accessAll_returns accesses inv ready calm inside
    unfold wp at returns
    rcases ran : accessAll accesses state with ⟨_ | value, after⟩
    · rw [ran] at returns
      exact returns.elim
    · exact ⟨after, rfl⟩

/-- No section may stay cached: the second write finds the section of the first. -/
theorem section_cache_bounded_evicting :
    let created := (cowInit 8192 cowSectionSize 0 (100 * cowBlockSize) 0#128 1 freshState).2
    ∃ after, accessAll [.read 3, .write 3 7, .read 5000, .write 5000 8] created = (.ok (), after) ∧
      after.cm.allocatedSects = after.cm.residents ∧
        after.cm.allocatedSects ≤ created.cm.allowedSects + 1 := by
  intro created
  let accesses : List MapAccess := [.read 3, .write 3 7, .read 5000, .write 5000 8]
  have ran : accessAll accesses created = (.ok (), (accessAll accesses created).2) :=
    ran_of_reply (by decide +kernel)
  have blank : created.cm.sects = some fun _ => ⟨false, 0, none⟩ := rfl
  have empty : NothingCached created.cm := by
    refine ⟨by decide +kernel, fun sects found idx _ => ?_⟩
    rw [blank] at found
    cases found
    rfl
  exact ⟨_, ran, (section_cache_bounded _ empty).1 _ ran⟩

end Moocbt.Cow
