import Moocbt.Cow.Sections

/-! Reads and writes of the index and of COW data, against the map of the index. -/

namespace Moocbt.Cow

open Program

variable {state : CowState} {sects : Nat → CowSection} {idx pos val : Nat}

/-- The section is in memory, ready for an access. -/
def Cached (state : CowState) (idx : Nat) : Prop :=
  ∃ sects mappings, state.cm.sects = some sects ∧ (sects idx).mappings = some mappings

theorem Cached.lookup {mappings : Nat → Nat} (found : state.cm.sects = some sects)
    (cached : (sects (pos / state.cm.sectSize)).mappings = some mappings) :
    state.lookup pos = mappings (pos % state.cm.sectSize) := by
  simp only [CowState.lookup, CowManager.lookup, found, CowSection.entry, cached]

/-- A section without data is allocated as zeros. -/
theorem cowAllocSection_kept (inv : CowInv state.cm state.file)
    (found : state.cm.sects = some sects) (bounded : idx < state.cm.totalSects)
    (uncached : (sects idx).mappings = none) (empty : (sects idx).hasData = false) :
    wp (cowAllocSection idx) (fun _ after => Kept state after ∧ Cached after idx)
      (Stopped state) state := by
  refine wp_mono (cowAllocSection_spec found bounded) ?_ ?_
  · rintro _ _ ⟨rest, leaves, rfl⟩
    refine ⟨Kept.of_section inv found ?_ (by simp) leaves,
      _, _, rfl, by rw [Function.update_self]⟩
    intro pos _
    simp [CowSection.entry, uncached, empty]
  · rintro reason _ ⟨excuse, rest, leaves, rfl⟩
    exact .of_kept excuse (.of_outcomes inv leaves)

/-- The section an access needs, with the access counted. -/
theorem Kept.of_access (inv : CowInv state.cm state.file) (found : state.cm.sects = some sects)
    (inside : state.cm.InRange pos) :
    Kept state { state with
      cm := { state.cm with
        sects := some (Function.update sects (pos / state.cm.sectSize)
          { sects (pos / state.cm.sectSize) with
            usage := (sects (pos / state.cm.sectSize)).usage + 1 }) } } :=
  .of_usage inv found inside _

theorem cowReadMapping_spec (inv : CowInv state.cm state.file)
    (found : state.cm.sects = some sects) (inside : state.cm.InRange pos) :
    wp (cowReadMapping pos) (fun value after => Kept state after ∧ value = state.lookup pos)
      (Stopped state) state := by
  have used := Kept.of_access inv found inside
  have finish : ∀ middle : CowState, Kept state middle →
      Cached middle (pos / state.cm.sectSize) →
      wp (do
          let mappings ← sectMappings (pos / state.cm.sectSize)
          cowEvict
          pure (mappings (pos % state.cm.sectSize)))
        (fun value after => Kept state after ∧ value = state.lookup pos)
        (Stopped state) middle := by
    rintro middle kept ⟨sects', mappings, found', cached⟩
    have inside' := (kept.traffic.inRange pos).mpr inside
    have size := kept.traffic.sectSize
    have value : state.lookup pos = mappings (pos % state.cm.sectSize) := by
      rw [← kept.same pos inside, ← size]
      exact Cached.lookup found' (by rw [size]; exact cached)
    rw [← size] at cached ⊢
    rw [wp_bind, wp_sectMappings found' inside' cached, wp_bind]
    refine wp_mono (cowEvict_spec kept.inv found') ?_
      (fun reason after stop => stop.after_kept kept)
    intro _ after evicted
    refine ⟨kept.trans evicted, ?_⟩
    rw [value, size]
  unfold cowReadMapping
  rw [wp_bind, wp_getCm, wp_bind, wp_sectAt found inside, wp_bind, wp_updateSect found, wp_ite]
  split
  · rename_i absent
    simp only [Bool.and_eq_true, Option.isNone_iff_eq_none, Bool.not_eq_true'] at absent
    refine ⟨used, ?_⟩
    simp [CowState.lookup, CowManager.lookup, found, CowSection.entry, absent.1, absent.2]
  · rename_i present
    rw [wp_bind, wp_when]
    split
    · rename_i absent
      have uncached := Option.isNone_iff_eq_none.mp absent
      have onFile : (sects (pos / state.cm.sectSize)).hasData = true := by
        simpa [uncached] using present
      refine wp_mono (cowLoadSection_spec used.inv rfl inside ?_ ?_) ?_
        (fun reason after stop => stop.after_kept used)
      · rw [Function.update_self]
        exact uncached
      · rw [Function.update_self]
        exact onFile
      · rintro _ middle ⟨loaded, ready⟩
        exact finish _ (used.trans loaded) ready
    · rename_i cached
      obtain ⟨mappings, cached⟩ := Option.ne_none_iff_exists'.mp
        (mt Option.isNone_iff_eq_none.mpr cached)
      exact finish _ used ⟨_, mappings, rfl, by rw [Function.update_self]; exact cached⟩

/-- `cm->nr_changed_blocks` after a write at `pos`. -/
def CowState.changedBlocks (state : CowState) (pos : Nat) : Nat :=
  if state.cm.version ≥ cowVersionChangedBlocks ∧ state.lookup pos = 0 then
    state.cm.nrChangedBlocks + 1
  else state.cm.nrChangedBlocks

def CowState.withChanged (state : CowState) (changed : Nat) : CowState :=
  { state with cm := { state.cm with nrChangedBlocks := changed } }

theorem SectionTraffic.withChanged {before after : CowState}
    (traffic : SectionTraffic before after) (changed : Nat) :
    SectionTraffic (before.withChanged changed) (after.withChanged changed) := by
  obtain ⟨sects, allocated, same⟩ := traffic.manager
  refine ⟨⟨sects, allocated, ?_⟩, traffic.array, traffic.file, traffic.closed, traffic.calm⟩
  simp only [CowState.withChanged, same]
  rfl

theorem Excuse.of_changed {changed : Nat} {reason : Stop}
    (excuse : Excuse (state.withChanged changed) reason) : Excuse state reason :=
  ⟨excuse.invalid, fun ready => excuse.failure ⟨ready.opened, ready.array, ready.file⟩⟩

/-- The write of `val` at `pos` took effect, and nothing else changed the map. -/
structure Assigned (before : CowState) (pos val : Nat) (after : CowState) : Prop where
  inv : CowInv after.cm after.file
  traffic : SectionTraffic (before.withChanged (before.changedBlocks pos)) after
  map : ∀ other, before.cm.InRange other →
    after.lookup other = Function.update before.lookup pos val other

theorem Assigned.trans {first second third : CowState} (left : Assigned first pos val second)
    (right : Kept second third) : Assigned first pos val third := by
  refine ⟨right.inv, left.traffic.trans right.traffic, ?_⟩
  intro other inside
  exact (right.same other ((left.traffic.inRange other).mpr inside)).trans (left.map other inside)

theorem Kept.assigned {first second third : CowState} (left : Kept first second)
    (inside : first.cm.InRange pos) (right : Assigned second pos val third) :
    Assigned first pos val third := by
  obtain ⟨_, _, manager⟩ := left.traffic.manager
  have count : second.changedBlocks pos = first.changedBlocks pos := by
    unfold CowState.changedBlocks
    rw [left.same pos inside, manager]
    rfl
  refine ⟨right.inv, ?_, ?_⟩
  · rw [← count]
    exact (left.traffic.withChanged _).trans right.traffic
  · intro other within
    rw [right.map other ((left.traffic.inRange other).mpr within)]
    by_cases same : other = pos
    · subst same
      rw [Function.update_self, Function.update_self]
    · rw [Function.update_of_ne same, Function.update_of_ne same]
      exact left.same other within

/-- A write that stopped has taken effect or not. -/
structure WriteStopped (before : CowState) (pos val : Nat) (reason : Stop) (after : CowState) :
    Prop where
  excuse : Excuse before reason
  traffic : ∃ changed, SectionTraffic (before.withChanged changed) after
  either : ∀ error, reason = .errno error → Kept before after ∨ Assigned before pos val after

theorem Stopped.write {before after : CowState} {reason : Stop}
    (stop : Stopped before reason after) : WriteStopped before pos val reason after :=
  ⟨stop.excuse, ⟨before.cm.nrChangedBlocks, stop.traffic⟩,
    fun error same => .inl (stop.kept error same)⟩

/-- The assignment itself, in a state where the section is cached. -/
theorem Assigned.of_cached (val : Nat) (inv : CowInv state.cm state.file)
    (found : state.cm.sects = some sects) (inside : state.cm.InRange pos)
    {mappings : Nat → Nat}
    (cached : (sects (pos / state.cm.sectSize)).mappings = some mappings) :
    Assigned state pos val
      { state with
        cm := { state.cm with
          nrChangedBlocks := state.changedBlocks pos
          sects := some (Function.update sects (pos / state.cm.sectSize)
            { sects (pos / state.cm.sectSize) with
              mappings := some
                (Function.update mappings (pos % state.cm.sectSize) val) }) } } := by
  refine ⟨⟨inv.positive, inv.aligned, inv.offset, ?_⟩,
    ⟨⟨_, _, rfl⟩, by rw [CowState.withChanged, found]; rfl, .refl _ _, fun _ => rfl, id⟩, ?_⟩
  · intro sects' idx' same bounded empty
    cases same
    by_cases this : idx' = pos / state.cm.sectSize
    · subst this
      simp only [Function.update_self] at empty
      have blank := (inv.blank sects _ found bounded empty).uncached
      rw [cached] at blank
      contradiction
    · rw [Function.update_of_ne this] at empty ⊢
      have old := inv.blank sects idx' found bounded empty
      exact ⟨old.uncached, old.zero, old.head⟩
  · intro other _
    by_cases same : other = pos
    · subst same
      simp [CowState.lookup, CowManager.lookup, CowSection.entry]
    · rw [Function.update_of_ne same]
      by_cases this : other / state.cm.sectSize = pos / state.cm.sectSize
      · have apart : other % state.cm.sectSize ≠ pos % state.cm.sectSize := by
          intro offset
          have left := Nat.div_add_mod other state.cm.sectSize
          have right := Nat.div_add_mod pos state.cm.sectSize
          rw [this, offset] at left
          exact same (left.symm.trans right)
        simp [CowState.lookup, CowManager.lookup, found, CowSection.entry, this, cached,
          Function.update_of_ne apart]
      · simp [CowState.lookup, CowManager.lookup, found, Function.update_of_ne this]

/-- The entry an access is for, with the section it found or brought into memory. -/
structure Slot where
  sectIdx : Nat
  sectPos : Nat
  mappings : Nat → Nat

/-- `__cow_write_mapping` up to the change of the entry. -/
def cowPrepareMapping (pos : Nat) : CowM Slot := do
  let cm ← getCm
  let sectIdx := pos / cm.sectSize
  let sectPos := pos % cm.sectSize
  let sect ← sectAt sectIdx
  updateSect sectIdx fun sect => { sect with usage := sect.usage + 1 }
  when sect.mappings.isNone
    (if sect.hasData then cowLoadSection sectIdx else cowAllocSection sectIdx)
  let mappings ← sectMappings sectIdx
  pure ⟨sectIdx, sectPos, mappings⟩

/-- The change of the entry, with its count. -/
def cowStoreMapping (slot : Slot) (val : Nat) : CowM Unit := do
  updateCm fun cm =>
    { cm with
      nrChangedBlocks :=
        if cm.version ≥ cowVersionChangedBlocks ∧ slot.mappings slot.sectPos = 0 then
          cm.nrChangedBlocks + 1
        else cm.nrChangedBlocks }
  updateSect slot.sectIdx fun sect =>
    { sect with mappings := some (Function.update slot.mappings slot.sectPos val) }

theorem cowWriteMapping_eq (pos val : Nat) :
    cowWriteMapping pos val = cowPrepareMapping pos >>= fun slot =>
      cowStoreMapping slot val >>= fun _ => cowEvict := by
  unfold cowWriteMapping cowPrepareMapping cowStoreMapping
  simp only [bind_assoc]
  rfl

/-- The slot of a position is ready for its change. -/
structure Prepares (before : CowState) (pos : Nat) (slot : Slot) (after : CowState) : Prop where
  kept : Kept before after
  sectIdx : slot.sectIdx = pos / after.cm.sectSize
  sectPos : slot.sectPos = pos % after.cm.sectSize
  cached : ∃ sects, after.cm.sects = some sects ∧
    (sects slot.sectIdx).mappings = some slot.mappings

theorem cowPrepareMapping_spec (inv : CowInv state.cm state.file)
    (found : state.cm.sects = some sects) (inside : state.cm.InRange pos) :
    wp (cowPrepareMapping pos) (fun slot after => Prepares state pos slot after)
      (Stopped state) state := by
  have used := Kept.of_access inv found inside
  have finish : ∀ middle : CowState, Kept state middle →
      Cached middle (pos / state.cm.sectSize) →
      wp (do
          let mappings ← sectMappings (pos / state.cm.sectSize)
          pure (⟨pos / state.cm.sectSize, pos % state.cm.sectSize, mappings⟩ : Slot))
        (fun slot after => Prepares state pos slot after) (Stopped state) middle := by
    intro middle kept ready
    obtain ⟨sects', mappings, found', cached⟩ := ready
    have inside' := (kept.traffic.inRange pos).mpr inside
    have size := kept.traffic.sectSize
    rw [← size] at cached ⊢
    rw [wp_bind, wp_sectMappings found' inside' cached]
    exact ⟨kept, rfl, rfl, sects', found', cached⟩
  unfold cowPrepareMapping
  rw [wp_bind, wp_getCm, wp_bind, wp_sectAt found inside, wp_bind, wp_updateSect found, wp_bind,
    wp_when]
  split
  · rename_i absent
    have uncached := Option.isNone_iff_eq_none.mp absent
    rw [wp_ite]
    split
    · rename_i onFile
      refine wp_mono (cowLoadSection_spec used.inv rfl inside ?_ ?_) ?_
        (fun reason after stop => stop.after_kept used)
      · rw [Function.update_self]
        exact uncached
      · rw [Function.update_self]
        exact onFile
      · rintro _ middle ⟨loaded, ready⟩
        exact finish _ (used.trans loaded) ready
    · rename_i empty
      refine wp_mono (cowAllocSection_kept used.inv rfl inside ?_ ?_) ?_
        (fun reason after stop => stop.after_kept used)
      · rw [Function.update_self]
        exact uncached
      · rw [Function.update_self]
        simpa using empty
      · rintro _ middle ⟨loaded, ready⟩
        exact finish _ (used.trans loaded) ready
  · rename_i cached
    obtain ⟨mappings, cached⟩ := Option.ne_none_iff_exists'.mp
      (mt Option.isNone_iff_eq_none.mpr cached)
    exact finish _ used ⟨_, mappings, rfl, by rw [Function.update_self]; exact cached⟩

theorem cowStoreMapping_spec {middle : CowState} {slot : Slot} (val : Nat) (ready : Prepares state pos slot middle)
    (inside : state.cm.InRange pos) :
    wp (cowStoreMapping slot val) (fun _ after => Assigned middle pos val after ∧
      ∃ sects, after.cm.sects = some sects) (fun _ _ => False) middle := by
  obtain ⟨sects, found, cached⟩ := ready.cached
  have inside' := (ready.kept.traffic.inRange pos).mpr inside
  have located := ready.sectIdx
  rw [located] at cached
  have value := Cached.lookup found cached
  have assigned := Assigned.of_cached val ready.kept.inv found inside' cached
  unfold cowStoreMapping
  rw [wp_bind, wp_updateCm, located, ready.sectPos, ← value]
  refine (wp_updateSect (s := middle.withChanged (middle.changedBlocks pos)) found _).mpr ?_
  exact ⟨assigned, _, rfl⟩

theorem cowWriteMapping_spec (val : Nat) (inv : CowInv state.cm state.file)
    (found : state.cm.sects = some sects) (inside : state.cm.InRange pos) :
    wp (cowWriteMapping pos val) (fun _ after => Assigned state pos val after)
      (WriteStopped state pos val) state := by
  rw [cowWriteMapping_eq, wp_bind]
  refine wp_mono (cowPrepareMapping_spec inv found inside) ?_ (fun _ _ stop => stop.write)
  intro slot middle ready
  have kept := ready.kept
  rw [wp_bind]
  refine wp_mono (cowStoreMapping_spec val ready inside) ?_ (fun _ _ => False.elim)
  intro _ stored both
  obtain ⟨assigned, sects', found'⟩ := both
  refine wp_mono (cowEvict_spec assigned.inv found') ?_ ?_
  · intro _ after evicted
    exact kept.assigned inside (assigned.trans evicted)
  · intro reason after stop
    have whole := fun error same => assigned.trans (stop.kept error same)
    refine ⟨?_, ?_, fun error same => .inr (kept.assigned inside (whole error same))⟩
    · exact (stop.excuse.of_traffic assigned.traffic).of_changed.of_traffic kept.traffic
    · exact ⟨_, (kept.traffic.withChanged _).trans (assigned.traffic.trans stop.traffic)⟩

end Moocbt.Cow
