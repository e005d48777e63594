import Moocbt.Cow.Rules

/-! Section traffic keeps the map: allocating, loading, flushing and freeing the
sections, whatever fails in between. -/

namespace Moocbt.Cow

open Program

variable {state : CowState} {sects : Nat → CowSection} {idx : Nat}

theorem cowAllocSection_spec (found : state.cm.sects = some sects)
    (bounded : idx < state.cm.totalSects) :
    wp (cowAllocSection idx)
      (fun _ after => ∃ rest, Leaves state rest ∧
        after = ⟨state.cm.withSections
            (some (Function.update sects idx ⟨true, (sects idx).usage, some fun _ => 0⟩))
            (state.cm.allocatedSects + 1),
          state.file, rest⟩)
      (fun reason after => Excuse state reason ∧
        ∃ rest, Leaves state rest ∧ after = { state with outcomes := rest }) state := by
  unfold cowAllocSection
  rw [wp_bind, wp_sectAt found bounded, wp_bind]
  apply wp_allocate
  · intro rest leaves
    rw [wp_bind, wp_updateSect (s := { state with outcomes := rest }) found, wp_updateCm]
    exact ⟨rest, leaves, rfl⟩
  · intro reason rest valid failure
    exact ⟨.of_failure valid failure, rest, .of_failure failure rest, rfl⟩

theorem wp_cowFreeSection {s : CowState} {done : Unit → CowState → Prop} {stopped : Stop → CowState → Prop}
    (found : s.cm.sects = some sects) :
    wp (cowFreeSection idx) done stopped s ↔
      done () ⟨s.cm.withSections
          (some (Function.update sects idx ⟨(sects idx).hasData, (sects idx).usage, none⟩))
          (s.cm.allocatedSects - 1),
        s.file, s.outcomes⟩ := by
  rw [cowFreeSection, wp_bind, wp_updateSect found, wp_updateCm]
  rfl

/-- Loading a section that is on file caches it; a failing read frees it again. -/
theorem cowLoadSection_spec (inv : CowInv state.cm state.file)
    (found : state.cm.sects = some sects) (bounded : idx < state.cm.totalSects)
    (uncached : (sects idx).mappings = none) (onFile : (sects idx).hasData = true) :
    wp (cowLoadSection idx)
      (fun _ after => Kept state after ∧ ∃ sects' mappings,
        after.cm.sects = some sects' ∧ (sects' idx).mappings = some mappings)
      (Stopped state) state := by
  have entry : ∀ pos, (sects idx).entry state.file state.cm.sectSize pos =
      fileWord state.file (headerWords + pos) := by
    intro pos
    simp only [CowSection.entry, uncached, onFile, if_true]
  -- The state after the allocation; its map is not the one of `state`.
  let allocated (rest : List Outcome) : CowState :=
    ⟨state.cm.withSections
        (some (Function.update sects idx ⟨true, (sects idx).usage, some fun _ => 0⟩))
        (state.cm.allocatedSects + 1),
      state.file, rest⟩
  have traffic : ∀ rest, Leaves state rest → SectionTraffic state (allocated rest) := by
    intro rest leaves
    exact ⟨⟨_, _, rfl⟩, by rw [found]; rfl, .refl _ _, fun _ => rfl, leaves⟩
  unfold cowLoadSection
  rw [wp_onErrno, wp_bind]
  refine wp_mono (cowAllocSection_spec found bounded) ?_ ?_
  · rintro _ _ ⟨rest, leaves, rfl⟩
    rw [wp_bind, wp_getCm, wp_bind]
    refine wp_mono (fileRead_spec (s := allocated rest) _ _) ?_ ?_
    · rintro words _ ⟨⟨rest', leaves', rfl⟩, rfl⟩
      rw [wp_updateSect (s := { allocated rest with outcomes := rest' }) rfl]
      simp only [allocated, Function.update_idem, Function.update_self]
      refine ⟨Kept.of_section inv found ?_ (by simp) fun none => leaves' (leaves none),
        _, _, rfl, by rw [Function.update_self]⟩
      intro pos located
      rw [entry]
      have word : state.cm.sectWord idx + pos % state.cm.sectSize = headerWords + pos := by
        have inside := (word_of_section inv).mp located
        rw [← sectWord_offset located]
        omega
      simp only [CowSection.entry]
      rw [← word]
      rfl
    · rintro reason _ ⟨excuse, rest', leaves', rfl⟩
      have excused : Excuse state reason :=
        (excuse.excuse (inv.section_end bounded)).of_traffic (traffic rest leaves)
      have leaves'' : Leaves state rest' := fun none => leaves' (leaves none)
      cases reason with
      | errno error =>
          simp only
          rw [wp_bind, wp_sectAt (s := { allocated rest with outcomes := rest' }) rfl bounded]
          simp only [Function.update_self, Option.isSome_some, wp_when, if_true]
          rw [wp_cowFreeSection (s := { allocated rest with outcomes := rest' }) rfl]
          simp only [allocated, Function.update_idem, Function.update_self]
          refine .of_kept excused (Kept.of_section inv found ?_ (by simp) leaves'')
          intro pos located
          rw [entry]
          simp only [CowSection.entry, if_true]
      | oops => exact ⟨excused, traffic rest' leaves'', by simp⟩
      | crash => exact ⟨excused, traffic rest' leaves'', by simp⟩
  · rintro reason _ ⟨excuse, rest, leaves, rfl⟩
    have stop : Stopped state reason { state with outcomes := rest } :=
      .of_kept excuse (.of_outcomes inv leaves)
    cases reason with
    | errno error =>
        simp only
        rw [wp_bind, wp_sectAt (s := { state with outcomes := rest }) found bounded, uncached]
        exact stop
    | oops => exact stop
    | crash => exact stop

/-- Flushing a cached section and freeing it. -/
theorem cowWriteSection_free_spec (inv : CowInv state.cm state.file)
    (found : state.cm.sects = some sects) (bounded : idx < state.cm.totalSects)
    {mappings : Nat → Nat} (cached : (sects idx).mappings = some mappings) :
    wp (do cowWriteSection idx; cowFreeSection idx)
      (fun _ after => Kept state after ∧ ∃ allocated file rest,
        after = ⟨state.cm.withSections
            (some (Function.update sects idx ⟨(sects idx).hasData, (sects idx).usage, none⟩))
            allocated, file, rest⟩)
      (Stopped state) state := by
  have onFile : (sects idx).hasData = true := by
    cases flag : (sects idx).hasData with
    | true => rfl
    | false =>
        have blank := (inv.blank sects idx found bounded flag).uncached
        rw [cached] at blank
        contradiction
  unfold cowWriteSection
  rw [wp_bind, wp_bind, wp_getCm, wp_bind, wp_sectMappings found bounded cached]
  refine wp_mono (fileWrite_spec _ _ mappings) ?_ ?_
  · rintro _ _ ⟨opened, present, rest, leaves, rfl⟩
    have written := Kept.of_write inv found bounded cached (Nat.le_refl _) leaves opened
    rw [wp_cowFreeSection (s := ⟨state.cm, _, rest⟩) found]
    refine ⟨written.trans (Kept.of_section written.inv found ?_ ?_ id),
      _, _, _, rfl⟩
    · intro pos located
      obtain ⟨file, stored⟩ := Option.isSome_iff_exists.mp present
      have inside := (word_of_section inv).mp located
      simp only [CowSection.entry, cached, onFile, if_true, stored, Option.map_some, fileWord,
        CowFile.writeWords, if_pos inside, sectWord_offset located]
    · intro empty
      simp [onFile] at empty
  · rintro reason _ ⟨excuse, ⟨rest, leaves, rfl⟩ | ⟨opened, written, rest, leaves, rfl⟩⟩
    · exact .of_kept (excuse.excuse (Nat.zero_le _)) (.of_outcomes inv leaves)
    · exact .of_kept (excuse.excuse (Nat.zero_le _))
        (Kept.of_write inv found bounded cached (Nat.min_le_right _ _) leaves opened)

theorem Kept.of_usage (inv : CowInv state.cm state.file) (found : state.cm.sects = some sects)
    (bounded : idx < state.cm.totalSects) (usage : Nat) :
    Kept state { state with
      cm := { state.cm with
        sects := some (Function.update sects idx { sects idx with usage }) } } :=
  Kept.of_section inv found (fun _ _ => rfl)
    (fun empty => ⟨empty, (inv.blank sects idx found bounded empty).uncached⟩) id

/-- One turn of the flushing loop touches one section. -/
theorem cowSyncSection_spec (thresh : Nat) (inv : CowInv state.cm state.file)
    (found : state.cm.sects = some sects) (bounded : idx < state.cm.totalSects) :
    wp (cowSyncSection thresh idx)
      (fun _ after => Kept state after ∧ ∃ sects', after.cm.sects = some sects' ∧
        (∀ other, other ≠ idx → sects' other = sects other) ∧
        (thresh = 0 → (sects' idx).mappings = none))
      (Stopped state) state := by
  have finish : ∀ {middle : CowState} {sects' : Nat → CowSection}, Kept state middle →
      middle.cm.sects = some sects' → (∀ other, other ≠ idx → sects' other = sects other) →
      (thresh = 0 → (sects' idx).mappings = none) →
      wp (updateSect idx fun sect => { sect with usage := 0 })
        (fun _ after => Kept state after ∧ ∃ sects', after.cm.sects = some sects' ∧
          (∀ other, other ≠ idx → sects' other = sects other) ∧
          (thresh = 0 → (sects' idx).mappings = none))
        (Stopped state) middle := by
    intro middle sects' kept found' others flushed
    have bounded' : idx < middle.cm.totalSects := by
      obtain ⟨_, _, same⟩ := kept.traffic.manager
      rw [same]
      exact bounded
    rw [wp_updateSect found']
    refine ⟨kept.trans (Kept.of_usage kept.inv found' bounded' 0), _, rfl, ?_, ?_⟩
    · intro other apart
      rw [Function.update_of_ne apart]
      exact others other apart
    · intro all
      rw [Function.update_self]
      exact flushed all
  unfold cowSyncSection
  rw [wp_bind, wp_sectAt found bounded, wp_bind, wp_when]
  split
  · rename_i chosen
    simp only [Bool.and_eq_true] at chosen
    obtain ⟨mappings, cached⟩ := Option.isSome_iff_exists.mp chosen.1
    refine wp_mono (cowWriteSection_free_spec inv found bounded cached) ?_ (fun _ _ => id)
    rintro _ _ ⟨kept, allocated, file, rest, rfl⟩
    refine finish kept rfl ?_ ?_
    · intro other apart
      rw [Function.update_of_ne apart]
    · intro _
      rw [Function.update_self]
  · rename_i skipped
    refine finish (.refl inv) found (fun _ _ => rfl) ?_
    intro all
    simpa [all] using skipped

/-- The flushing loop from a section on. -/
theorem cowSyncSections_spec (thresh remaining : Nat) (inv : CowInv state.cm state.file)
    (found : state.cm.sects = some sects) (bounded : idx + remaining ≤ state.cm.totalSects) :
    wp (cowSyncSections thresh remaining idx)
      (fun _ after => Kept state after ∧ ∃ sects', after.cm.sects = some sects' ∧
        (∀ other, other < idx → sects' other = sects other) ∧
        (thresh = 0 → ∀ other, idx ≤ other → other < idx + remaining →
          (sects' other).mappings = none))
      (Stopped state) state := by
  induction remaining generalizing state sects idx with
  | zero =>
      refine ⟨.refl inv, sects, found, fun _ _ => rfl, ?_⟩
      intro _ other lower upper
      omega
  | succ remaining ih =>
      unfold cowSyncSections
      rw [wp_bind, wp_getCm, wp_when]
      split
      · rw [wp_bind]
        refine wp_mono (cowSyncSection_spec thresh inv found (by omega)) ?_ (fun _ _ => id)
        rintro _ middle ⟨kept, sects', found', others, flushed⟩
        have bounded' : idx + 1 + remaining ≤ middle.cm.totalSects := by
          obtain ⟨_, _, same⟩ := kept.traffic.manager
          rw [same]
          simp only [CowManager.withSections]
          omega
        refine wp_mono (ih kept.inv found' bounded') ?_
          (fun reason after stop => stop.after_kept kept)
        rintro _ after ⟨kept', sects'', found'', others', flushed'⟩
        refine ⟨kept.trans kept', sects'', found'', ?_, ?_⟩
        · intro other below
          rw [others' other (by omega), others other (by omega)]
        · intro all other lower upper
          by_cases first : other = idx
          · subst first
            rw [others' other (by omega)]
            exact flushed all
          · exact flushed' all other (by omega) (by omega)
      · rename_i enough
        refine ⟨.refl inv, sects, found, fun _ _ => rfl, ?_⟩
        intro all
        simp [all] at enough

/-- No section is in memory, and their array was there to look. -/
structure Flushed (cm : CowManager) : Prop where
  array : cm.totalSects ≠ 0 → cm.sects.isSome = true
  uncached : ∀ sects idx, cm.sects = some sects → idx < cm.totalSects →
    (sects idx).mappings = none

/-- With nothing cached the index is what is on file. -/
theorem Flushed.lookup {pos : Nat} (flushed : Flushed state.cm)
    (inv : CowInv state.cm state.file) (inside : state.cm.InRange pos) :
    state.lookup pos = fileWord state.file (headerWords + pos) := by
  have some_ : state.cm.sects.isSome = true := flushed.array (Nat.ne_zero_of_lt inside)
  obtain ⟨sects, found⟩ := Option.isSome_iff_exists.mp some_
  have uncached := flushed.uncached sects _ found inside
  simp only [CowState.lookup, CowManager.lookup, found, CowSection.entry, uncached]
  split
  · rfl
  · rename_i empty
    have blank := inv.blank sects _ found inside (by simpa using empty)
    exact (blank.zero pos rfl).symm

/-- Flushing with threshold zero leaves nothing cached. -/
theorem cowSyncAndFreeSections_spec (thresh : Nat) (inv : CowInv state.cm state.file) :
    wp (cowSyncAndFreeSections thresh)
      (fun _ after => Kept state after ∧ (thresh = 0 → Flushed after.cm))
      (Stopped state) state := by
  unfold cowSyncAndFreeSections
  rw [wp_bind, wp_getCm]
  cases found : state.cm.sects with
  | some sects =>
      refine wp_mono (cowSyncSections_spec thresh state.cm.totalSects inv found (by omega)) ?_
        (fun _ _ => id)
      rintro _ after ⟨kept, sects', found', _, flushed⟩
      refine ⟨kept, fun all => ⟨fun _ => by rw [found']; rfl, ?_⟩⟩
      intro sects'' other same bounded
      rw [found'] at same
      cases same
      rw [kept.traffic.totalSects] at bounded
      exact flushed all other (Nat.zero_le _) (by omega)
  | none =>
      have missing : ∀ sects' idx, state.cm.sects = some sects' → idx < state.cm.totalSects →
          (sects' idx).mappings = none := by
        intro sects' idx same
        rw [found] at same
        contradiction
      cases total : state.cm.totalSects with
      | zero => exact ⟨.refl inv, fun _ => ⟨fun some_ => absurd total some_, missing⟩⟩
      | succ total =>
          unfold cowSyncSections
          rw [wp_bind, wp_getCm, wp_when]
          split
          · unfold cowSyncSection
            rw [wp_bind, wp_bind, wp_sectAt_invalid (.inl found)]
            refine .of_kept ⟨fun _ => .inr found, ?_⟩ (.refl inv)
            intro ready
            have array := ready.array
            rw [found] at array
            contradiction
          · rename_i enough
            refine ⟨.refl inv, fun all => ?_⟩
            simp [all] at enough

/-- An eviction keeps the map. -/
theorem cowEvict_spec (inv : CowInv state.cm state.file)
    (found : state.cm.sects = some sects) :
    wp cowEvict (fun _ after => Kept state after) (Stopped state) state := by
  unfold cowEvict
  rw [wp_bind, wp_getCm, wp_when]
  split
  · unfold cowCleanupMappings
    rw [wp_bind, wp_getCm, found]
    exact wp_mono (cowSyncAndFreeSections_spec _ inv) (fun _ _ => And.left) (fun _ _ => id)
  · exact .refl inv

end Moocbt.Cow
