import Moocbt.Data.Tally
import Moocbt.Cow.CachedIndex
import Moocbt.Cow.CleanFlag

/-! `nr_changed_blocks` counts the mapped positions. It is raised in the step that maps
a position, whatever fails before or after, and travels with the index to the file and
back. -/

namespace Moocbt.Cow

open Program

/-- How many of the first positions a map gives a value. -/
def mappedCount (map : Nat → Nat) (bound : Nat) : Nat := tally (fun value => value ≠ 0) map bound

def CowManager.entries (cm : CowManager) : Nat := cm.totalSects * cm.sectSize

/-- The entries of the index of a device with so many whole blocks. -/
def indexEntries (elements : Nat) : Nat := (reloadManager elements cowSectionSize 0).entries

/-- The counter of a manager is exact, if its version has one. -/
def Exact (state : CowState) : Prop :=
  cowVersionChangedBlocks ≤ state.cm.version →
    state.cm.nrChangedBlocks = mappedCount state.lookup state.cm.entries

/-- The header of a file goes with its index. -/
structure ExactFile (elements : Nat) (file : CowFile) : Prop where
  head : (reloadManager elements cowSectionSize 0).dataOffset ≤ file.header.fpos * cowBlockSize
  count : cowVersionChangedBlocks ≤ file.header.version →
    file.header.nrChangedBlocks =
      mappedCount (fun pos => file.words (headerWords + pos)) (indexEntries elements)

def ExactOnFile (elements : Nat) (file : Option CowFile) : Prop :=
  ∀ found, file = some found → Clean found → ExactFile elements found

/-- A manager for the device, with an exact counter as long as it has its sections. -/
structure Counting (elements : Nat) (state : CowState) : Prop where
  sectSize : state.cm.sectSize = cowSectionSize
  totalSects : state.cm.totalSects = (reloadManager elements cowSectionSize 0).totalSects
  head : HeadPastIndex state.cm
  exact : state.cm.sects.isSome = true → Exact state

/-- Nothing is cached beside a clean file. -/
def Released (state : CowState) : Prop :=
  ∀ found, state.file = some found → Clean found →
    ∀ sects idx, state.cm.sects = some sects → idx < state.cm.totalSects →
      (sects idx).mappings = none

/-- What holds between the operations on a manager. -/
structure Tallied (elements : Nat) (state : CowState) : Prop where
  counting : Counting elements state
  file : ExactOnFile elements state.file
  released : Released state

variable {elements pos val : Nat} {state after : CowState} {map map' : Nat → Nat}

theorem mappedCount_congr {bound : Nat} (same : ∀ pos < bound, map pos = map' pos) :
    mappedCount map bound = mappedCount map' bound :=
  Tally.congr fun pos below => by rw [same pos below]

/-- A mapped position that was not is one more; otherwise the number stays. -/
theorem mappedCount_update {bound : Nat} (inside : pos < bound) (mapped : val ≠ 0) :
    mappedCount (Function.update map pos val) bound =
      if map pos = 0 then mappedCount map bound + 1 else mappedCount map bound := by
  have change := Tally.update (P := fun value => value ≠ 0) map inside val
  rw [if_pos mapped] at change
  unfold mappedCount
  by_cases absent : map pos = 0
  · rw [if_neg (not_not_intro absent)] at change
    rw [if_pos absent]
    omega
  · rw [if_pos absent] at change
    rw [if_neg absent]
    omega

theorem ExactOnFile.of_dirty {file : Option CowFile} (dirty : Dirty file) :
    ExactOnFile elements file := by
  intro found same clean
  exact absurd clean (dirty.not_clean' same)

theorem Released.of_dirty (dirty : Dirty state.file) : Released state := by
  intro found same clean
  exact absurd clean (dirty.not_clean' same)

theorem Tallied.of_dirty (counting : Counting elements state) (dirty : Dirty state.file) :
    Tallied elements state := ⟨counting, .of_dirty dirty, .of_dirty dirty⟩

section Steps

theorem Exact.of_same (exact : Exact state) (inv : CowInv state.cm state.file)
    (sectSize : after.cm.sectSize = state.cm.sectSize)
    (totalSects : after.cm.totalSects = state.cm.totalSects)
    (version : after.cm.version = state.cm.version)
    (changed : after.cm.nrChangedBlocks = state.cm.nrChangedBlocks)
    (lookup : ∀ pos, state.cm.InRange pos → after.lookup pos = state.lookup pos) :
    Exact after := by
  intro counted
  rw [version] at counted
  unfold CowManager.entries
  rw [changed, exact counted, sectSize, totalSects]
  refine mappedCount_congr fun pos below => (lookup pos ?_).symm
  exact (CowManager.inRange_iff inv.positive pos).mpr below

theorem SectionTraffic.changed (traffic : SectionTraffic state after) :
    after.cm.nrChangedBlocks = state.cm.nrChangedBlocks := by
  obtain ⟨_, _, same⟩ := traffic.manager
  rw [same]
  rfl

theorem Counting.of_kept (counting : Counting elements state) (inv : CowInv state.cm state.file)
    (kept : Kept state after) : Counting elements after := by
  have fields := kept.traffic.fields
  have head := counting.head
  refine ⟨fields.sectSize.trans counting.sectSize, fields.totalSects.trans counting.totalSects,
    ?_, fun some_ => ?_⟩
  · unfold HeadPastIndex at head ⊢
    rw [fields.dataOffset, fields.currPos]
    exact head
  · have exact := counting.exact (kept.traffic.array.symm.trans some_)
    exact exact.of_same inv fields.sectSize fields.totalSects fields.version kept.traffic.changed
      kept.same

/-- The write of a mapping and its count are one step. -/
theorem Counting.of_assigned (counting : Counting elements state)
    (inv : CowInv state.cm state.file) (inside : state.cm.InRange pos) (mapped : val ≠ 0)
    (assigned : Assigned state pos val after) : Counting elements after := by
  have fields := assigned.traffic.fields
  have head := counting.head
  refine ⟨fields.sectSize.trans counting.sectSize, fields.totalSects.trans counting.totalSects,
    ?_, fun some_ counted => ?_⟩
  · unfold HeadPastIndex at head ⊢
    rw [fields.dataOffset, fields.currPos]
    exact head
  · have version : after.cm.version = state.cm.version := fields.version
    rw [version] at counted
    have exact := counting.exact (assigned.traffic.array.symm.trans some_) counted
    have changed : after.cm.nrChangedBlocks = state.changedBlocks pos := assigned.traffic.changed
    have entries : after.cm.entries = state.cm.entries := by
      unfold CowManager.entries
      rw [fields.sectSize, fields.totalSects]
      rfl
    have below : pos < state.cm.entries := (CowManager.inRange_iff inv.positive pos).mp inside
    have lookups : mappedCount after.lookup state.cm.entries =
        mappedCount (Function.update state.lookup pos val) state.cm.entries :=
      mappedCount_congr fun other within =>
        assigned.map other ((CowManager.inRange_iff inv.positive other).mpr within)
    rw [changed, entries, lookups, mappedCount_update below mapped, ← exact]
    unfold CowState.changedBlocks
    by_cases absent : state.lookup pos = 0
    · rw [if_pos ⟨counted, absent⟩, if_pos absent]
    · rw [if_neg fun both => absent both.2, if_neg absent]

/-- Data at the head, written whole or in part, leaves the count. -/
theorem Counting.of_data (counting : Counting elements state) (inv : CowInv state.cm state.file)
    (count : Nat) (buf : Nat → Nat) {currPos : Nat} (later : state.cm.currPos ≤ currPos)
    (rest : List Outcome) :
    Counting elements ⟨{ state.cm with currPos },
      state.file.map (·.writeWords (state.cm.currPos * blockWords) count buf), rest⟩ := by
  refine ⟨counting.sectSize, counting.totalSects,
    Nat.le_trans counting.head (Nat.mul_le_mul_right _ later), fun some_ => ?_⟩
  exact (counting.exact some_).of_same inv rfl rfl rfl rfl fun pos inside =>
    lookup_of_data inv counting.head count buf currPos rest inside

theorem HeadPastIndex.positive {cm : CowManager} {file : Option CowFile} (head : HeadPastIndex cm)
    (inv : CowInv cm file) : cm.currPos ≠ 0 := by
  intro zero
  unfold HeadPastIndex at head
  rw [zero, inv.offset, cowHeaderSize] at head
  omega

/-- What an operation on an open file leaves of the count, whatever fails in it. -/
def Counts (elements : Nat) (program : CowM Unit) (state : CowState) : Prop :=
  wp program (fun _ after => Counting elements after)
    (fun reason after => ∀ error, reason = .errno error → Counting elements after) state

theorem readMapping_counts (managed : Managed state) (counting : Counting elements state) :
    wp (cowReadMapping pos) (fun _ after => Counting elements after)
      (fun reason after => ∀ error, reason = .errno error → Counting elements after) state := by
  rcases access_cases state pos with ⟨sects, found, inside⟩ | invalid
  · refine wp_mono (cowReadMapping_spec managed.inv found inside) ?_ ?_
    · intro _ after read
      exact counting.of_kept managed.inv read.1
    · intro _ after stop error same
      exact counting.of_kept managed.inv (stop.kept error same)
  · exact wp_readMapping_invalid invalid fun _ same => by contradiction

theorem Counting.writeStopped {reason : Stop} (counting : Counting elements state)
    (inv : CowInv state.cm state.file) (inside : state.cm.InRange pos) (mapped : val ≠ 0)
    (stop : WriteStopped state pos val reason after) {error : Errno}
    (same : reason = .errno error) : Counting elements after := by
  rcases stop.either error same with kept | assigned
  · exact counting.of_kept inv kept
  · exact counting.of_assigned inv inside mapped assigned

theorem writeMapping_counts (managed : Managed state) (counting : Counting elements state)
    (mapped : val ≠ 0) : Counts elements (cowWriteMapping pos val) state := by
  rcases access_cases state pos with ⟨sects, found, inside⟩ | invalid
  · refine wp_mono (cowWriteMapping_spec val managed.inv found inside) ?_ ?_
    · intro _ after assigned
      exact counting.of_assigned managed.inv inside mapped assigned
    · intro reason after stop error same
      exact counting.writeStopped managed.inv inside mapped stop same
  · unfold Counts cowWriteMapping
    rw [wp_bind, wp_getCm, wp_bind, wp_sectAt_invalid invalid]
    intro error same
    contradiction

theorem writeCurrent_counts (managed : Managed state) (counting : Counting elements state)
    (block : Nat) (buf : Nat → Nat) : Counts elements (cowWriteCurrent block buf) state := by
  rcases access_cases state block with ⟨sects, found, inside⟩ | invalid
  · refine wp_mono (cowWriteCurrent_spec buf managed.inv found inside) ?_ ?_
    · intro _ after captured
      split at captured
      · obtain ⟨middle, kept, assigned, rest, wrote, _, _, _, same⟩ := captured
        subst same
        have inside' := (kept.traffic.inRange block).mpr inside
        have counting' := counting.of_kept managed.inv kept
        have mapped := counting'.head.positive kept.inv
        have counting'' := counting'.of_assigned kept.inv inside' mapped wrote
        exact counting''.of_data wrote.inv blockWords buf (Nat.le_succ _) rest
      · exact counting.of_kept managed.inv captured
    · intro reason after stop error same
      rcases stop with stop | ⟨_, middle, kept, stop⟩
      · exact counting.of_kept managed.inv (stop.kept error same)
      · have inside' := (kept.traffic.inRange block).mpr inside
        have counting' := counting.of_kept managed.inv kept
        have mapped := counting'.head.positive kept.inv
        rcases stop with stop | ⟨assigned, wrote, _, effect⟩
        · exact counting'.writeStopped kept.inv inside' mapped stop same
        · have counting'' := counting'.of_assigned kept.inv inside' mapped wrote
          rcases effect with ⟨rest, _, left⟩ | ⟨_, count, rest, _, left⟩
          · subst left
            exact ⟨counting''.sectSize, counting''.totalSects, counting''.head, counting''.exact⟩
          · subst left
            exact counting''.of_data wrote.inv count buf (Nat.le_refl _) rest
  · unfold Counts cowWriteCurrent
    rw [wp_bind]
    exact wp_readMapping_invalid invalid fun _ same => by contradiction

theorem modifyCacheSize_counts (counting : Counting elements state) (cacheSize : Nat) :
    Counts elements (cowModifyCacheSize cacheSize) state :=
  ⟨counting.sectSize, counting.totalSects, counting.head, counting.exact⟩

theorem truncateToIndex_counts (managed : Managed state) (counting : Counting elements state) :
    Counts elements cowTruncateToIndex state := by
  refine wp_mono cowTruncateToIndex_spec ?_ ?_
  · intro _ after cut
    obtain ⟨_, rest, _, same⟩ := cut
    subst same
    refine ⟨counting.sectSize, counting.totalSects, counting.head, fun some_ => ?_⟩
    refine (counting.exact some_).of_same managed.inv rfl rfl rfl rfl fun pos inside => ?_
    unfold CowState.lookup CowManager.lookup
    simp only [CowManager.indexOnly]
    cases found : state.cm.sects with
    | none => rfl
    | some sects => simp only [CowSection.entry, fileWord_of_truncate managed.inv inside]
  · intro reason after stop error _
    obtain ⟨_, _, rest, _, same⟩ := stop
    subst same
    exact ⟨counting.sectSize, counting.totalSects, counting.head, counting.exact⟩

end Steps

section Files

/-- What is on file is what the manager looks up, once nothing is cached. -/
theorem Released.lookup {found : CowFile} (released : Released state)
    (inv : CowInv state.cm state.file) (stored : state.file = some found) (clean : Clean found)
    (array : state.cm.sects.isSome = true) (inside : state.cm.InRange pos) :
    state.lookup pos = found.words (headerWords + pos) := by
  have flushed : Flushed state.cm := ⟨fun _ => array, released found stored clean⟩
  rw [flushed.lookup inv inside, stored]
  rfl

/-- A manager that took an exact header over beside an index on file is exact. -/
theorem ExactFile.restores {found : CowFile} (exact : ExactFile elements found)
    (inv : CowInv after.cm after.file) (sectSize : after.cm.sectSize = cowSectionSize)
    (totalSects : after.cm.totalSects = (reloadManager elements cowSectionSize 0).totalSects)
    (version : after.cm.version = found.header.version)
    (changed : after.cm.nrChangedBlocks = found.header.nrChangedBlocks)
    (lookup : ∀ pos, after.cm.InRange pos → after.lookup pos = found.words (headerWords + pos)) :
    Exact after := by
  intro counted
  rw [version] at counted
  have entries : after.cm.entries = indexEntries elements := by
    unfold indexEntries CowManager.entries
    rw [sectSize, totalSects]
    rfl
  rw [changed, exact.count counted, entries]
  refine mappedCount_congr fun pos below => (lookup pos ?_).symm
  rw [← entries] at below
  exact (CowManager.inRange_iff inv.positive pos).mpr below

theorem init_tallies (cacheSize fileMax : Nat) (uuid : BitVec 128) (seqid : Nat) :
    wp (cowInit elements cowSectionSize cacheSize fileMax uuid seqid)
      (fun _ after => Tallied elements after) (fun _ _ => True) state := by
  refine wp_mono (cowInit_spec elements cowSectionSize cacheSize fileMax uuid seqid) ?_
    (fun _ _ _ => trivial)
  intro _ after created
  obtain ⟨file, flags, rest, _, blank, _, _, same⟩ := created
  subst same
  have dirty := withHeader_dirty
    ⟨{ initManager elements cowSectionSize cacheSize fileMax uuid seqid with
        flags, sects := some fun _ => ⟨false, 0, none⟩ }, some file, []⟩ rest
  refine .of_dirty
    ⟨rfl, rfl, initManager_head elements cacheSize fileMax uuid seqid, fun _ _ => ?_⟩ dirty
  refine (Tally.eq_zero fun pos _ mapped => mapped ?_).symm
  rfl

theorem reload_tallies (cacheSize : Nat) (indexOnly : Bool)
    (exact : ExactOnFile elements state.file) :
    wp (cowReload elements cowSectionSize cacheSize indexOnly)
      (fun _ after => Tallied elements after) (fun _ _ => True) state := by
  refine wp_mono (wp_and (cowReload_spec elements cowSectionSize cacheSize indexOnly)
    (reload_creates elements cacheSize indexOnly)) ?_ (fun _ _ _ => trivial)
  intro _ after both
  obtain ⟨⟨file, flags, rest, stored, good, _, _, same⟩, _, managed⟩ := both
  have exactFile := exact file stored good.clean
  subst same
  have dirty : Dirty (some (file.writeHeader
      (reloaded elements cowSectionSize cacheSize file.header).header)) := by
    intro found same
    cases same
    exact CowManager.header_dirty _
  refine .of_dirty ⟨rfl, rfl, exactFile.head, fun _ => ?_⟩ dirty
  exact exactFile.restores managed.inv rfl rfl rfl rfl fun pos _ => rfl

/-- A close that succeeds leaves an exact file. -/
theorem MatchesClose.exact {found : CowFile} (matches_ : MatchesClose found state)
    (inv : CowInv state.cm state.file) (counting : Counting elements state)
    (array : state.cm.sects.isSome = true) : ExactFile elements found := by
  have offset : (reloadManager elements cowSectionSize 0).dataOffset = state.cm.dataOffset := by
    rw [inv.offset, counting.sectSize, counting.totalSects]
    rfl
  have entries : state.cm.entries = indexEntries elements := by
    unfold indexEntries CowManager.entries
    rw [counting.sectSize, counting.totalSects]
    rfl
  refine ⟨?_, fun counted => ?_⟩
  · rw [offset, matches_.fields.fpos]
    exact counting.head
  · rw [matches_.fields.version] at counted
    rw [matches_.changed, counting.exact array counted, ← entries]
    refine mappedCount_congr fun pos below => (matches_.index pos ?_).symm
    exact (CowManager.inRange_iff inv.positive pos).mpr below

theorem close_tallies (managed : Managed state) (tallied : Tallied elements state)
    (array : state.cm.sects.isSome = true) :
    wp cowSyncAndCloseFile (fun _ after => Tallied elements after)
      (fun reason after => ExactOnFile elements after.file ∧
        ∀ error, reason = .errno error → Tallied elements after) state := by
  have counting := tallied.counting
  refine wp_mono (wp_and (syncAndClose_matches managed) (cowSyncAndCloseFile_spec managed.inv))
    ?_ ?_
  · intro _ after both
    obtain ⟨⟨_, managed', matches_⟩, flushed, rest, kept, empty, _, present, _, same⟩ := both
    obtain ⟨file, stored⟩ := Option.isSome_iff_exists.mp present
    have counting' := counting.of_kept managed.inv kept
    have words : ∀ word, fileWord after.file word = fileWord flushed.file word := by
      intro word
      subst same
      simp only [CowState.closed, stored, Option.map_some, fileWord, CowFile.writeHeader]
    have lookup : ∀ pos, after.lookup pos = flushed.lookup pos := by
      intro pos
      subst same
      have array : (flushed.closed rest).cm.sects = flushed.cm.sects := rfl
      unfold CowState.lookup
      cases found : flushed.cm.sects with
      | none =>
          rw [CowManager.lookup_none found, CowManager.lookup_none (array.trans found)]
      | some sects =>
          rw [CowManager.lookup_some found, CowManager.lookup_some (array.trans found)]
          change (sects (pos / flushed.cm.sectSize)).entry _ flushed.cm.sectSize pos = _
          simp only [CowSection.entry, words]
    refine ⟨?_, ?_, ?_⟩
    · have exact := counting'.exact
      subst same
      refine ⟨counting'.sectSize, counting'.totalSects, counting'.head, fun some_ => ?_⟩
      exact (exact some_).of_same kept.inv rfl rfl rfl rfl fun pos _ => lookup pos
    · intro found found' _
      exact (matches_ found found').exact managed.inv counting array
    · intro found _ _ sects idx
      subst same
      exact empty.uncached sects idx
  · intro reason after both
    obtain ⟨⟨quiet, _⟩, failed⟩ := both
    have file : ExactOnFile elements after.file := by
      by_cases opened : state.cm.dfilp = .opened
      · exact .of_dirty (quiet.dirty (managed.dirty opened))
      · rw [quiet.shut opened]
        exact tallied.file
    refine ⟨file, fun error same => ?_⟩
    obtain ⟨_, freed, fields⟩ := failed.members error same
    have head := counting.head
    refine ⟨⟨fields.sectSize.trans counting.sectSize, fields.totalSects.trans counting.totalSects,
      ?_, fun some_ => ?_⟩, file, fun found _ _ sects idx array' => ?_⟩
    · unfold HeadPastIndex at head ⊢
      rw [fields.dataOffset, fields.currPos]
      exact head
    · rw [freed] at some_
      contradiction
    · rw [freed] at array'
      contradiction

/-- Whether the header is made dirty or not, the counter it gives back is that of the
index on file. -/
theorem reopen_tallies (managed : Managed state) (tallied : Tallied elements state)
    (array : state.cm.sects.isSome = true) :
    wp cowReopen (fun _ after => Tallied elements after)
      (fun reason after => ExactOnFile elements after.file ∧
        ∀ error, reason = .errno error → Tallied elements after) state := by
  have counting := tallied.counting
  -- A header that was accepted, in a manager that is otherwise the old one.
  have restored : ∀ {file : CowFile} {indexOnly : Bool} {after : CowState},
      state.file = some file → Acceptable file.header indexOnly → CowInv after.cm after.file →
      after.cm.sectSize = state.cm.sectSize → after.cm.totalSects = state.cm.totalSects →
      after.cm.dataOffset = state.cm.dataOffset →
      after.cm.currPos = file.header.fpos → after.cm.version = file.header.version →
      after.cm.nrChangedBlocks = file.header.nrChangedBlocks →
      (∀ pos, state.cm.InRange pos → after.lookup pos = state.lookup pos) →
      Counting elements after := by
    intro file indexOnly after stored good inv sectSize totalSects offset fpos version changed lookup
    have exactFile := tallied.file file stored good.clean
    have size := sectSize.trans counting.sectSize
    have total := totalSects.trans counting.totalSects
    refine ⟨size, total, ?_, fun _ => ?_⟩
    · unfold HeadPastIndex
      rw [fpos, inv.offset, size, total]
      exact exactFile.head
    · refine exactFile.restores inv size total version changed fun pos inside => ?_
      have inside' : state.cm.InRange pos := by
        unfold CowManager.InRange at inside ⊢
        rw [← sectSize, ← totalSects]
        exact inside
      rw [lookup pos inside',
        tallied.released.lookup managed.inv stored good.clean array inside']
  refine wp_mono (wp_and cowReopen_spec (reopen_manages managed)) ?_ ?_
  · intro _ after both
    obtain ⟨⟨file, rest, stored, good, _, same⟩, dirty, managed'⟩ := both
    subst same
    refine .of_dirty ?_ dirty
    refine restored stored good managed'.inv rfl rfl rfl rfl rfl rfl fun pos _ => ?_
    unfold CowState.lookup
    have array : (CowState.withHeader ⟨state.cm.reopened file.header, state.file, []⟩ false
        rest).cm.sects = state.cm.sects := rfl
    cases found : state.cm.sects with
    | none =>
        rw [CowManager.lookup_none found, CowManager.lookup_none (array.trans found)]
    | some sects =>
        rw [CowManager.lookup_some found, CowManager.lookup_some (array.trans found)]
        change (sects (pos / state.cm.sectSize)).entry _ state.cm.sectSize pos = _
        simp only [CowSection.entry, CowState.withHeader, stored, Option.map_some, fileWord,
          CowFile.writeHeader]
  · intro reason after both
    obtain ⟨⟨same, manager⟩, _, managed'⟩ := both
    have file : ExactOnFile elements after.file := by
      rw [same]
      exact tallied.file
    refine ⟨file, fun error errno => ?_⟩
    have released : after.cm.sects = state.cm.sects → after.cm.totalSects = state.cm.totalSects →
        Released after := by
      intro sects total found stored clean
      rw [same] at stored
      rw [sects, total]
      exact tallied.released found stored clean
    rcases manager error errno with shut | ⟨found, stored, good, taken⟩
    · refine ⟨?_, file, released (by rw [shut]; rfl) (by rw [shut]; rfl)⟩
      have lookup : ∀ pos, after.lookup pos = state.lookup pos := by
        intro pos
        unfold CowState.lookup
        rw [shut, same]
        rfl
      refine ⟨by rw [shut]; exact counting.sectSize, by rw [shut]; exact counting.totalSects,
        by rw [shut]; exact counting.head, fun _ => ?_⟩
      exact (counting.exact array).of_same managed.inv (by rw [shut]; rfl) (by rw [shut]; rfl)
        (by rw [shut]; rfl) (by rw [shut]; rfl) fun pos _ => lookup pos
    · refine ⟨?_, file, released (by rw [taken]; rfl) (by rw [taken]; rfl)⟩
      have lookup : ∀ pos, after.lookup pos = state.lookup pos := by
        intro pos
        unfold CowState.lookup
        rw [taken, same]
        rfl
      exact restored stored good (managed' error errno).inv (by rw [taken]; rfl)
        (by rw [taken]; rfl) (by rw [taken]; rfl) (by rw [taken]; rfl) (by rw [taken]; rfl)
        (by rw [taken]; rfl) fun pos _ => lookup pos

end Files

section Runs

/-- What the driver does with a manager: it uses one that has its sections, reads and
writes through an open file, marks blocks with the filler, and reloads a file for the
device it was created for. -/
def SessionOp.Allowed (elements : Nat) (cow : CowState) : SessionOp → Prop
  | .init elements' .. => elements' = elements
  | .reload elements' .. => elements' = elements
  | .writeMapping _ val => cow.cm.dfilp = .opened ∧ val = 1
  | .close | .reopen | .syncAndFree => cow.cm.sects.isSome = true
  | .free => True
  | _ => cow.cm.dfilp = .opened

instance (elements : Nat) (cow : CowState) (op : SessionOp) :
    Decidable (op.Allowed elements cow) := by
  cases op <;> unfold SessionOp.Allowed <;> infer_instance

/-- A session with an exact file and, between operations, an exact manager. -/
structure CountInv (elements : Nat) (session : Session) : Prop extends SessionInv session where
  file : ExactOnFile elements session.cow.file
  tallied : session.live = true → Tallied elements session.cow

/-- What an operation has to leave of the count. -/
def Keeping (elements : Nat) (op : SessionOp) (cow : CowState) : Prop :=
  wp op.program
    (fun _ after => ExactOnFile elements after.file ∧ (op.frees = false → Tallied elements after))
    (fun reason after => ExactOnFile elements after.file ∧
      (op.creates = false → op.frees = false → ∀ error, reason = .errno error →
        Tallied elements after)) cow

/-- An operation through an open file leaves it dirty. -/
theorem Keeping.of_open {op : SessionOp} (managed : Managed state)
    (opened : state.cm.dfilp = .opened) (manages : Manages op.program state)
    (counts : Counts elements op.program state) : Keeping elements op state := by
  have dirty := managed.dirty opened
  refine wp_mono (wp_and manages counts) ?_ ?_
  · intro _ after both
    have dirty' := both.1.1.dirty dirty
    exact ⟨.of_dirty dirty', fun _ => .of_dirty both.2 dirty'⟩
  · intro reason after both
    have dirty' := both.1.1.dirty dirty
    exact ⟨.of_dirty dirty', fun _ _ error same => .of_dirty (both.2 error same) dirty'⟩

theorem ExactOnFile.of_creates (exact : ExactOnFile elements state.file)
    (creates : Creates state after) : ExactOnFile elements after.file := by
  rcases creates with same | dirty
  · rw [same]
    exact exact
  · exact .of_dirty dirty

theorem ExactOnFile.of_quiet (exact : ExactOnFile elements state.file) (managed : Managed state)
    (quiet : Quiet state after) : ExactOnFile elements after.file := by
  by_cases opened : state.cm.dfilp = .opened
  · exact .of_dirty (quiet.dirty (managed.dirty opened))
  · rw [quiet.shut opened]
    exact exact

theorem Keeping.of_creation {op : SessionOp} (creates : op.creates = true)
    (exact : ExactOnFile elements state.file) (allowed : op.Allowed elements state) :
    Keeping elements op state := by
  have made : wp op.program (fun _ after => Tallied elements after) (fun _ _ => True) state ∧
      wp op.program (fun _ _ => True) (fun _ after => Creates state after) state := by
    cases op with
    | init elements' cacheSize fileMax uuid seqid =>
        have same : elements' = elements := allowed
        subst same
        exact ⟨init_tallies cacheSize fileMax uuid seqid,
          wp_mono (init_creates elements' cacheSize fileMax uuid seqid) (fun _ _ _ => trivial)
            fun _ _ left => left⟩
    | reload elements' cacheSize indexOnly =>
        have same : elements' = elements := allowed
        subst same
        exact ⟨reload_tallies cacheSize indexOnly exact,
          wp_mono (reload_creates elements' cacheSize indexOnly) (fun _ _ _ => trivial)
            fun _ _ left => left⟩
    | _ => contradiction
  refine wp_mono (wp_and made.1 made.2) ?_ ?_
  · intro _ after both
    exact ⟨both.1.file, fun _ => both.1⟩
  · intro reason after both
    refine ⟨exact.of_creates both.2, fun old => ?_⟩
    rw [creates] at old
    contradiction

/-- What each operation on a manager keeps. -/
theorem Keeping.of_managed {op : SessionOp} (creates : op.creates = false)
    (managed : Managed state) (tallied : Tallied elements state)
    (allowed : op.Allowed elements state) : Keeping elements op state := by
  have counting := tallied.counting
  cases op with
  | init elements' cacheSize fileMax uuid seqid => contradiction
  | reload elements' cacheSize indexOnly => contradiction
  | readMapping pos =>
      refine .of_open managed allowed (op_manages managed (.readMapping pos) rfl rfl (by simp) rfl) ?_
      unfold Counts SessionOp.program
      rw [wp_bind]
      exact readMapping_counts managed counting
  | writeMapping pos val =>
      obtain ⟨opened, filler⟩ := allowed
      subst filler
      exact .of_open managed opened (writeMapping_manages managed pos 1)
        (writeMapping_counts managed counting (by decide))
  | writeCurrent block buf =>
      exact .of_open managed allowed (writeCurrent_manages managed block buf)
        (writeCurrent_counts managed counting block buf)
  | modifyCacheSize cacheSize =>
      exact .of_open managed allowed (modifyCacheSize_manages managed cacheSize)
        (modifyCacheSize_counts counting cacheSize)
  | truncateToIndex =>
      exact .of_open managed allowed (truncateToIndex_manages managed)
        (truncateToIndex_counts managed counting)
  | close =>
      refine wp_mono (close_tallies managed tallied allowed) ?_ ?_
      · intro _ after closed
        exact ⟨closed.file, fun _ => closed⟩
      · intro reason after failed
        exact ⟨failed.1, fun _ _ => failed.2⟩
  | reopen =>
      refine wp_mono (reopen_tallies managed tallied allowed) ?_ ?_
      · intro _ after reopened
        exact ⟨reopened.file, fun _ => reopened⟩
      · intro reason after failed
        exact ⟨failed.1, fun _ _ => failed.2⟩
  | syncAndFree =>
      refine wp_mono (close_tallies managed tallied allowed) ?_ ?_
      · intro _ after closed
        exact ⟨closed.file, fun _ => closed⟩
      · intro reason after failed
        exact ⟨failed.1, fun _ _ => failed.2⟩
  | free =>
      refine wp_mono freeMembers_quiet ?_ ?_
      · intro _ after quiet
        exact ⟨tallied.file.of_quiet managed quiet, fun kept => by contradiction⟩
      · intro reason after quiet
        exact ⟨tallied.file.of_quiet managed quiet, fun _ kept => by contradiction⟩

theorem Session.start_counts (elements : Nat) (outcomes : List Outcome) :
    CountInv elements (Session.start elements none outcomes) := by
  refine ⟨Session.start_inv elements none outcomes, ?_, ?_⟩
  · intro found same
    contradiction
  · intro live
    contradiction

theorem Session.step_counts {session session' : Session} {op : SessionOp}
    (inv : CountInv elements session)
    (allowed : op.Allowed elements session.cow) (taken : session.step op = some session') :
    CountInv elements session' := by
  have next := Session.step_inv inv.toSessionInv taken
  unfold Session.step at taken
  split at taken
  · contradiction
  · rename_i differs
    simp only [Option.some.injEq] at taken
    subst taken
    have keeping : Keeping elements op session.cow := by
      by_cases creates : op.creates = true
      · exact .of_creation creates inv.file allowed
      · have live : session.live = true := by
          cases alive : session.live <;> simp [creates, alive] at differs ⊢
        exact .of_managed (by simpa using creates) (inv.managed live) (inv.tallied live) allowed
    obtain ⟨file, tallied⟩ := SessionOp.leaves keeping
    exact ⟨next, file, tallied⟩

/-- In every run that starts without a COW file the counter of a manager that has its
sections is the number of its mapped positions, and the one in a clean header is the
number of mapped entries on file, whatever failed and wherever the machine crashed. -/
theorem change_counter_exact {outcomes : List Outcome} {session : Session}
    (reached : Transition.Reaches Session.step (fun session op => op.Allowed elements session.cow)
      (Session.start elements none outcomes) session) :
    (session.live = true → session.cow.cm.sects.isSome = true →
      cowVersionChangedBlocks ≤ session.cow.cm.version →
      session.cow.cm.nrChangedBlocks =
        mappedCount session.cow.lookup session.cow.cm.entries) ∧
    ∀ file, session.cow.file = some file → Clean file →
      cowVersionChangedBlocks ≤ file.header.version →
      file.header.nrChangedBlocks =
        mappedCount (fun pos => file.words (headerWords + pos)) (indexEntries elements) := by
  have inv : CountInv elements session :=
    reached.invariant (Session.start_counts elements outcomes) Session.step_counts
  constructor
  · intro live array
    exact (inv.tallied live).counting.exact array
  · intro file stored clean
    exact (inv.file file stored clean).count

/-- Marked, captured, closed, reopened and reloaded: three positions are mapped. -/
theorem change_counter_exact_reloaded :
    ∃ session : Session, session.cow.cm.nrChangedBlocks = 3 ∧
      session.cow.cm.nrChangedBlocks =
        mappedCount session.cow.lookup session.cow.cm.entries := by
  have ran : (Transition.run
      (Transition.checked Session.step fun session op => op.Allowed 8192 session.cow)
      (Session.start 8192 none [])
      [.init 8192 0 (100 * cowBlockSize) 0#128 1, .writeMapping 3 1, .writeMapping 3 1,
        .writeCurrent 4500 fun _ => 5, .writeCurrent 7 fun _ => 6, .close, .reopen, .syncAndFree,
        .reload 8192 0 false, .readMapping 4500]).any (fun session =>
      session.live && session.cow.cm.sects.isSome &&
        decide (cowVersionChangedBlocks ≤ session.cow.cm.version) &&
        decide (session.cow.cm.nrChangedBlocks = 3)) = true := by decide +kernel
  obtain ⟨session, reached, good⟩ := Transition.Reaches.of_evaluated ran
  simp only [Bool.and_eq_true, decide_eq_true_eq] at good
  obtain ⟨⟨⟨live, array⟩, version⟩, three⟩ := good
  exact ⟨session, three, (change_counter_exact reached).1 live array version⟩

end Runs

end Moocbt.Cow
