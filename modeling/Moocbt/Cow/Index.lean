import Mathlib.Tactic.Ring
import Moocbt.Cow.Manager

/-! The index as a map: what a position means in a state of the manager, the
invariant that makes the meaning independent of caching, and the changes to
memory and file that keep both. -/

namespace Moocbt.Cow

/-- A word of the file, zero when there is no file. -/
def fileWord (file : Option CowFile) (word : Nat) : Nat :=
  match file with
  | none => 0
  | some file => file.words word

def CowSection.entry (sect : CowSection) (file : Option CowFile) (sectSize pos : Nat) : Nat :=
  match sect.mappings with
  | some mappings => mappings (pos % sectSize)
  | none => if sect.hasData then fileWord file (headerWords + pos) else 0

def CowManager.lookup (cm : CowManager) (file : Option CowFile) (pos : Nat) : Nat :=
  match cm.sects with
  | none => 0
  | some sects => (sects (pos / cm.sectSize)).entry file cm.sectSize pos

/-- The value of the index at a position: the cached one, or the one on file. -/
def CowState.lookup (state : CowState) (pos : Nat) : Nat := state.cm.lookup state.file pos

theorem CowManager.lookup_none {cm : CowManager} (absent : cm.sects = none) (file : Option CowFile)
    (pos : Nat) : cm.lookup file pos = 0 := by
  simp [lookup, absent]

theorem CowManager.lookup_some {cm : CowManager} {sects : Nat → CowSection}
    (found : cm.sects = some sects) (file : Option CowFile) (pos : Nat) :
    cm.lookup file pos = (sects (pos / cm.sectSize)).entry file cm.sectSize pos := by
  simp [lookup, found]

def CowManager.InRange (cm : CowManager) (pos : Nat) : Prop := pos / cm.sectSize < cm.totalSects

instance (cm : CowManager) (pos : Nat) : Decidable (cm.InRange pos) :=
  inferInstanceAs (Decidable (_ < _))

theorem CowManager.inRange_iff {cm : CowManager} (positive : 0 < cm.sectSize) (pos : Nat) :
    cm.InRange pos ↔ pos < cm.totalSects * cm.sectSize := Nat.div_lt_iff_lt_mul positive

/-- A section without data is not cached and blank on file, and the write head is
past the index. -/
structure Blank (cm : CowManager) (file : Option CowFile) (sect : CowSection) (idx : Nat) :
    Prop where
  uncached : sect.mappings = none
  zero : ∀ pos, pos / cm.sectSize = idx → fileWord file (headerWords + pos) = 0
  head : cm.dataOffset ≤ cm.currPos * cowBlockSize

structure CowInv (cm : CowManager) (file : Option CowFile) : Prop where
  positive : 0 < cm.sectSize
  aligned : 512 ∣ cm.sectSize
  offset : cm.dataOffset = cowHeaderSize + cm.totalSects * (cm.sectSize * 8)
  blank : ∀ sects idx, cm.sects = some sects → idx < cm.totalSects →
    (sects idx).hasData = false → Blank cm file (sects idx) idx

/-- What index traffic leaves alone of the file. -/
structure SameData (offset : Nat) (before after : CowFile) : Prop where
  header : after.header = before.header
  size : before.size ≤ after.size
  words : ∀ word, offset ≤ 8 * word → after.words word = before.words word

def FileFrame (offset : Nat) : Option CowFile → Option CowFile → Prop
  | none, none => True
  | some before, some after => SameData offset before after
  | _, _ => False

theorem FileFrame.refl (offset : Nat) (file : Option CowFile) : FileFrame offset file file := by
  cases file with
  | none => trivial
  | some file => exact ⟨rfl, Nat.le_refl _, fun _ _ => rfl⟩

theorem FileFrame.trans {offset : Nat} {first second third : Option CowFile}
    (left : FileFrame offset first second) (right : FileFrame offset second third) :
    FileFrame offset first third := by
  cases first <;> cases second <;> cases third <;> try contradiction
  · trivial
  · refine ⟨right.header.trans left.header, Nat.le_trans left.size right.size, ?_⟩
    intro word beyond
    exact (right.words word beyond).trans (left.words word beyond)

/-- The manager after index traffic: only the sections and their number are new. -/
def CowManager.withSections (cm : CowManager) (sects : Option (Nat → CowSection))
    (allocated : Nat) : CowManager :=
  { cm with sects, allocatedSects := allocated }

structure SectionTraffic (before after : CowState) : Prop where
  manager : ∃ sects allocated,
    after.cm = before.cm.withSections sects allocated
  array : after.cm.sects.isSome = before.cm.sects.isSome
  file : FileFrame before.cm.dataOffset before.file after.file
  closed : before.cm.dfilp ≠ .opened → after.file = before.file
  calm : before.outcomes = [] → after.outcomes = []

theorem SectionTraffic.refl (state : CowState) : SectionTraffic state state :=
  ⟨⟨_, _, rfl⟩, rfl, .refl _ _, fun _ => rfl, id⟩

theorem SectionTraffic.trans {first second third : CowState}
    (left : SectionTraffic first second) (right : SectionTraffic second third) :
    SectionTraffic first third := by
  obtain ⟨sects, allocated, same⟩ := left.manager
  obtain ⟨sects', allocated', same'⟩ := right.manager
  have offset : second.cm.dataOffset = first.cm.dataOffset := by rw [same]; rfl
  have handle : second.cm.dfilp = first.cm.dfilp := by rw [same]; rfl
  refine ⟨⟨sects', allocated', ?_⟩, right.array.trans left.array, ?_, ?_, ?_⟩
  · rw [same', same]
    rfl
  · have later := right.file
    rw [offset] at later
    exact left.file.trans later
  · intro shut
    exact (right.closed (by rwa [handle])).trans (left.closed shut)
  · exact fun none => right.calm (left.calm none)

/-- The fields of a manager that index traffic, closing and freeing leave alone. -/
structure SameFields (before after : CowManager) : Prop where
  sectSize : after.sectSize = before.sectSize
  totalSects : after.totalSects = before.totalSects
  dataOffset : after.dataOffset = before.dataOffset
  currPos : after.currPos = before.currPos
  fileSize : after.fileSize = before.fileSize
  seqid : after.seqid = before.seqid
  version : after.version = before.version
  uuid : after.uuid = before.uuid

theorem SameFields.refl (cm : CowManager) : SameFields cm cm :=
  ⟨rfl, rfl, rfl, rfl, rfl, rfl, rfl, rfl⟩

theorem SameFields.trans {first second third : CowManager} (left : SameFields first second)
    (right : SameFields second third) : SameFields first third :=
  ⟨right.sectSize.trans left.sectSize, right.totalSects.trans left.totalSects,
    right.dataOffset.trans left.dataOffset, right.currPos.trans left.currPos,
    right.fileSize.trans left.fileSize, right.seqid.trans left.seqid,
    right.version.trans left.version, right.uuid.trans left.uuid⟩

section Fields

variable {before after : CowState}

theorem SectionTraffic.fields (traffic : SectionTraffic before after) :
    SameFields before.cm after.cm := by
  obtain ⟨_, _, same⟩ := traffic.manager
  rw [same]
  exact ⟨rfl, rfl, rfl, rfl, rfl, rfl, rfl, rfl⟩

theorem SectionTraffic.sectSize (traffic : SectionTraffic before after) :
    after.cm.sectSize = before.cm.sectSize := traffic.fields.sectSize

theorem SectionTraffic.totalSects (traffic : SectionTraffic before after) :
    after.cm.totalSects = before.cm.totalSects := traffic.fields.totalSects

theorem SectionTraffic.currPos (traffic : SectionTraffic before after) :
    after.cm.currPos = before.cm.currPos := traffic.fields.currPos

theorem SectionTraffic.dataOffset (traffic : SectionTraffic before after) :
    after.cm.dataOffset = before.cm.dataOffset := traffic.fields.dataOffset

theorem SectionTraffic.dfilp (traffic : SectionTraffic before after) :
    after.cm.dfilp = before.cm.dfilp := by
  obtain ⟨_, _, same⟩ := traffic.manager
  rw [same]
  rfl

theorem SectionTraffic.inRange (traffic : SectionTraffic before after) (pos : Nat) :
    after.cm.InRange pos ↔ before.cm.InRange pos := by
  unfold CowManager.InRange
  rw [traffic.sectSize, traffic.totalSects]

end Fields

/-- Index traffic that leaves the map as it was. -/
structure Kept (before after : CowState) : Prop where
  inv : CowInv after.cm after.file
  traffic : SectionTraffic before after
  same : ∀ pos, before.cm.InRange pos → after.lookup pos = before.lookup pos

theorem Kept.refl {state : CowState} (inv : CowInv state.cm state.file) : Kept state state :=
  ⟨inv, .refl state, fun _ _ => rfl⟩

theorem Kept.trans {first second third : CowState} (left : Kept first second)
    (right : Kept second third) : Kept first third := by
  refine ⟨right.inv, left.traffic.trans right.traffic, ?_⟩
  intro pos inside
  have later := right.same pos ((left.traffic.inRange pos).mpr inside)
  exact later.trans (left.same pos inside)

/-- The file is open and holds the whole index. -/
structure Ready (state : CowState) : Prop where
  opened : state.cm.dfilp = .opened
  array : state.cm.sects.isSome = true
  file : ∃ file, state.file = some file ∧ state.cm.dataOffset ≤ file.size

theorem Ready.of_outcomes {state : CowState} (ready : Ready state) (outcomes : List Outcome) :
    Ready { state with outcomes } := ⟨ready.opened, ready.array, ready.file⟩

theorem SectionTraffic.ready {before after : CowState} (traffic : SectionTraffic before after)
    (ready : Ready before) : Ready after := by
  obtain ⟨sects, allocated, same⟩ := traffic.manager
  obtain ⟨file, found, enough⟩ := ready.file
  refine ⟨?_, traffic.array.trans ready.array, ?_⟩
  · rw [same]
    exact ready.opened
  · have framed := traffic.file
    rw [found] at framed
    cases later : after.file with
    | none =>
        rw [later] at framed
        contradiction
    | some file' =>
        rw [later] at framed
        refine ⟨file', rfl, ?_⟩
        rw [same]
        exact Nat.le_trans enough framed.size

/-- Why index traffic may stop: with an invalid access only where the handle or
the array is invalid, and never when the file is ready and nothing fails. -/
structure Excuse (state : CowState) (reason : Stop) : Prop where
  invalid : reason = .oops → state.cm.dfilp = .errPtr ∨ state.cm.sects = none
  failure : Ready state → state.outcomes ≠ []

theorem Excuse.of_traffic {before after : CowState} {reason : Stop}
    (excuse : Excuse after reason) (traffic : SectionTraffic before after) :
    Excuse before reason := by
  obtain ⟨sects, allocated, same⟩ := traffic.manager
  refine ⟨?_, fun ready none => excuse.failure (traffic.ready ready) (traffic.calm none)⟩
  intro oops
  rcases excuse.invalid oops with bad | gone
  · left
    rw [same] at bad
    exact bad
  · right
    have array := traffic.array
    rw [gone] at array
    simpa using array.symm

/-- How index traffic stops. An error code leaves the map; after a crash or an
invalid access memory is gone and only the file counts. -/
structure Stopped (before : CowState) (reason : Stop) (after : CowState) : Prop where
  excuse : Excuse before reason
  traffic : SectionTraffic before after
  kept : ∀ error, reason = .errno error → Kept before after

theorem Stopped.of_kept {before after : CowState} {reason : Stop}
    (excuse : Excuse before reason) (kept : Kept before after) : Stopped before reason after :=
  ⟨excuse, kept.traffic, fun _ _ => kept⟩

theorem Stopped.after_kept {first second third : CowState} {reason : Stop}
    (left : Kept first second) (right : Stopped second reason third) :
    Stopped first reason third :=
  ⟨right.excuse.of_traffic left.traffic, left.traffic.trans right.traffic,
    fun error same => left.trans (right.kept error same)⟩

variable {state : CowState} {sects : Nat → CowSection} {idx : Nat}

theorem word_of_section {cm : CowManager} {file : Option CowFile} (inv : CowInv cm file)
    {pos : Nat} :
    pos / cm.sectSize = idx ↔
      cm.sectWord idx ≤ headerWords + pos ∧ headerWords + pos < cm.sectWord idx + cm.sectSize := by
  have positive := inv.positive
  unfold CowManager.sectWord
  rw [Nat.div_eq_iff positive]
  constructor
  · rintro ⟨lower, upper⟩
    rw [Nat.mul_comm] at lower upper
    omega
  · rintro ⟨lower, upper⟩
    rw [Nat.mul_comm idx]
    omega

theorem sectWord_offset {cm : CowManager} {pos : Nat} (found : pos / cm.sectSize = idx) :
    headerWords + pos - cm.sectWord idx = pos % cm.sectSize := by
  have split := Nat.div_add_mod pos cm.sectSize
  rw [found] at split
  unfold CowManager.sectWord
  omega

/-- The index ends where the data begins. -/
theorem CowInv.section_end {cm : CowManager} {file : Option CowFile} (inv : CowInv cm file)
    (bounded : idx < cm.totalSects) : 8 * (cm.sectWord idx + cm.sectSize) ≤ cm.dataOffset := by
  have next : cm.sectSize * (idx + 1) ≤ cm.sectSize * cm.totalSects :=
    Nat.mul_le_mul_left _ bounded
  rw [inv.offset, CowManager.sectWord, cowHeaderSize, headerWords]
  rw [Nat.mul_add] at next
  calc 8 * (cm.sectSize * idx + 512 + cm.sectSize)
      = 4096 + 8 * (cm.sectSize * idx + cm.sectSize * 1) := by omega
    _ ≤ 4096 + 8 * (cm.sectSize * cm.totalSects) := by omega
    _ = 4096 + cm.totalSects * (cm.sectSize * 8) := by ring

theorem CowInv.data_word {cm : CowManager} {file : Option CowFile} (inv : CowInv cm file)
    {pos word : Nat} (inside : cm.InRange pos) (beyond : cm.dataOffset ≤ 8 * word) :
    headerWords + pos < word := by
  have fits := inv.section_end inside
  have located := (word_of_section inv).mp (Eq.refl (pos / cm.sectSize))
  omega

/-- Replacing one section by an equivalent one keeps the map. -/
theorem Kept.of_section (inv : CowInv state.cm state.file) (found : state.cm.sects = some sects)
    {sect : CowSection} {allocated : Nat} {rest : List Outcome}
    (entry : ∀ pos, pos / state.cm.sectSize = idx →
      sect.entry state.file state.cm.sectSize pos =
        (sects idx).entry state.file state.cm.sectSize pos)
    (flag : sect.hasData = false → (sects idx).hasData = false ∧ sect.mappings = none)
    (calm : state.outcomes = [] → rest = []) :
    Kept state
      { cm := state.cm.withSections (some (Function.update sects idx sect)) allocated
        file := state.file
        outcomes := rest } := by
  refine ⟨⟨inv.positive, inv.aligned, inv.offset, ?_⟩,
    ⟨⟨_, _, rfl⟩, by rw [found]; rfl, .refl _ _, fun _ => rfl, calm⟩, ?_⟩
  · intro sects' idx' same bounded empty
    cases same
    by_cases this : idx' = idx
    · subst this
      simp only [Function.update_self] at empty ⊢
      have old := inv.blank sects idx' found bounded (flag empty).1
      exact ⟨(flag empty).2, old.zero, old.head⟩
    · rw [Function.update_of_ne this] at empty ⊢
      have old := inv.blank sects idx' found bounded empty
      exact ⟨old.uncached, old.zero, old.head⟩
  · intro pos _
    unfold CowState.lookup CowManager.lookup
    rw [found]
    by_cases this : pos / state.cm.sectSize = idx
    · have result := entry pos this
      simpa [CowManager.withSections, this] using result
    · simp [CowManager.withSections, Function.update_of_ne this]

/-- Writing any prefix of a cached section to its place on file keeps the map. -/
theorem Kept.of_write (inv : CowInv state.cm state.file) (found : state.cm.sects = some sects)
    (bounded : idx < state.cm.totalSects) {mappings : Nat → Nat}
    (cached : (sects idx).mappings = some mappings) {count : Nat}
    (within : count ≤ state.cm.sectSize) {rest : List Outcome}
    (calm : state.outcomes = [] → rest = []) (opened : state.cm.dfilp = .opened) :
    Kept state
      { cm := state.cm
        file := state.file.map fun file =>
          file.writeWords (state.cm.sectWord idx) count mappings
        outcomes := rest } := by
  have outside : ∀ word, ¬ (state.cm.sectWord idx ≤ word ∧ word < state.cm.sectWord idx +
      state.cm.sectSize) →
      fileWord (state.file.map fun file => file.writeWords (state.cm.sectWord idx) count mappings)
        word = fileWord state.file word := by
    intro word apart
    cases state.file with
    | none => rfl
    | some file =>
        have missed : ¬ (state.cm.sectWord idx ≤ word ∧
            word < state.cm.sectWord idx + count) := by omega
        simp only [Option.map_some, fileWord, CowFile.writeWords, if_neg missed]
  have elsewhere : ∀ pos, pos / state.cm.sectSize ≠ idx →
      fileWord (state.file.map fun file => file.writeWords (state.cm.sectWord idx) count mappings)
        (headerWords + pos) = fileWord state.file (headerWords + pos) := by
    intro pos apart
    exact outside _ (fun inside => apart ((word_of_section inv).mpr inside))
  have notBlank : (sects idx).hasData ≠ false := by
    intro empty
    have blank := (inv.blank sects idx found bounded empty).uncached
    rw [cached] at blank
    contradiction
  have last := inv.section_end bounded
  refine ⟨⟨inv.positive, inv.aligned, inv.offset, ?_⟩,
    ⟨⟨state.cm.sects, state.cm.allocatedSects, rfl⟩, rfl, ?_,
      fun shut => absurd opened shut, calm⟩, ?_⟩
  · intro sects' idx' same bounded' empty
    have array := found.symm.trans same
    cases array
    have apart : idx' ≠ idx := by
      rintro rfl
      exact notBlank empty
    have old := inv.blank sects idx' found bounded' empty
    refine ⟨old.uncached, ?_, old.head⟩
    intro pos located
    rw [elsewhere pos (by rw [located]; exact apart)]
    exact old.zero pos located
  · cases stored : state.file with
    | none => trivial
    | some file =>
        refine ⟨rfl, ?_, ?_⟩
        · simp only [CowFile.writeWords]
          split <;> omega
        · intro word beyond
          have missed : ¬ (state.cm.sectWord idx ≤ word ∧
              word < state.cm.sectWord idx + count) := by omega
          simp only [CowFile.writeWords, if_neg missed]
  · intro pos _
    unfold CowState.lookup CowManager.lookup
    rw [found]
    by_cases this : pos / state.cm.sectSize = idx
    · simp only [this, CowSection.entry, cached]
    · simp only [CowSection.entry, elsewhere pos this]

end Moocbt.Cow
