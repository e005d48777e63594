import Moocbt.Logic.Transition
import Moocbt.Cow.Opening

/-! The clean flag across crashes: a header with the flag set belongs to a file that
holds what the manager held when it was last closed, at every point of every run. -/

namespace Moocbt.Cow

open Program

inductive SessionOp where
  | init (elements cacheSize fileMax : Nat) (uuid : BitVec 128) (seqid : Nat)
  | reload (elements cacheSize : Nat) (indexOnly : Bool)
  | readMapping (pos : Nat)
  | writeMapping (pos val : Nat)
  | writeCurrent (block : Nat) (buf : Nat → Nat)
  | modifyCacheSize (cacheSize : Nat)
  | truncateToIndex
  | close
  | reopen
  | syncAndFree
  | free

namespace SessionOp

def program : SessionOp → CowM Unit
  | init elements cacheSize fileMax uuid seqid =>
      cowInit elements cowSectionSize cacheSize fileMax uuid seqid
  | reload elements cacheSize indexOnly => cowReload elements cowSectionSize cacheSize indexOnly
  | readMapping pos => do
      let _ ← cowReadMapping pos
      pure ()
  | writeMapping pos val => cowWriteMapping pos val
  | writeCurrent block buf => cowWriteCurrent block buf
  | modifyCacheSize cacheSize => cowModifyCacheSize cacheSize
  | truncateToIndex => cowTruncateToIndex
  | close => cowSyncAndClose
  | reopen => cowReopen
  | syncAndFree => cowSyncAndFree
  | free => cowFreeMembers

def creates : SessionOp → Bool
  | init .. => true
  | reload .. => true
  | _ => false

def closes : SessionOp → Bool
  | close => true
  | syncAndFree => true
  | _ => false

def frees : SessionOp → Bool
  | syncAndFree => true
  | free => true
  | _ => false

/-- Whether there is a manager after the operation. A crash or an oops leaves none. -/
def survives (op : SessionOp) : Except Stop Unit → Bool
  | .ok () => !op.frees
  | .error (.errno _) => !op.creates && !op.frees
  | .error _ => false

end SessionOp

/-- The COW file over the lives of its managers. `lastClose` is the state in which
the last close that found the file open was called. -/
structure Session where
  cow : CowState
  live : Bool
  lastClose : Option CowState

/-- A manager is created when there is none; a crash point is an operation that ends
with a crash, after which the next manager is created from what is on file. -/
def Session.step (session : Session) (op : SessionOp) : Option Session :=
  if op.creates = session.live then none
  else
    some
      { cow := (op.program session.cow).2
        live := op.survives (op.program session.cow).1
        lastClose :=
          if op.closes = true ∧ session.cow.cm.dfilp = .opened then some session.cow
          else session.lastClose }

/-- The manager that closed a file found at the start: the one a reload restores. -/
def closedBy (elements : Nat) (file : CowFile) : CowState :=
  ⟨{ reloaded elements cowSectionSize 0 file.header with sects := some fun _ => ⟨true, 0, none⟩ },
    some file, []⟩

/-- No manager yet, and any file, for a device of `elements`. -/
def Session.start (elements : Nat) (file : Option CowFile) (outcomes : List Outcome) : Session :=
  ⟨⟨CowManager.zero, file, outcomes⟩, false, file.map (closedBy elements)⟩

structure FieldsMatch (header : CowHeader) (cm : CowManager) : Prop where
  seqid : header.seqid = cm.seqid
  uuid : header.uuid = cm.uuid
  version : header.version = cm.version
  fpos : header.fpos = cm.currPos
  fsize : header.fsize = cm.fileSize

/-- The file holds what the manager held when `closing` was the state. -/
structure MatchesClose (file : CowFile) (closing : CowState) : Prop where
  fields : FieldsMatch file.header closing.cm
  changed : file.header.nrChangedBlocks = closing.cm.nrChangedBlocks
  index : ∀ pos, closing.cm.InRange pos → file.words (headerWords + pos) = closing.lookup pos

def Clean (file : CowFile) : Prop := hasFlag file.header.flags cowClean = true

theorem Dirty.not_clean {file : CowFile} (dirty : Dirty (some file)) : ¬ Clean file := by
  intro clean
  have off := dirty file rfl
  rw [Clean, off] at clean
  contradiction

theorem Dirty.not_clean' {file : Option CowFile} {found : CowFile} (dirty : Dirty file)
    (same : file = some found) : ¬ Clean found := by
  subst same
  exact dirty.not_clean

/-- A clean file matches the last close. -/
def Consistent (file : Option CowFile) (lastClose : Option CowState) : Prop :=
  ∀ found, file = some found → Clean found →
    ∃ closing, lastClose = some closing ∧ MatchesClose found closing

theorem Consistent.of_dirty {file : Option CowFile} (dirty : Dirty file)
    (lastClose : Option CowState) : Consistent file lastClose := by
  rintro found rfl clean
  exact absurd clean dirty.not_clean

/-- A manager between operations: an open file is dirty, and a clean one has the
fields of the manager that closed it. -/
structure Managed (state : CowState) : Prop where
  inv : CowInv state.cm state.file
  handle : state.cm.dfilp ≠ .errPtr
  dirty : state.cm.dfilp = .opened → Dirty state.file
  fields : state.cm.dfilp = .null → ∀ file, state.file = some file → Clean file →
    FieldsMatch file.header state.cm

/-- What every operation but a successful close or creation does to the file. -/
structure Quiet (before after : CowState) : Prop where
  shut : before.cm.dfilp ≠ .opened → after.file = before.file
  dirty : Dirty before.file → Dirty after.file

theorem Quiet.consistent {before after : CowState} {lastClose : Option CowState}
    (quiet : Quiet before after) (managed : Managed before)
    (consistent : Consistent before.file lastClose) : Consistent after.file lastClose := by
  by_cases opened : before.cm.dfilp = .opened
  · exact .of_dirty (quiet.dirty (managed.dirty opened)) _
  · rw [quiet.shut opened]
    exact consistent

variable {state after : CowState}

theorem FileFrame.dirty {offset : Nat} {before after : Option CowFile}
    (frame : FileFrame offset before after) (dirty : Dirty before) : Dirty after := by
  rintro found rfl
  cases before with
  | none => contradiction
  | some file =>
      have header : found.header = file.header := SameData.header frame
      rw [header]
      exact dirty file rfl

theorem Quiet.of_traffic {changed : Nat}
    (traffic : SectionTraffic (state.withChanged changed) after) : Quiet state after :=
  ⟨traffic.closed, traffic.file.dirty⟩

theorem Quiet.of_sections (traffic : SectionTraffic state after) : Quiet state after :=
  ⟨traffic.closed, traffic.file.dirty⟩

theorem Managed.of_fields (managed : Managed state) (inv : CowInv after.cm after.file)
    (quiet : Quiet state after) (same : SameFields state.cm after.cm)
    (handle : after.cm.dfilp = state.cm.dfilp) : Managed after := by
  refine ⟨inv, by rw [handle]; exact managed.handle, ?_, ?_⟩
  · intro opened
    rw [handle] at opened
    exact quiet.dirty (managed.dirty opened)
  · intro null file found clean
    rw [handle] at null
    rw [quiet.shut (by simp [null])] at found
    have old := managed.fields null file found clean
    exact ⟨old.seqid.trans same.seqid.symm, old.uuid.trans same.uuid.symm,
      old.version.trans same.version.symm, old.fpos.trans same.currPos.symm,
      old.fsize.trans same.fileSize.symm⟩

theorem Managed.of_traffic {changed : Nat} (managed : Managed state)
    (traffic : SectionTraffic (state.withChanged changed) after)
    (inv : CowInv after.cm after.file) : Managed after := by
  have same := traffic.fields
  exact managed.of_fields inv (.of_traffic traffic)
    ⟨same.sectSize, same.totalSects, same.dataOffset, same.currPos, same.fileSize, same.seqid,
      same.version, same.uuid⟩ traffic.dfilp

theorem Managed.of_kept (managed : Managed state) (kept : Kept state after) : Managed after :=
  managed.of_fields kept.inv (.of_sections kept.traffic) kept.traffic.fields kept.traffic.dfilp

theorem Quiet.of_same {before : CowState} (same : after.file = before.file) :
    Quiet before after := ⟨fun _ => same, fun dirty => by rwa [same]⟩

theorem Quiet.of_outcomes {outcomes : List Outcome}
    (quiet : Quiet { state with outcomes } after) : Quiet state after := ⟨quiet.shut, quiet.dirty⟩

theorem Quiet.trans {first second third : CowState} (left : Quiet first second)
    (right : Quiet second third) (handle : second.cm.dfilp = first.cm.dfilp) :
    Quiet first third := by
  refine ⟨?_, fun dirty => right.dirty (left.dirty dirty)⟩
  intro shut
  exact (right.shut (by rwa [handle])).trans (left.shut shut)

/-- An operation on a manager leaves one, unless the machine is gone. -/
def Manages (program : CowM Unit) (state : CowState) : Prop :=
  wp program (fun _ after => Quiet state after ∧ Managed after)
    (fun reason after => Quiet state after ∧
      ∀ error, reason = .errno error → Managed after) state

theorem Managed.still (managed : Managed state) {reason : Stop} :
    Quiet state state ∧ ∀ error, reason = .errno error → Managed state :=
  ⟨.of_same rfl, fun _ _ => managed⟩

theorem Managed.stopped (managed : Managed state) {reason : Stop}
    (stop : Stopped state reason after) :
    Quiet state after ∧ ∀ error, reason = .errno error → Managed after :=
  ⟨.of_sections stop.traffic,
    fun error same => managed.of_kept (stop.kept error same)⟩

/-- An access outside the array, or to a freed one, is an oops that changes nothing. -/
theorem access_cases (state : CowState) (pos : Nat) :
    (∃ sects, state.cm.sects = some sects ∧ state.cm.InRange pos) ∨
      (state.cm.sects = none ∨ ¬ pos / state.cm.sectSize < state.cm.totalSects) := by
  by_cases inside : state.cm.InRange pos
  · cases found : state.cm.sects with
    | none => exact .inr (.inl rfl)
    | some sects => exact .inl ⟨sects, rfl, inside⟩
  · exact .inr (.inr inside)

theorem wp_readMapping_invalid {pos : Nat} {done : Nat → CowState → Prop}
    {stopped : Stop → CowState → Prop}
    (invalid : state.cm.sects = none ∨ ¬ pos / state.cm.sectSize < state.cm.totalSects)
    (oops : stopped .oops state) : wp (cowReadMapping pos) done stopped state := by
  unfold cowReadMapping
  rw [wp_bind, wp_getCm, wp_bind, wp_sectAt_invalid invalid]
  exact oops

theorem readMapping_manages (managed : Managed state) (pos : Nat) :
    wp (cowReadMapping pos) (fun _ after => Quiet state after ∧ Managed after)
      (fun reason after => Quiet state after ∧ ∀ error, reason = .errno error → Managed after)
      state := by
  rcases access_cases state pos with ⟨sects, found, inside⟩ | invalid
  · refine wp_mono (cowReadMapping_spec managed.inv found inside) ?_
      (fun _ _ => managed.stopped)
    rintro _ after ⟨kept, _⟩
    exact ⟨.of_sections kept.traffic, managed.of_kept kept⟩
  · exact wp_readMapping_invalid invalid managed.still

theorem Managed.writeStopped (managed : Managed state) {pos val : Nat} {reason : Stop}
    (stop : WriteStopped state pos val reason after) :
    Quiet state after ∧ ∀ error, reason = .errno error → Managed after := by
  obtain ⟨changed, traffic⟩ := stop.traffic
  refine ⟨.of_traffic traffic, fun error same => ?_⟩
  rcases stop.either error same with kept | assigned
  · exact managed.of_kept kept
  · exact managed.of_traffic assigned.traffic assigned.inv

theorem writeMapping_manages (managed : Managed state) (pos val : Nat) :
    Manages (cowWriteMapping pos val) state := by
  rcases access_cases state pos with ⟨sects, found, inside⟩ | invalid
  · refine wp_mono (cowWriteMapping_spec val managed.inv found inside) ?_
      (fun _ _ => managed.writeStopped)
    intro _ after assigned
    exact ⟨.of_traffic assigned.traffic, managed.of_traffic assigned.traffic assigned.inv⟩
  · unfold Manages cowWriteMapping
    rw [wp_bind, wp_getCm, wp_bind, wp_sectAt_invalid invalid]
    exact managed.still

/-- Data is written only to an open file, and leaves its header. -/
theorem Managed.of_data (managed : Managed state) (opened : state.cm.dfilp = .opened)
    (count : Nat) (buf : Nat → Nat) {currPos : Nat} (later : state.cm.currPos ≤ currPos)
    (rest : List Outcome) :
    Quiet state ⟨{ state.cm with currPos },
        state.file.map (·.writeWords (state.cm.currPos * blockWords) count buf), rest⟩ ∧
      Managed ⟨{ state.cm with currPos },
        state.file.map (·.writeWords (state.cm.currPos * blockWords) count buf), rest⟩ := by
  have dirty : Dirty state.file →
      Dirty (state.file.map (·.writeWords (state.cm.currPos * blockWords) count buf)) := by
    intro dirty found same
    obtain ⟨file, stored, rfl⟩ := Option.map_eq_some_iff.mp same
    exact dirty file stored
  refine ⟨⟨fun shut => absurd opened shut, dirty⟩, managed.inv.of_data count buf later,
    managed.handle, fun _ => dirty (managed.dirty opened), ?_⟩
  intro null
  have bad : Handle.opened = .null := opened.symm.trans null
  contradiction

theorem writeCurrent_manages (managed : Managed state) (block : Nat) (buf : Nat → Nat) :
    Manages (cowWriteCurrent block buf) state := by
  rcases access_cases state block with ⟨sects, found, inside⟩ | invalid
  · refine wp_mono (cowWriteCurrent_spec buf managed.inv found inside) ?_ ?_
    · intro _ after captured
      split at captured
      · obtain ⟨middle, kept, middle', rest, assigned, _, opened, _, rfl⟩ := captured
        have managed' := (managed.of_kept kept).of_traffic assigned.traffic assigned.inv
        obtain ⟨quiet, last⟩ := managed'.of_data opened blockWords buf (Nat.le_succ _) rest
        refine ⟨?_, last⟩
        exact (Quiet.of_sections kept.traffic).trans
          ((Quiet.of_traffic assigned.traffic).trans quiet assigned.traffic.dfilp)
          kept.traffic.dfilp
      · exact ⟨.of_sections captured.traffic,
          managed.of_kept captured⟩
    · rintro reason after (stop | ⟨_, middle, kept, stop⟩)
      · exact managed.stopped stop
      · have quiet : Quiet state middle :=
          .of_sections kept.traffic
        have managed' := managed.of_kept kept
        rcases stop with stop | ⟨middle', assigned, _, final⟩
        · obtain ⟨quiet', last⟩ := managed'.writeStopped stop
          exact ⟨quiet.trans quiet' kept.traffic.dfilp, last⟩
        · have quiet' := quiet.trans (.of_traffic assigned.traffic) kept.traffic.dfilp
          have handle : middle'.cm.dfilp = state.cm.dfilp :=
            assigned.traffic.dfilp.trans kept.traffic.dfilp
          have managed'' := managed'.of_traffic assigned.traffic assigned.inv
          rcases final with ⟨rest, _, rfl⟩ | ⟨opened, count, rest, _, rfl⟩
          · exact ⟨⟨quiet'.shut, quiet'.dirty⟩, fun _ _ =>
              ⟨managed''.inv, managed''.handle, managed''.dirty, managed''.fields⟩⟩
          · obtain ⟨quiet'', last⟩ :=
              managed''.of_data opened count buf (Nat.le_refl _) rest
            exact ⟨quiet'.trans quiet'' handle, fun _ _ => last⟩
  · unfold Manages cowWriteCurrent
    rw [wp_bind]
    exact wp_readMapping_invalid invalid managed.still

theorem CowInv.of_flags {cm : CowManager} {file : Option CowFile} (inv : CowInv cm file)
    (flags : BitVec 32) (allowedSects : Nat) : CowInv { cm with flags, allowedSects } file := by
  refine ⟨inv.positive, inv.aligned, inv.offset, ?_⟩
  intro sects idx found bounded empty
  have old := inv.blank sects idx found bounded empty
  exact ⟨old.uncached, old.zero, old.head⟩

theorem modifyCacheSize_manages (managed : Managed state) (cacheSize : Nat) :
    Manages (cowModifyCacheSize cacheSize) state :=
  ⟨.of_same rfl, managed.of_fields (managed.inv.of_flags _ _) (.of_same rfl)
    ⟨rfl, rfl, rfl, rfl, rfl, rfl, rfl, rfl⟩ rfl⟩

theorem truncateToIndex_manages (managed : Managed state) :
    Manages cowTruncateToIndex state := by
  refine wp_mono cowTruncateToIndex_spec ?_ ?_
  · rintro _ _ ⟨opened, rest, _, rfl⟩
    have dirty : Dirty state.file → Dirty (state.file.map (·.truncate state.cm.dataOffset)) := by
      intro dirty found same
      obtain ⟨file, stored, rfl⟩ := Option.map_eq_some_iff.mp same
      exact dirty file stored
    refine ⟨⟨fun shut => absurd opened shut, dirty⟩, managed.inv.of_truncate rfl,
      managed.handle, fun _ => dirty (managed.dirty opened), ?_⟩
    intro null
    have bad : Handle.opened = .null := opened.symm.trans null
    contradiction
  · rintro reason _ ⟨_, _, rest, _, rfl⟩
    refine ⟨.of_same rfl, fun _ _ => ?_⟩
    exact managed.of_fields (managed.inv.of_flags _ _) (.of_same rfl)
      ⟨rfl, rfl, rfl, rfl, rfl, rfl, rfl, rfl⟩ rfl

theorem CowInv.of_freed {cm cm' : CowManager} {file file' : Option CowFile} (inv : CowInv cm file)
    (same : SameFields cm cm') (freed : cm'.sects = none) : CowInv cm' file' := by
  refine ⟨by rw [same.sectSize]; exact inv.positive, by rw [same.sectSize]; exact inv.aligned,
    by rw [same.dataOffset, same.sectSize, same.totalSects]; exact inv.offset, ?_⟩
  intro sects idx found
  rw [freed] at found
  contradiction

/-- A manager that lost its members: no handle, no sections. -/
theorem Managed.of_freed (managed : Managed state) (quiet : Quiet state after)
    (same : SameFields state.cm after.cm) (handle : after.cm.dfilp = .null)
    (freed : after.cm.sects = none) : Managed after := by
  refine ⟨managed.inv.of_freed same freed, by simp [handle], by simp [handle], ?_⟩
  intro _ file found clean
  cases old : state.cm.dfilp with
  | null =>
      rw [quiet.shut (by simp [old])] at found
      have before := managed.fields old file found clean
      exact ⟨before.seqid.trans same.seqid.symm, before.uuid.trans same.uuid.symm,
        before.version.trans same.version.symm, before.fpos.trans same.currPos.symm,
        before.fsize.trans same.fileSize.symm⟩
  | errPtr => exact absurd old managed.handle
  | opened =>
      have dirty := quiet.dirty (managed.dirty old)
      rw [found] at dirty
      exact absurd clean dirty.not_clean

theorem CloseFailed.quiet {reason : Stop} (failed : CloseFailed state reason after) :
    Quiet state after := by
  refine ⟨failed.shut, fun dirty => ?_⟩
  rcases failed.file with gone | frame
  · rintro found same
    rw [gone] at same
    contradiction
  · exact frame.dirty dirty

/-- A successful close: the file is clean and holds what the manager held. -/
theorem syncAndClose_matches (managed : Managed state) :
    wp cowSyncAndCloseFile
      (fun _ after => state.cm.dfilp = .opened ∧ Managed after ∧
        ∀ file, after.file = some file → MatchesClose file state)
      (fun reason after => Quiet state after ∧ ∀ error, reason = .errno error → Managed after)
      state := by
  refine wp_mono (cowSyncAndCloseFile_spec managed.inv) ?_ ?_
  · rintro _ _ ⟨flushed, rest, kept, empty, opened, present, _, rfl⟩
    obtain ⟨file, stored⟩ := Option.isSome_iff_exists.mp present
    have same := kept.traffic.fields
    obtain ⟨_, _, manager⟩ := kept.traffic.manager
    have changed : flushed.cm.nrChangedBlocks = state.cm.nrChangedBlocks := by
      rw [manager]
      rfl
    have words : ∀ word, fileWord (flushed.closed rest).file word = fileWord flushed.file word := by
      intro word
      simp only [CowState.closed, stored, Option.map_some, fileWord, CowFile.writeHeader]
    refine ⟨kept.traffic.dfilp.symm.trans opened, ⟨⟨kept.inv.positive, kept.inv.aligned,
      kept.inv.offset, ?_⟩, by simp [CowState.closed], by simp [CowState.closed], ?_⟩, ?_⟩
    · intro sects idx found bounded vacant
      have old := kept.inv.blank sects idx found bounded vacant
      refine ⟨old.uncached, fun pos located => ?_, old.head⟩
      rw [words]
      exact old.zero pos located
    · intro _ file' found _
      simp only [CowState.closed, stored, Option.map_some, Option.some.injEq] at found
      subst found
      exact ⟨rfl, rfl, rfl, rfl, rfl⟩
    · intro file' found
      simp only [CowState.closed, stored, Option.map_some, Option.some.injEq] at found
      subst found
      refine ⟨⟨same.seqid, same.uuid, same.version, same.currPos, same.fileSize⟩, changed, ?_⟩
      intro pos inside
      have inside' := (kept.traffic.inRange pos).mpr inside
      rw [← kept.same pos inside, empty.lookup kept.inv inside', stored]
      rfl
  · intro reason after failed
    refine ⟨failed.quiet, fun error same => ?_⟩
    obtain ⟨handle, freed, fields⟩ := failed.members error same
    exact managed.of_freed failed.quiet fields handle freed

theorem Acceptable.clean' {file : CowFile} {indexOnly : Bool}
    (good : Acceptable file.header indexOnly) : Clean file := good.clean

theorem withHeader_dirty (state : CowState) (rest : List Outcome) :
    Dirty (state.withHeader false rest).file := by
  intro found same
  obtain ⟨file, _, rfl⟩ := Option.map_eq_some_iff.mp same
  exact CowManager.header_dirty state.cm

/-- Taking over a header with the manager's own write head keeps the invariant. -/
theorem CowInv.of_header {cm cm' : CowManager} {file file' : Option CowFile} (inv : CowInv cm file)
    (sects : cm'.sects = cm.sects) (sectSize : cm'.sectSize = cm.sectSize)
    (totalSects : cm'.totalSects = cm.totalSects) (dataOffset : cm'.dataOffset = cm.dataOffset)
    (currPos : cm'.currPos = cm.currPos)
    (words : ∀ word, fileWord file' word = fileWord file word) : CowInv cm' file' := by
  refine ⟨by rw [sectSize]; exact inv.positive, by rw [sectSize]; exact inv.aligned,
    by rw [dataOffset, sectSize, totalSects]; exact inv.offset, ?_⟩
  intro sects' idx found bounded empty
  rw [sects] at found
  rw [totalSects] at bounded
  have old := inv.blank sects' idx found bounded empty
  refine ⟨old.uncached, fun pos located => ?_, by rw [dataOffset, currPos]; exact old.head⟩
  rw [sectSize] at located
  rw [words]
  exact old.zero pos located

/-- A reopened file is dirty; one that is not reopened is as it was. -/
theorem reopen_manages (managed : Managed state) :
    wp cowReopen (fun _ after => Dirty after.file ∧ Managed after)
      (fun reason after => after.file = state.file ∧
        ∀ error, reason = .errno error → Managed after) state := by
  -- A header that is accepted is clean, so that the manager was closed.
  have head : ∀ {file : CowFile} {indexOnly : Bool}, state.file = some file →
      Acceptable file.header indexOnly → state.cm.dfilp = .null := by
    intro file indexOnly stored good
    cases handle : state.cm.dfilp with
    | null => rfl
    | errPtr => exact absurd handle managed.handle
    | opened =>
        have dirty := managed.dirty handle
        rw [stored] at dirty
        exact absurd good.clean' dirty.not_clean
  refine wp_mono cowReopen_spec ?_ ?_
  · rintro _ _ ⟨file, rest, stored, good, _, rfl⟩
    have old := managed.fields (head stored good) file stored good.clean'
    have dirty := withHeader_dirty ⟨state.cm.reopened file.header, state.file, []⟩ rest
    refine ⟨dirty, ?_, by simp [CowState.withHeader, CowManager.withClean, CowManager.reopened,
      CowManager.restore], fun _ => dirty, by simp [CowState.withHeader, CowManager.withClean,
      CowManager.reopened, CowManager.restore]⟩
    refine managed.inv.of_header rfl rfl rfl rfl old.fpos ?_
    intro word
    simp only [CowState.withHeader, stored, Option.map_some, fileWord, CowFile.writeHeader]
  · rintro reason after ⟨same, manager⟩
    refine ⟨same, fun error errno => ?_⟩
    rcases manager error errno with shut | ⟨file, stored, good, restored⟩
    · refine ⟨?_, by rw [shut]; simp [CowManager.shut], by rw [shut]; simp [CowManager.shut], ?_⟩
      · rw [shut, same]
        exact managed.inv.of_header rfl rfl rfl rfl rfl fun _ => rfl
      · intro _ file found clean
        rw [same] at found
        cases handle : state.cm.dfilp with
        | null =>
            have old := managed.fields handle file found clean
            rw [shut]
            exact ⟨old.seqid, old.uuid, old.version, old.fpos, old.fsize⟩
        | errPtr => exact absurd handle managed.handle
        | opened =>
            have dirty := managed.dirty handle
            rw [found] at dirty
            exact absurd clean dirty.not_clean
    · have old := managed.fields (head stored good) file stored good.clean'
      refine ⟨?_, by rw [restored]; simp [CowManager.shut], by rw [restored]; simp [CowManager.shut],
        ?_⟩
      · rw [restored, same]
        exact managed.inv.of_header rfl rfl rfl rfl old.fpos fun _ => rfl
      · intro _ file' found _
        rw [same, stored] at found
        cases found
        rw [restored]
        exact ⟨rfl, rfl, rfl, rfl, rfl⟩

/-- Freeing the members unlinks the file or leaves it. -/
theorem freeMembers_quiet :
    wp cowFreeMembers (fun _ after => Quiet state after) (fun _ after => Quiet state after)
      state := by
  refine wp_mono cowFreeMembers_spec ?_ ?_
  · rintro _ after ⟨_, same | ⟨gone, opened⟩⟩
    · exact .of_same same
    · refine ⟨fun shut => absurd opened shut, fun _ found same => ?_⟩
      rw [gone] at same
      contradiction
  · rintro reason after ⟨same, _⟩
    exact .of_same same

/-- A creation leaves the file it found, or one that is not clean. -/
def Creates (before after : CowState) : Prop := after.file = before.file ∨ Dirty after.file

theorem Creates.consistent {before : CowState} {lastClose : Option CowState}
    (creates : Creates before after) (consistent : Consistent before.file lastClose) :
    Consistent after.file lastClose := by
  rcases creates with same | dirty
  · rw [same]
    exact consistent
  · exact .of_dirty dirty _

theorem init_creates (elements cacheSize fileMax : Nat) (uuid : BitVec 128) (seqid : Nat) :
    wp (cowInit elements cowSectionSize cacheSize fileMax uuid seqid)
      (fun _ after => Creates state after ∧ Managed after) (fun _ after => Creates state after)
      state := by
  refine wp_mono (cowInit_spec elements cowSectionSize cacheSize fileMax uuid seqid) ?_ ?_
  · rintro _ _ ⟨file, flags, rest, _, blank, _, _, rfl⟩
    have dirty := withHeader_dirty
      ⟨{ initManager elements cowSectionSize cacheSize fileMax uuid seqid with
          flags, sects := some fun _ => ⟨false, 0, none⟩ }, some file, []⟩ rest
    have head : HeadPastIndex
        (initManager elements cowSectionSize cacheSize fileMax uuid seqid) := initManager_head ..
    refine ⟨.inr dirty, ⟨cowSectionSize_pos, cowSectionSize_aligned, rfl, ?_⟩, ?_,
      fun _ => dirty, ?_⟩
    · intro sects idx found _ _
      cases found
      exact ⟨rfl, fun pos _ => blank.words _, head⟩
    · intro bad
      cases bad
    · intro bad
      cases bad
  · rintro reason after ⟨left, _⟩
    exact left

theorem reload_creates (elements cacheSize : Nat) (indexOnly : Bool) :
    wp (cowReload elements cowSectionSize cacheSize indexOnly)
      (fun _ after => Creates state after ∧ Managed after) (fun _ after => Creates state after)
      state := by
  have dirty : ∀ file : CowFile, Dirty (some (file.writeHeader
      (reloaded elements cowSectionSize cacheSize file.header).header)) := by
    intro file found same
    cases same
    exact CowManager.header_dirty _
  refine wp_mono (cowReload_spec elements cowSectionSize cacheSize indexOnly) ?_ ?_
  · rintro _ _ ⟨file, flags, rest, stored, _, _, _, rfl⟩
    refine ⟨.inr (dirty file), ⟨cowSectionSize_pos, cowSectionSize_aligned, rfl, ?_⟩, ?_,
      fun _ => dirty file, ?_⟩
    · intro sects idx found _ vacant
      cases found
      contradiction
    · intro bad
      cases bad
    · intro bad
      cases bad
  · rintro reason after ⟨same | ⟨file, _, written⟩, _⟩
    · exact .inl same
    · refine .inr ?_
      rw [written]
      exact dirty file

/-- A manager that is freed may leave a closed, clean file. -/
theorem free_closes (managed : Managed state) (op : SessionOp) (closes : op.closes = true) :
    wp op.program
      (fun _ after => state.cm.dfilp = .opened ∧ Managed after ∧
        ∀ file, after.file = some file → MatchesClose file state)
      (fun reason after => Quiet state after ∧ ∀ error, reason = .errno error → Managed after)
      state := by
  cases op with
  | close => exact syncAndClose_matches managed
  | syncAndFree => exact syncAndClose_matches managed
  | _ => contradiction

/-- What holds of a session: a clean file matches the last close, and a manager is
one between operations. -/
structure SessionInv (session : Session) : Prop where
  consistent : Consistent session.cow.file session.lastClose
  managed : session.live = true → Managed session.cow

/-- The other operations on a manager. -/
theorem op_manages (managed : Managed state) (op : SessionOp) (creates : op.creates = false)
    (closes : op.closes = false) (reopens : op ≠ .reopen) (frees : op.frees = false) :
    Manages op.program state := by
  cases op with
  | readMapping pos =>
      unfold Manages SessionOp.program
      simp only [wp_bind, wp_pure]
      exact readMapping_manages managed pos
  | writeMapping pos val => exact writeMapping_manages managed pos val
  | writeCurrent block buf => exact writeCurrent_manages managed block buf
  | modifyCacheSize cacheSize => exact modifyCacheSize_manages managed cacheSize
  | truncateToIndex => exact truncateToIndex_manages managed
  | reopen => exact absurd rfl reopens
  | _ => contradiction

theorem Session.start_inv (elements : Nat) (file : Option CowFile) (outcomes : List Outcome) :
    SessionInv (Session.start elements file outcomes) := by
  refine ⟨?_, by simp [Session.start]⟩
  rintro found rfl _
  refine ⟨closedBy elements found, rfl, ⟨rfl, rfl, rfl, rfl, rfl⟩, rfl, ?_⟩
  intro pos _
  rfl

/-- What holds of the state an operation leaves, and of the manager if there is one. -/
theorem SessionOp.leaves {op : SessionOp} {cow : CowState} {F M : CowState → Prop}
    (holds : wp op.program (fun _ after => F after ∧ (op.frees = false → M after))
      (fun reason after => F after ∧
        (op.creates = false → op.frees = false → ∀ error, reason = .errno error → M after)) cow) :
    F (op.program cow).2 ∧ (op.survives (op.program cow).1 = true → M (op.program cow).2) := by
  unfold wp at holds
  rcases ran : op.program cow with ⟨_ | reason, after⟩ <;> rw [ran] at holds
  · rename_i reason
    refine ⟨holds.1, ?_⟩
    intro alive
    cases reason with
    | errno error =>
        simp only [SessionOp.survives, Bool.and_eq_true, Bool.not_eq_true'] at alive
        exact holds.2 alive.1 alive.2 error rfl
    | oops => simp [SessionOp.survives] at alive
    | crash => simp [SessionOp.survives] at alive
  · refine ⟨holds.1, ?_⟩
    intro alive
    simp only [SessionOp.survives, Bool.not_eq_true'] at alive
    exact holds.2 alive

theorem SessionInv.of_wp {op : SessionOp} {cow : CowState} {lastClose : Option CowState}
    (holds : wp op.program
      (fun _ after => Consistent after.file lastClose ∧ (op.frees = false → Managed after))
      (fun reason after => Consistent after.file lastClose ∧
        (op.creates = false → op.frees = false → ∀ error, reason = .errno error → Managed after))
      cow) :
    SessionInv
      { cow := (op.program cow).2, live := op.survives (op.program cow).1, lastClose } := by
  obtain ⟨consistent, managed⟩ := SessionOp.leaves holds
  exact ⟨consistent, managed⟩

/-- A creation, from any session without a manager. -/
theorem Session.create_inv {session : Session} {op : SessionOp} (inv : SessionInv session)
    (creates : op.creates = true) :
    wp op.program
      (fun _ after => Consistent after.file session.lastClose ∧
        (op.frees = false → Managed after))
      (fun reason after => Consistent after.file session.lastClose ∧
        (op.creates = false → op.frees = false → ∀ error, reason = .errno error → Managed after))
      session.cow := by
  have created : wp op.program (fun _ after => Creates session.cow after ∧ Managed after)
      (fun _ after => Creates session.cow after) session.cow := by
    cases op with
    | init elements cacheSize fileMax uuid seqid =>
        exact init_creates elements cacheSize fileMax uuid seqid
    | reload elements cacheSize indexOnly => exact reload_creates elements cacheSize indexOnly
    | _ => contradiction
  refine wp_mono created ?_ ?_
  · rintro _ after ⟨made, managed⟩
    exact ⟨made.consistent inv.consistent, fun _ => managed⟩
  · intro reason after made
    exact ⟨made.consistent inv.consistent, fun old => by simp [creates] at old⟩

/-- A close, whether the manager is freed with it or not. -/
theorem Session.close_inv {session : Session} {op : SessionOp} (inv : SessionInv session)
    (managed : Managed session.cow) (closes : op.closes = true) :
    wp op.program
      (fun _ after => Consistent after.file
          (if op.closes = true ∧ session.cow.cm.dfilp = .opened then some session.cow
            else session.lastClose) ∧ (op.frees = false → Managed after))
      (fun reason after => Consistent after.file
          (if op.closes = true ∧ session.cow.cm.dfilp = .opened then some session.cow
            else session.lastClose) ∧
        (op.creates = false → op.frees = false → ∀ error, reason = .errno error → Managed after))
      session.cow := by
  refine wp_mono (free_closes managed op closes) ?_ ?_
  · rintro _ after ⟨opened, last, same⟩
    rw [if_pos ⟨closes, opened⟩]
    exact ⟨fun file found _ => ⟨session.cow, rfl, same file found⟩, fun _ => last⟩
  · rintro reason after ⟨quiet, last⟩
    refine ⟨?_, fun _ _ => last⟩
    by_cases opened : session.cow.cm.dfilp = .opened
    · exact .of_dirty (quiet.dirty (managed.dirty opened)) _
    · rw [if_neg fun both => opened both.2]
      exact quiet.consistent managed inv.consistent

/-- What one operation preserves. -/
theorem Session.step_inv {session session' : Session} {op : SessionOp}
    (inv : SessionInv session) (taken : session.step op = some session') :
    SessionInv session' := by
  unfold Session.step at taken
  split at taken
  · contradiction
  · rename_i differs
    simp only [Option.some.injEq] at taken
    subst taken
    refine SessionInv.of_wp ?_
    by_cases creates : op.creates = true
    · have opens : ¬ (op.closes = true ∧ session.cow.cm.dfilp = .opened) := by
        cases op <;> simp [SessionOp.creates, SessionOp.closes] at creates ⊢
      rw [if_neg opens]
      exact Session.create_inv inv creates
    · have live : session.live = true := by
        cases alive : session.live <;> simp [creates, alive] at differs ⊢
      have managed := inv.managed live
      by_cases closes : op.closes = true
      · exact Session.close_inv inv managed closes
      · rw [if_neg fun both => closes both.1]
        by_cases reopens : op = .reopen
        · subst reopens
          refine wp_mono (reopen_manages managed) ?_ ?_
          · rintro _ after ⟨dirty, last⟩
            exact ⟨.of_dirty dirty _, fun _ => last⟩
          · rintro reason after ⟨same, last⟩
            refine ⟨?_, fun _ _ => last⟩
            rw [same]
            exact inv.consistent
        · by_cases frees : op.frees = true
          · have free : op = .free := by
              cases op <;> simp [SessionOp.closes, SessionOp.frees] at closes frees ⊢
            subst free
            refine wp_mono freeMembers_quiet ?_ ?_
            · intro _ after quiet
              exact ⟨quiet.consistent managed inv.consistent, fun kept => by contradiction⟩
            · intro reason after quiet
              exact ⟨quiet.consistent managed inv.consistent, fun _ kept => by contradiction⟩
          · refine wp_mono (op_manages managed op (by simpa using creates) (by simpa using closes)
              reopens (by simpa using frees)) ?_ ?_
            · rintro _ after ⟨quiet, last⟩
              exact ⟨quiet.consistent managed inv.consistent, fun _ => last⟩
            · rintro reason after ⟨quiet, last⟩
              exact ⟨quiet.consistent managed inv.consistent, fun _ _ => last⟩

/-- Whatever failed and wherever the machine crashed, a COW file with the clean flag
set has the fields and the index its manager had when it was last closed. -/
theorem clean_file_matches_last_close {elements : Nat} {file : Option CowFile}
    {outcomes : List Outcome} {session : Session}
    (reached : Transition.Reachable Session.step (Session.start elements file outcomes) session) :
    ∀ found, session.cow.file = some found → Clean found →
      (∃ closing, session.lastClose = some closing ∧ MatchesClose found closing) ∧
      (session.live = true → FieldsMatch found.header session.cow.cm) := by
  have inv : SessionInv session :=
    reached.invariant (Session.start_inv elements file outcomes) fun inv _ => Session.step_inv inv
  intro found stored clean
  refine ⟨inv.consistent found stored clean, fun live => ?_⟩
  have managed := inv.managed live
  cases handle : session.cow.cm.dfilp with
  | null => exact managed.fields handle found stored clean
  | errPtr => exact absurd handle managed.handle
  | opened =>
      have dirty := managed.dirty handle
      rw [stored] at dirty
      exact absurd clean dirty.not_clean

/-- A file that is created, written to and closed is clean. -/
theorem clean_file_matches_last_close_written :
    let session := (Transition.run Session.step (Session.start 8192 none [])
      [.init 8192 0 (100 * cowBlockSize) 0#128 1, .writeMapping 3 7, .close]).get
        (by decide +kernel)
    (session.cow.file.map fun file => hasFlag file.header.flags cowClean) = some true ∧
    ∀ found, session.cow.file = some found → Clean found →
      (∃ closing, session.lastClose = some closing ∧ MatchesClose found closing) ∧
      (session.live = true → FieldsMatch found.header session.cow.cm) := by
  intro session
  refine ⟨by decide +kernel, ?_⟩
  exact clean_file_matches_last_close (Transition.Reaches.of_run (Option.some_get _).symm)

end Moocbt.Cow
