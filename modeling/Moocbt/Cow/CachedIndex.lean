import Moocbt.Data.FaultyMap
import Moocbt.Cow.Failures
import Moocbt.Cow.Opening

/-! The cached index refines a map whose operations can fail. -/

namespace Moocbt.Cow

open Program FaultyMap

/-- The operations on a manager; the last two end one manager's file or life and
begin the next. -/
inductive MapOp where
  | readMapping (pos : Nat)
  | writeMapping (pos val : Nat)
  | writeCurrent (block : Nat) (buf : Nat → Nat)
  | modifyCacheSize (cacheSize : Nat)
  | truncateToIndex
  | closeReopen
  | freeReload (cacheSize : Nat)

namespace MapOp

def exec (elements : Nat) : MapOp → CowM (Option Nat)
  | readMapping pos => do
      let value ← cowReadMapping pos
      pure (some value)
  | writeMapping pos val => do
      cowWriteMapping pos val
      pure none
  | writeCurrent block buf => do
      cowWriteCurrent block buf
      pure none
  | modifyCacheSize cacheSize => do
      cowModifyCacheSize cacheSize
      pure none
  | truncateToIndex => do
      cowTruncateToIndex
      pure none
  | closeReopen => do
      cowSyncAndClose
      cowReopen
      pure none
  | freeReload cacheSize => do
      let cm ← getCm
      cowSyncAndFree
      cowReload elements cowSectionSize cacheSize (hasFlag cm.flags cowIndexOnly)
      pure none

/-- Closing or freeing the manager first: an error ends the manager. -/
def Rebuilds : MapOp → Prop
  | closeReopen => True
  | freeReload _ => True
  | _ => False

def InRange (cm : CowManager) : MapOp → Prop
  | readMapping pos => cm.InRange pos
  | writeMapping pos _ => cm.InRange pos
  | writeCurrent block _ => cm.InRange block
  | _ => True

/-- What the operation asks of the map; a captured block is mapped to the head. -/
def request (state : CowState) : MapOp → Request Nat Nat
  | readMapping pos => .get pos
  | writeMapping pos val => .put pos val
  | writeCurrent block _ => .putNew block state.cm.currPos
  | _ => .other

end MapOp

def replyOf : Option Nat → Reply Nat
  | some value => .value value
  | none => .done

/-- A run of operations with its history. It goes on after an error, unless the
manager is gone. -/
inductive IndexRun (elements : Nat) : CowState → List (Request Nat Nat × Reply Nat) →
    CowState → Prop
  | done {state : CowState} : IndexRun elements state [] state
  | returns {first second third : CowState} {op : MapOp} {value : Option Nat}
      {rest : List (Request Nat Nat × Reply Nat)} :
      op.exec elements first = (.ok value, second) → op.InRange first.cm →
      IndexRun elements second rest third →
      IndexRun elements first ((op.request first, replyOf value) :: rest) third
  | fails {first second third : CowState} {op : MapOp} {error : Errno}
      {rest : List (Request Nat Nat × Reply Nat)} :
      op.exec elements first = (.error (.errno error), second) → op.InRange first.cm →
      ¬ op.Rebuilds →
      IndexRun elements second rest third →
      IndexRun elements first ((op.request first, .failed) :: rest) third

/-- A manager between operations. -/
structure Live (elements : Nat) (state : CowState) : Prop where
  inv : CowInv state.cm state.file
  opened : state.cm.dfilp = .opened
  array : state.cm.sects.isSome = true
  head : HeadPastIndex state.cm
  sectSize : state.cm.sectSize = cowSectionSize
  totalSects : state.cm.totalSects = (reloadManager elements cowSectionSize 0).totalSects

/-- The map agrees with the index. -/
def Agrees (map : Nat → Nat) (state : CowState) : Prop :=
  ∀ pos, state.cm.InRange pos → state.lookup pos = map pos

variable {elements : Nat} {state after : CowState} {map : Nat → Nat} {pos val : Nat}

theorem Live.of_traffic (changed : Nat) (live : Live elements state)
    (traffic : SectionTraffic (state.withChanged changed) after)
    (inv : CowInv after.cm after.file) : Live elements after := by
  have head := live.head
  refine ⟨inv, traffic.dfilp.trans live.opened, traffic.array.trans live.array, ?_,
    traffic.sectSize.trans live.sectSize, traffic.totalSects.trans live.totalSects⟩
  unfold HeadPastIndex at head ⊢
  rw [traffic.dataOffset, traffic.currPos]
  exact head

theorem Live.of_kept (live : Live elements state) (kept : Kept state after) :
    Live elements after := live.of_traffic state.cm.nrChangedBlocks kept.traffic kept.inv

theorem Live.of_outcomes (live : Live elements state) (outcomes : List Outcome) :
    Live elements { state with outcomes } :=
  ⟨live.inv, live.opened, live.array, live.head, live.sectSize, live.totalSects⟩

theorem Agrees.of_kept (agrees : Agrees map state) (kept : Kept state after) :
    Agrees map after := by
  intro pos inside
  have inside' := (kept.traffic.inRange pos).mp inside
  rw [kept.same pos inside', agrees pos inside']

theorem Agrees.of_assigned (agrees : Agrees map state) (assigned : Assigned state pos val after) :
    Agrees (Function.update map pos val) after := by
  intro other inside
  have inside' : state.cm.InRange other := (assigned.traffic.inRange other).mp inside
  rw [assigned.map other inside']
  by_cases same : other = pos
  · subst same
    rw [Function.update_self, Function.update_self]
  · rw [Function.update_of_ne same, Function.update_of_ne same, agrees other inside']

/-- Data at the head, written whole or in part, is invisible to the map. -/
theorem Live.of_data (live : Live elements state) (count : Nat) (buf : Nat → Nat)
    {currPos : Nat} (later : state.cm.currPos ≤ currPos) (rest : List Outcome) :
    Live elements ⟨{ state.cm with currPos },
      state.file.map (·.writeWords (state.cm.currPos * blockWords) count buf), rest⟩ :=
  ⟨live.inv.of_data count buf later, live.opened, live.array,
    Nat.le_trans live.head (Nat.mul_le_mul_right _ later), live.sectSize, live.totalSects⟩

theorem Agrees.of_data (agrees : Agrees map state) (live : Live elements state) (count : Nat)
    (buf : Nat → Nat) (currPos : Nat) (rest : List Outcome) :
    Agrees map ⟨{ state.cm with currPos },
      state.file.map (·.writeWords (state.cm.currPos * blockWords) count buf), rest⟩ := by
  intro pos inside
  rw [lookup_of_data live.inv live.head count buf currPos rest inside]
  exact agrees pos inside

/-- The state an operation leaves: live, and with the map one step further. -/
def Simulates (elements : Nat) (map : Nat → Nat) (request : Request Nat Nat)
    (reply : Reply Nat) (after : CowState) : Prop :=
  Live elements after ∧ ∃ map', Step map request reply map' ∧ Agrees map' after

/-- An operation that stops was not an invalid access, and an error code is a
failed step of the map. -/
def SimulatesStop (elements : Nat) (map : Nat → Nat) (request : Request Nat Nat) (reason : Stop)
    (after : CowState) : Prop :=
  reason ≠ .oops ∧ ∀ error, reason = .errno error → Simulates elements map request .failed after

theorem Live.valid {reason : Stop} (live : Live elements state)
    (excuse : Excuse state reason) : reason ≠ .oops := by
  intro oops
  rcases excuse.invalid oops with bad | gone
  · rw [live.opened] at bad
    contradiction
  · have array := live.array
    rw [gone] at array
    contradiction

theorem Live.stopped {reason : Stop} {request : Request Nat Nat} (live : Live elements state)
    (agrees : Agrees map state) (stop : Stopped state reason after) :
    SimulatesStop elements map request reason after := by
  refine ⟨live.valid stop.excuse, ?_⟩
  intro error same
  have kept := stop.kept error same
  exact ⟨live.of_kept kept, map, .failed, agrees.of_kept kept⟩

theorem readMapping_simulates (live : Live elements state) (agrees : Agrees map state)
    (inside : state.cm.InRange pos) :
    wp (cowReadMapping pos)
      (fun value after => Simulates elements map (.get pos) (.value value) after)
      (SimulatesStop elements map (.get pos)) state := by
  obtain ⟨sects, found⟩ := Option.isSome_iff_exists.mp live.array
  refine wp_mono (cowReadMapping_spec live.inv found inside) ?_
    (fun _ _ => live.stopped agrees)
  rintro value after ⟨kept, rfl⟩
  refine ⟨live.of_kept kept, map, ?_, agrees.of_kept kept⟩
  rw [agrees pos inside]
  exact .succeeded

theorem Live.writeStopped {reason : Stop} {request : Request Nat Nat}
    (live : Live elements state) (agrees : Agrees map state)
    (effect : request.effect map = Function.update map pos val)
    (stop : WriteStopped state pos val reason after) :
    SimulatesStop elements map request reason after := by
  refine ⟨live.valid stop.excuse, ?_⟩
  intro error same
  rcases stop.either error same with kept | assigned
  · exact ⟨live.of_kept kept, map, .failed, agrees.of_kept kept⟩
  · refine ⟨live.of_traffic _ assigned.traffic assigned.inv, _, .failedLate, ?_⟩
    rw [effect]
    exact agrees.of_assigned assigned

theorem writeMapping_simulates (val : Nat) (live : Live elements state)
    (agrees : Agrees map state) (inside : state.cm.InRange pos) :
    wp (cowWriteMapping pos val)
      (fun _ after => Simulates elements map (.put pos val) .done after)
      (SimulatesStop elements map (.put pos val)) state := by
  obtain ⟨sects, found⟩ := Option.isSome_iff_exists.mp live.array
  refine wp_mono (cowWriteMapping_spec val live.inv found inside) ?_
    (fun _ _ => live.writeStopped agrees rfl)
  intro _ after assigned
  exact ⟨live.of_traffic _ assigned.traffic assigned.inv, _, .succeeded,
    agrees.of_assigned assigned⟩

/-- A capture stops before its mapping is written or after it. -/
theorem Live.captureStopped {reason : Stop} {request : Request Nat Nat} {buf : Nat → Nat}
    (live : Live elements state) (agrees : Agrees map state)
    (effect : request.effect map = Function.update map pos state.cm.currPos)
    (stop : CaptureStopped state pos buf reason after) :
    SimulatesStop elements map request reason after := by
  rcases stop with stop | ⟨middle, assigned, excuse, final⟩
  · exact live.writeStopped agrees effect stop
  · have live' := live.of_traffic _ assigned.traffic assigned.inv
    have agrees' : Agrees (request.effect map) middle := by
      rw [effect]
      exact agrees.of_assigned assigned
    refine ⟨?_, fun error _ => ?_⟩
    · rcases excuse with excuse | ⟨full, _⟩
      · exact live'.valid excuse
      · simp [full]
    · rcases final with ⟨rest, _, rfl⟩ | ⟨_, count, rest, _, rfl⟩
      · exact ⟨⟨live'.inv, live'.opened, live'.array, live'.head, live'.sectSize,
          live'.totalSects⟩, _, .failedLate, agrees'⟩
      · exact ⟨live'.of_data count buf (Nat.le_refl _) rest, _, .failedLate,
          agrees'.of_data live' count buf _ rest⟩

theorem writeCurrent_simulates (buf : Nat → Nat) (live : Live elements state)
    (agrees : Agrees map state) (inside : state.cm.InRange pos) :
    wp (cowWriteCurrent pos buf)
      (fun _ after => Simulates elements map (.putNew pos state.cm.currPos) .done after)
      (SimulatesStop elements map (.putNew pos state.cm.currPos)) state := by
  obtain ⟨sects, found⟩ := Option.isSome_iff_exists.mp live.array
  have vacant : state.lookup pos = 0 → (Request.putNew pos state.cm.currPos).effect map =
      Function.update map pos state.cm.currPos := by
    intro absent
    rw [agrees pos inside] at absent
    exact if_pos absent
  refine wp_mono (cowWriteCurrent_spec buf live.inv found inside) ?_ ?_
  · intro _ after captured
    split at captured
    · rename_i absent
      obtain ⟨middle, kept, middle', rest, assigned, _, _, _, rfl⟩ := captured
      have live' := (live.of_kept kept).of_traffic _ assigned.traffic assigned.inv
      refine ⟨live'.of_data _ buf (Nat.le_succ _) rest, _, .succeeded, ?_⟩
      rw [vacant absent, ← kept.traffic.currPos]
      exact ((agrees.of_kept kept).of_assigned assigned).of_data live' _ buf _ rest
    · rename_i present
      refine ⟨live.of_kept captured, map, ?_, agrees.of_kept captured⟩
      have still : (Request.putNew pos state.cm.currPos).effect map = map := by
        rw [agrees pos inside] at present
        exact if_neg present
      have step : Step map (.putNew pos state.cm.currPos) .done
          ((Request.putNew pos state.cm.currPos).effect map) := .succeeded
      rw [still] at step
      exact step
  · rintro reason after (stop | ⟨absent, middle, kept, stop⟩)
    · exact live.stopped agrees stop
    · refine (live.of_kept kept).captureStopped (agrees.of_kept kept) ?_ stop
      rw [kept.traffic.currPos]
      exact vacant absent

theorem modifyCacheSize_simulates (cacheSize : Nat) (live : Live elements state)
    (agrees : Agrees map state) :
    wp (cowModifyCacheSize cacheSize) (fun _ after => Simulates elements map .other .done after)
      (SimulatesStop elements map .other) state := by
  have inv := live.inv
  refine ⟨⟨⟨inv.positive, inv.aligned, inv.offset, ?_⟩, live.opened, live.array, live.head,
    live.sectSize, live.totalSects⟩, map, .succeeded, agrees⟩
  intro sects idx found bounded empty
  have old := inv.blank sects idx found bounded empty
  exact ⟨old.uncached, old.zero, old.head⟩

theorem truncateToIndex_simulates (live : Live elements state) (agrees : Agrees map state) :
    wp cowTruncateToIndex (fun _ after => Simulates elements map .other .done after)
      (SimulatesStop elements map .other) state := by
  have inv := live.inv
  refine wp_mono cowTruncateToIndex_spec ?_ ?_
  · rintro _ _ ⟨_, rest, _, rfl⟩
    refine ⟨⟨inv.of_truncate rfl, live.opened, live.array, live.head, live.sectSize,
      live.totalSects⟩, map, .succeeded, ?_⟩
    intro pos inside
    rw [← agrees pos inside]
    unfold CowState.lookup CowManager.lookup
    simp only [CowManager.indexOnly]
    cases found : state.cm.sects with
    | none => rfl
    | some sects => simp only [CowSection.entry, fileWord_of_truncate inv inside]
  · rintro reason _ ⟨invalid, _, rest, _, rfl⟩
    refine ⟨fun oops => invalid oops live.opened, fun error _ => ?_⟩
    refine ⟨⟨⟨inv.positive, inv.aligned, inv.offset, ?_⟩, live.opened, live.array, live.head,
      live.sectSize, live.totalSects⟩, map, .failed, agrees⟩
    intro sects idx found bounded empty
    have old := inv.blank sects idx found bounded empty
    exact ⟨old.uncached, old.zero, old.head⟩

/-- A live manager after its file was closed: the index is on file. -/
structure Rests (elements : Nat) (map : Nat → Nat) (state : CowState) : Prop where
  inv : CowInv state.cm state.file
  array : state.cm.sects.isSome = true
  head : HeadPastIndex state.cm
  sectSize : state.cm.sectSize = cowSectionSize
  totalSects : state.cm.totalSects = (reloadManager elements cowSectionSize 0).totalSects
  index : ∀ pos, state.cm.InRange pos → fileWord state.file (headerWords + pos) = map pos
  cached : Flushed state.cm
  header : ∃ file, state.file = some file ∧ file.header.fpos = state.cm.currPos
  shut : state.cm.dfilp = .null

theorem syncAndClose_rests (live : Live elements state) (agrees : Agrees map state) :
    wp cowSyncAndCloseFile (fun _ after => Rests elements map after) (fun _ _ => True) state := by
  refine wp_mono (cowSyncAndCloseFile_spec live.inv) ?_ (fun _ _ _ => trivial)
  rintro _ _ ⟨flushed, rest, kept, empty, opened, present, _, rfl⟩
  have live' := live.of_kept kept
  obtain ⟨file, stored⟩ := Option.isSome_iff_exists.mp present
  have same : ∀ word, fileWord (flushed.closed rest).file word = fileWord flushed.file word := by
    intro word
    simp only [CowState.closed, stored, Option.map_some, fileWord, CowFile.writeHeader]
  refine ⟨⟨live'.inv.positive, live'.inv.aligned, live'.inv.offset, ?_⟩, live'.array, live'.head,
    live'.sectSize, live'.totalSects, ?_, ⟨empty.array, empty.uncached⟩, ?_, rfl⟩
  · intro sects idx found bounded vacant
    have old := live'.inv.blank sects idx found bounded vacant
    refine ⟨old.uncached, ?_, old.head⟩
    intro pos located
    rw [same]
    exact old.zero pos located
  · intro pos inside
    rw [same, ← Flushed.lookup empty live'.inv inside]
    exact agrees.of_kept kept pos inside
  · exact ⟨file.writeHeader _, by simp only [CowState.closed, stored, Option.map_some]; rfl, rfl⟩

theorem reopen_simulates (rests : Rests elements map state) :
    wp cowReopen (fun _ after => Live elements after ∧ Agrees map after) (fun _ _ => True)
      state := by
  refine wp_mono cowReopen_spec ?_ (fun _ _ _ => trivial)
  rintro _ _ ⟨file, rest, stored, _, _, rfl⟩
  obtain ⟨file', stored', head⟩ := rests.header
  rw [stored] at stored'
  cases stored'
  have same : ∀ word, fileWord (state.file.map (·.writeHeader
      ((state.cm.reopened file.header).withClean false).header)) word =
        fileWord state.file word := by
    intro word
    simp only [stored, Option.map_some, fileWord, CowFile.writeHeader]
  have past : HeadPastIndex ((state.cm.reopened file.header).withClean false) := by
    have old := rests.head
    unfold HeadPastIndex at old ⊢
    rw [← head] at old
    exact old
  have inv := rests.inv
  refine ⟨⟨⟨inv.positive, inv.aligned, inv.offset, ?_⟩, rfl, rests.array, past, rests.sectSize,
    rests.totalSects⟩, ?_⟩
  · intro sects idx found bounded vacant
    have old := inv.blank sects idx found bounded vacant
    refine ⟨old.uncached, ?_, past⟩
    intro pos located
    exact (same _).trans (old.zero pos located)
  · intro pos inside
    have inside' : state.cm.InRange pos := inside
    rw [← rests.index pos inside', ← Flushed.lookup rests.cached inv inside']
    obtain ⟨sects, found⟩ := Option.isSome_iff_exists.mp rests.array
    have found' : (CowState.withHeader ⟨state.cm.reopened file.header, state.file, []⟩ false
        rest).cm.sects = some sects := found
    have uncached := rests.cached.uncached sects _ found inside'
    unfold CowState.lookup
    rw [CowManager.lookup_some found, CowManager.lookup_some found']
    change (sects (pos / state.cm.sectSize)).entry _ state.cm.sectSize pos = _
    simp only [CowState.withHeader, CowSection.entry, uncached, same]

theorem reload_simulates (cacheSize : Nat) (indexOnly : Bool) (rests : Rests elements map state) :
    wp (cowReload elements cowSectionSize cacheSize indexOnly)
      (fun _ after => Live elements after ∧ Agrees map after) (fun _ _ => True) state := by
  refine wp_mono (cowReload_spec elements cowSectionSize cacheSize indexOnly) ?_
    (fun _ _ _ => trivial)
  rintro _ _ ⟨file, flags, rest, stored, _, _, _, rfl⟩
  obtain ⟨file', stored', head⟩ := rests.header
  rw [stored] at stored'
  cases stored'
  have total : (reloadManager elements cowSectionSize cacheSize).totalSects =
      state.cm.totalSects := rests.totalSects.symm
  have inv := rests.inv
  have offset : (reloadManager elements cowSectionSize cacheSize).dataOffset =
      state.cm.dataOffset := by
    rw [inv.offset, rests.sectSize, ← total]
    rfl
  refine ⟨⟨⟨cowSectionSize_pos, cowSectionSize_aligned, rfl, ?_⟩, rfl, rfl, ?_, rfl, rfl⟩, ?_⟩
  · intro sects idx found _ vacant
    cases found
    contradiction
  · have old := rests.head
    unfold HeadPastIndex at old ⊢
    rw [← head, ← offset] at old
    exact old
  · intro pos inside
    have inside' : state.cm.InRange pos := by
      unfold CowManager.InRange
      rw [rests.sectSize, ← total]
      exact inside
    rw [← rests.index pos inside', stored]
    rfl

/-- Every operation is a step of the map. -/
theorem exec_simulates {op : MapOp} (live : Live elements state) (agrees : Agrees map state)
    (inside : op.InRange state.cm) :
    wp (op.exec elements)
      (fun value after => Simulates elements map (op.request state) (replyOf value) after)
      (fun reason after => ¬ op.Rebuilds →
        SimulatesStop elements map (op.request state) reason after) state := by
  cases op with
  | readMapping pos =>
      simp only [MapOp.exec, wp_bind, wp_pure]
      exact wp_mono (readMapping_simulates live agrees inside) (fun _ _ => id)
        (fun _ _ stop _ => stop)
  | writeMapping pos val =>
      simp only [MapOp.exec, wp_bind, wp_pure]
      exact wp_mono (writeMapping_simulates val live agrees inside) (fun _ _ => id)
        (fun _ _ stop _ => stop)
  | writeCurrent block buf =>
      simp only [MapOp.exec, wp_bind, wp_pure]
      exact wp_mono (writeCurrent_simulates buf live agrees inside) (fun _ _ => id)
        (fun _ _ stop _ => stop)
  | modifyCacheSize cacheSize =>
      simp only [MapOp.exec, wp_bind, wp_pure]
      exact wp_mono (modifyCacheSize_simulates cacheSize live agrees) (fun _ _ => id)
        (fun _ _ stop _ => stop)
  | truncateToIndex =>
      simp only [MapOp.exec, wp_bind, wp_pure]
      exact wp_mono (truncateToIndex_simulates live agrees) (fun _ _ => id)
        (fun _ _ stop _ => stop)
  | closeReopen =>
      simp only [MapOp.exec, wp_bind, wp_pure]
      refine wp_mono (syncAndClose_rests live agrees) ?_ (fun _ _ _ stays => absurd trivial stays)
      intro _ closed rests
      refine wp_mono (reopen_simulates rests) ?_ (fun _ _ _ stays => absurd trivial stays)
      rintro _ after ⟨live', agrees'⟩
      exact ⟨live', map, .succeeded, agrees'⟩
  | freeReload cacheSize =>
      simp only [MapOp.exec, wp_bind, wp_pure, wp_getCm]
      refine wp_mono (syncAndClose_rests live agrees) ?_ (fun _ _ _ stays => absurd trivial stays)
      intro _ closed rests
      refine wp_mono (reload_simulates cacheSize _ rests) ?_
        (fun _ _ _ stays => absurd trivial stays)
      rintro _ after ⟨live', agrees'⟩
      exact ⟨live', map, .succeeded, agrees'⟩

/-- A created manager is live, with an empty map. -/
theorem cowInit_live (elements cacheSize fileMax : Nat) (uuid : BitVec 128) (seqid : Nat) :
    wp (cowInit elements cowSectionSize cacheSize fileMax uuid seqid)
      (fun _ after => Live elements after ∧ Agrees (fun _ => 0) after) (fun _ _ => True)
      state := by
  refine wp_mono (cowInit_spec elements cowSectionSize cacheSize fileMax uuid seqid) ?_
    (fun _ _ _ => trivial)
  rintro _ _ ⟨file, flags, rest, _, blank, _, _, rfl⟩
  have head := initManager_head elements cacheSize fileMax uuid seqid
  have zero : ∀ word, fileWord (some file) word = 0 := blank.words
  refine ⟨⟨⟨cowSectionSize_pos, cowSectionSize_aligned, rfl, ?_⟩, rfl, rfl, head, rfl, rfl⟩, ?_⟩
  · intro sects idx found _ _
    cases found
    exact ⟨rfl, fun pos _ => zero _, head⟩
  · intro pos _
    rfl

/-- A run of operations is a history of the map. -/
theorem IndexRun.accepted {history : List (Request Nat Nat × Reply Nat)}
    (run : IndexRun elements state history after) (live : Live elements state)
    (agrees : Agrees map state) :
    Live elements after ∧ ∃ map', Accepts map history map' ∧ Agrees map' after := by
  induction run generalizing map with
  | done => exact ⟨live, map, .nil, agrees⟩
  | returns ran inside _ ih =>
      obtain ⟨live', map', step, agrees'⟩ := wp_done (exec_simulates live agrees inside) ran
      obtain ⟨last, map'', accepted, final⟩ := ih live' agrees'
      exact ⟨last, map'', .cons step accepted, final⟩
  | fails ran inside stays _ ih =>
      have stopped := wp_stopped (exec_simulates live agrees inside) ran stays
      obtain ⟨live', map', step, agrees'⟩ := stopped.2 _ rfl
      obtain ⟨last, map'', accepted, final⟩ := ih live' agrees'
      exact ⟨last, map'', .cons step accepted, final⟩

theorem MapOp.reports {op : MapOp} (stays : ¬ op.Rebuilds) : Reports (op.exec elements) := by
  cases op with
  | readMapping pos => exact .bind (.cowReadMapping pos) fun _ => .pure _
  | writeMapping pos val => exact .bind (.cowWriteMapping pos val) fun _ => .pure _
  | writeCurrent block buf => exact .bind (.cowWriteCurrent block buf) fun _ => .pure _
  | modifyCacheSize cacheSize => exact .bind (.updateCm _) fun _ => .pure _
  | truncateToIndex => exact .bind .cowTruncateToIndex fun _ => .pure _
  | closeReopen => exact absurd trivial stays
  | freeReload cacheSize => exact absurd trivial stays

/-- The cached index refines a plain map: whatever was evicted, flushed, closed and
reloaded in between, the replies of a run are those of a map that starts empty, an
operation that fails has its own effect or none, and one that returns met no
failure. -/
theorem cached_index_refines_map {cacheSize fileMax : Nat} {uuid : BitVec 128} {seqid : Nat}
    {start created last : CowState} {history : List (Request Nat Nat × Reply Nat)}
    (initialised : cowInit elements cowSectionSize cacheSize fileMax uuid seqid start =
      (.ok (), created))
    (run : IndexRun elements created history last) :
    (∃ map, Accepts (fun _ => 0) history map ∧
      ∀ pos, pos < last.cm.totalSects * last.cm.sectSize → last.lookup pos = map pos) ∧
    ∀ op : MapOp, op.InRange last.cm → ¬ op.Rebuilds →
      (op.exec elements last).1 ≠ .error .oops ∧
      ∀ value after, op.exec elements last = (.ok value, after) → Spent last after := by
  obtain ⟨live, agrees⟩ := wp_done (cowInit_live elements cacheSize fileMax uuid seqid) initialised
  obtain ⟨live', map, accepted, agrees'⟩ := run.accepted live agrees
  refine ⟨⟨map, accepted, fun pos inside => agrees' pos ?_⟩, ?_⟩
  · exact (CowManager.inRange_iff live'.inv.positive pos).mpr inside
  · intro op inside stays
    have reports : Reports (op.exec elements) := MapOp.reports stays
    constructor
    · intro oops
      have ran : op.exec elements last = (.error .oops, (op.exec elements last).2) :=
        Prod.ext oops rfl
      exact (wp_stopped (exec_simulates live' agrees' inside) ran stays).1 rfl
    · intro value after ran
      have spent := wp_done (reports last) ran
      exact spent

/-- A machine without a COW file, on which nothing fails. -/
def freshState : CowState := ⟨CowManager.zero, none, []⟩

theorem ran_of_reply {α : Type} {program : CowM α} {value : α}
    (reply : (program state).1 = .ok value) : program state = (.ok value, (program state).2) :=
  Prod.ext reply rfl

/-- Two sections and no room to cache them: every access evicts, and the manager is
reloaded before the reads. -/
theorem cached_index_refines_map_evicting :
    let created := (cowInit 8192 cowSectionSize 0 (100 * cowBlockSize) 0#128 1 freshState).2
    let first := ((MapOp.writeMapping 3 7).exec 8192 created).2
    let second := ((MapOp.writeMapping 5000 8).exec 8192 first).2
    let third := ((MapOp.freeReload 0).exec 8192 second).2
    let last := ((MapOp.readMapping 3).exec 8192 third).2
    ∃ map, Accepts (fun _ => 0)
      [(.put 3 7, .done), (.put 5000 8, .done), (.other, .done), (.get 3, .value 7)] map ∧
      ∀ pos, pos < last.cm.totalSects * last.cm.sectSize → last.lookup pos = map pos := by
  intro created first second third last
  have initialised : cowInit 8192 cowSectionSize 0 (100 * cowBlockSize) 0#128 1 freshState =
      (.ok (), created) := ran_of_reply (by decide +kernel)
  have wrote : (MapOp.writeMapping 3 7).exec 8192 created = (.ok none, first) :=
    ran_of_reply (by decide +kernel)
  have wrote' : (MapOp.writeMapping 5000 8).exec 8192 first = (.ok none, second) :=
    ran_of_reply (by decide +kernel)
  have reloaded : (MapOp.freeReload 0).exec 8192 second = (.ok none, third) :=
    ran_of_reply (by decide +kernel)
  have read : (MapOp.readMapping 3).exec 8192 third = (.ok (some 7), last) :=
    ran_of_reply (by decide +kernel)
  have inside : created.cm.InRange 3 := by decide +kernel
  have inside' : first.cm.InRange 5000 := by decide +kernel
  have inside'' : third.cm.InRange 3 := by decide +kernel
  exact (cached_index_refines_map initialised
    (.returns wrote inside (.returns wrote' inside'
      (.returns reloaded trivial (.returns read inside'' .done))))).1

end Moocbt.Cow
