import Moocbt.Cow.Tending
import Moocbt.Tools.Merging

/-! What `update-img` reads of an index that a manager left behind. The manager writes its
index in sections, the tool reads it in chunks. -/

namespace Moocbt.Tools

open Cow Program

variable {elements : Nat} {state after last : CowState} {job : Job} {chunk left block bytes : Nat}

/-- Where the tool reads a chunk from. -/
def Job.chunkOffset (chunk : Nat) : Nat :=
  cowHeaderSize + indexBufferSize * mappingBytes * chunk

/-- An entry of the buffer after the read of a chunk. -/
def Job.chunkEntry (job : Job) (chunk entry : Nat) : Nat :=
  job.cow.words ((chunkOffset chunk + mappingBytes * entry) / mappingBytes)

/-- The values of the chunks, in the order of the outer loop. -/
def Job.readChunks (job : Job) : Nat → Nat → Nat → List (List Nat)
  | 0, _, _ => []
  | left + 1, chunk, blocksDone =>
      let blocksToRead := min indexBufferSize (job.totalBlocks - blocksDone)
      (List.range blocksToRead).map (job.chunkEntry chunk) ::
        job.readChunks left (chunk + 1) (blocksDone + blocksToRead)

/-- The value the tool has for a block. -/
def Job.obtained (job : Job) (block : Nat) : Option Nat := do
  let entries ← (job.readChunks job.totalChunks 0 0)[block / indexBufferSize]?
  entries[block % indexBufferSize]?

theorem Job.chunkEntry_eq_mapping (job : Job) (chunk entry : Nat) :
    job.chunkEntry chunk entry = job.mapping (indexBufferSize * chunk + entry) := by
  have word : (chunkOffset chunk + mappingBytes * entry) / mappingBytes =
      headerWords + (indexBufferSize * chunk + entry) := by
    unfold chunkOffset mappingBytes indexBufferSize headerWords cowHeaderSize
    omega
  unfold chunkEntry mapping
  rw [word]

theorem Job.readChunks_get {blocksDone : Nat} (earlier : Nat)
    (sum : chunk + left = job.totalChunks)
    (done : blocksDone = min (indexBufferSize * chunk) job.totalBlocks) (below : earlier < left) :
    (job.readChunks left chunk blocksDone)[earlier]? =
      some ((List.range (job.wanted (chunk + earlier))).map (job.chunkEntry (chunk + earlier))) := by
  induction left generalizing chunk blocksDone earlier with
  | zero => exact absurd below (Nat.not_lt_zero _)
  | succ left ih =>
      have inside : indexBufferSize * chunk < job.totalBlocks := by
        have last : chunk < job.totalChunks := by omega
        unfold Job.totalChunks at last
        unfold indexBufferSize at last ⊢
        omega
      have wanted : min indexBufferSize (job.totalBlocks - blocksDone) = job.wanted chunk := by
        unfold Job.wanted
        rw [done, Nat.min_eq_left (Nat.le_of_lt inside)]
      unfold readChunks
      dsimp only
      rw [wanted]
      cases earlier with
      | zero => rfl
      | succ earlier =>
          have next : blocksDone + job.wanted chunk =
              min (indexBufferSize * (chunk + 1)) job.totalBlocks := by
            unfold Job.wanted
            rw [Nat.mul_succ]
            omega
          have found := ih earlier (by omega) next (by omega)
          rw [List.getElem?_cons_succ, found]
          have place : chunk + 1 + earlier = chunk + (earlier + 1) := by omega
          rw [place]

/-- Every block of the snapshot is an entry of a chunk. -/
theorem Job.obtained_eq (below : block < job.totalBlocks) :
    job.obtained block = some (job.mapping block) := by
  have chunkBelow : block / indexBufferSize < job.totalChunks := by
    unfold totalChunks
    unfold indexBufferSize
    omega
  have entryBelow : block % indexBufferSize < job.wanted (block / indexBufferSize) := by
    unfold wanted indexBufferSize
    omega
  have place : indexBufferSize * (block / indexBufferSize) + block % indexBufferSize = block :=
    Nat.div_add_mod _ _
  have found : (job.readChunks job.totalChunks 0 0)[block / indexBufferSize]? = _ :=
    Job.readChunks_get (block / indexBufferSize) (Nat.zero_add _) (by simp) chunkBelow
  unfold obtained
  rw [found, Option.bind_eq_bind, Option.bind_some, Nat.zero_add, List.getElem?_map,
    List.getElem?_range entryBelow, Option.map_some, chunkEntry_eq_mapping, place]

/-- The end of the index of a device with so many blocks. -/
def indexEnd (elements : Nat) : Nat := (reloadManager elements cowSectionSize 0).dataOffset

theorem indexEnd_eq (elements : Nat) :
    indexEnd elements = cowHeaderSize + (elements + cowSectionSize - 1) / cowSectionSize *
      (cowSectionSize * mappingBytes) := rfl

theorem entries_le_indexEnd (elements : Nat) :
    cowHeaderSize + mappingBytes * elements ≤ indexEnd elements := by
  rw [indexEnd_eq]
  unfold cowSectionSize mappingBytes
  omega

theorem covered_of_lt (below : block < elements) : Covered elements block := by
  change block / cowSectionSize < (elements + cowSectionSize - 1) / cowSectionSize
  unfold cowSectionSize
  omega

theorem dataOffset_of_live (live : Live elements state) : state.cm.dataOffset = indexEnd elements := by
  rw [live.inv.offset, live.sectSize, live.totalSects]
  rfl

/-- The file is there, with so many bytes. -/
def Spans (bytes : Nat) (state : CowState) : Prop :=
  ∃ file, state.file = some file ∧ bytes ≤ file.size

theorem Spans.of_traffic (changed : Nat) (spans : Spans bytes state)
    (traffic : SectionTraffic (state.withChanged changed) after) : Spans bytes after := by
  obtain ⟨file, stored, large⟩ := spans
  have frame := traffic.file
  change FileFrame _ state.file after.file at frame
  rw [stored] at frame
  cases stored' : after.file with
  | none =>
      rw [stored'] at frame
      exact frame.elim
  | some file' =>
      rw [stored'] at frame
      exact ⟨file', stored', Nat.le_trans large frame.size⟩

theorem Spans.of_kept (spans : Spans bytes state) (kept : Kept state after) :
    Spans bytes after :=
  spans.of_traffic state.cm.nrChangedBlocks kept.traffic

theorem Spans.of_data (spans : Spans bytes state) (cm : CowManager) (start count : Nat)
    (data : Nat → Nat) (rest : List Outcome) :
    Spans bytes ⟨cm, state.file.map (·.writeWords start count data), rest⟩ := by
  obtain ⟨file, stored, large⟩ := spans
  refine ⟨file.writeWords start count data, by rw [stored]; rfl, Nat.le_trans large ?_⟩
  unfold CowFile.writeWords
  dsimp only
  split
  · exact Nat.le_refl _
  · exact Nat.le_max_left _ _

theorem Spans.of_header (spans : Spans bytes state) (cm : CowManager) (header : CowHeader)
    (rest : List Outcome) : Spans bytes ⟨cm, state.file.map (·.writeHeader header), rest⟩ := by
  obtain ⟨file, stored, large⟩ := spans
  exact ⟨file.writeHeader header, by rw [stored]; rfl, Nat.le_trans large (Nat.le_max_left _ _)⟩

theorem Spans.of_either {pos val : Nat} {reason : Stop} {error : Errno}
    (spans : Spans bytes state) (stop : WriteStopped state pos val reason after)
    (same : reason = .errno error) : Spans bytes after := by
  rcases stop.either error same with kept | assigned
  · exact spans.of_kept kept
  · exact spans.of_traffic _ assigned.traffic

/-- However a capture ends, what it writes to the file makes it no shorter. -/
theorem writeCurrent_spans (buf : Nat → Nat) (live : Live elements state)
    (inside : state.cm.InRange block) (spans : Spans bytes state) :
    wp (cowWriteCurrent block buf) (fun _ after => Spans bytes after)
      (fun reason after => ∀ error, reason = .errno error → Spans bytes after) state := by
  obtain ⟨sects, found⟩ := Option.isSome_iff_exists.mp live.array
  refine wp_mono (cowWriteCurrent_spec buf live.inv found inside) ?_ ?_
  · intro _ after captured
    split at captured
    · obtain ⟨middle, kept, assigned, rest, wrote, _, _, _, same⟩ := captured
      subst same
      have reached := (spans.of_kept kept).of_traffic _ wrote.traffic
      exact reached.of_data _ _ _ buf rest
    · exact spans.of_kept captured
  · intro reason after stopped error same
    rcases stopped with stop | ⟨_, middle, kept, stop | ⟨assigned, wrote, _, final⟩⟩
    · exact spans.of_kept (stop.kept error same)
    · exact (spans.of_kept kept).of_either stop same
    · have reached := (spans.of_kept kept).of_traffic _ wrote.traffic
      rcases final with ⟨rest, _, same⟩ | ⟨_, count, rest, _, same⟩
      · subst same
        exact reached
      · subst same
        exact reached.of_data _ _ _ buf rest

theorem truncateToIndex_spans (live : Live elements state) (spans : Spans bytes state) :
    wp cowTruncateToIndex (fun _ after => Spans (indexEnd elements) after)
      (fun _ after => Spans bytes after) state := by
  refine wp_mono cowTruncateToIndex_spec ?_ ?_
  · intro _ after cut
    obtain ⟨_, rest, _, same⟩ := cut
    obtain ⟨file, stored, _⟩ := spans
    subst same
    refine ⟨file.truncate state.cm.dataOffset, by simp [stored], ?_⟩
    exact Nat.le_of_eq (dataOffset_of_live live).symm
  · intro _ after stop
    obtain ⟨_, _, rest, _, same⟩ := stop
    subst same
    exact spans

theorem syncAndClose_spans (live : Live elements state) (spans : Spans bytes state) :
    wp cowSyncAndCloseFile (fun _ after => Spans bytes after) (fun _ _ => True) state := by
  refine wp_mono (cowSyncAndCloseFile_spec live.inv) ?_ fun _ _ _ => trivial
  intro _ after closed
  obtain ⟨flushed, rest, kept, _, _, _, _, same⟩ := closed
  subst same
  exact (spans.of_kept kept).of_header _ _ rest

/-- No operation shortens the file below its index. -/
theorem exec_spans {op : MapOp} (live : Live elements state) (inside : op.InRange state.cm)
    (small : bytes ≤ indexEnd elements) (spans : Spans bytes state) :
    wp (op.exec elements) (fun _ after => Spans bytes after)
      (fun reason after => ¬ op.Rebuilds → ∀ error, reason = .errno error → Spans bytes after)
      state := by
  obtain ⟨sects, found⟩ := Option.isSome_iff_exists.mp live.array
  cases op with
  | readMapping pos =>
      simp only [MapOp.exec, wp_bind, wp_pure]
      exact wp_mono (cowReadMapping_spec live.inv found inside) (fun _ _ read => spans.of_kept read.1)
        fun _ _ stop _ error same => spans.of_kept (stop.kept error same)
  | writeMapping pos val =>
      simp only [MapOp.exec, wp_bind, wp_pure]
      exact wp_mono (cowWriteMapping_spec val live.inv found inside)
        (fun _ _ wrote => spans.of_traffic _ wrote.traffic)
        fun _ _ stop _ _ same => spans.of_either stop same
  | writeCurrent block buf =>
      simp only [MapOp.exec, wp_bind, wp_pure]
      exact wp_mono (writeCurrent_spans buf live inside spans) (fun _ _ => id) fun _ _ stop _ => stop
  | modifyCacheSize cacheSize => exact spans
  | truncateToIndex =>
      simp only [MapOp.exec, wp_bind, wp_pure]
      refine wp_mono (truncateToIndex_spans live spans) ?_ fun _ _ stop _ _ _ => stop
      intro _ after cut
      obtain ⟨file, stored, large⟩ := cut
      exact ⟨file, stored, Nat.le_trans small large⟩
  | closeReopen =>
      simp only [MapOp.exec, wp_bind, wp_pure]
      refine wp_mono (syncAndClose_spans live spans) ?_ fun _ _ _ stays => absurd trivial stays
      intro _ closed spans
      refine wp_mono cowReopen_spec ?_ fun _ _ _ stays => absurd trivial stays
      intro _ after reopened
      obtain ⟨file, rest, _, _, _, same⟩ := reopened
      subst same
      exact spans.of_header _ _ rest
  | freeReload cacheSize =>
      simp only [MapOp.exec, wp_bind, wp_pure, wp_getCm]
      refine wp_mono (syncAndClose_spans live spans) ?_ fun _ _ _ stays => absurd trivial stays
      intro _ closed spans
      refine wp_mono (cowReload_spec elements cowSectionSize cacheSize _) ?_
        fun _ _ _ stays => absurd trivial stays
      intro _ after reloaded
      obtain ⟨file, flags, rest, stored, _, _, _, same⟩ := reloaded
      obtain ⟨file', stored', large⟩ := spans
      rw [stored] at stored'
      cases stored'
      subst same
      exact ⟨_, rfl, Nat.le_trans large (Nat.le_max_left _ _)⟩

theorem run_spans {history : List (FaultyMap.Request Nat Nat × FaultyMap.Reply Nat)}
    {map : Nat → Nat} (run : IndexRun elements state history last) (live : Live elements state)
    (agrees : Agrees map state) (small : bytes ≤ indexEnd elements) (spans : Spans bytes state) :
    Spans bytes last := by
  induction run generalizing map with
  | done => exact spans
  | returns ran inside _ ih =>
      obtain ⟨live', map', _, agrees'⟩ := wp_done (exec_simulates live agrees inside) ran
      have spans' := wp_done (exec_spans live inside small spans) ran
      exact ih live' agrees' spans'
  | fails ran inside stays _ ih =>
      have stopped := wp_stopped (exec_simulates live agrees inside) ran stays
      obtain ⟨live', map', _, agrees'⟩ := stopped.2 _ rfl
      have spans' := wp_stopped (exec_spans live inside small spans) ran stays _ rfl
      exact ih live' agrees' spans'

theorem cowInit_spans (elements cacheSize fileMax : Nat) (uuid : BitVec 128) (seqid : Nat) :
    wp (cowInit elements cowSectionSize cacheSize fileMax uuid seqid)
      (fun _ after => Spans 0 after) (fun _ _ => True) state := by
  refine wp_mono (cowInit_spec elements cowSectionSize cacheSize fileMax uuid seqid) ?_
    fun _ _ _ => trivial
  intro _ after created
  obtain ⟨file, flags, rest, _, _, _, _, same⟩ := created
  subst same
  exact ⟨_, rfl, Nat.zero_le _⟩

theorem Job.chunk_inside (size : job.snapSize = elements * cowBlockSize)
    (spans : indexEnd elements ≤ job.cow.size) (below : chunk < job.totalChunks) :
    chunkOffset chunk + job.wanted chunk * mappingBytes ≤ job.cow.size := by
  have whole := entries_le_indexEnd elements
  have blocks : job.totalBlocks = elements := by
    unfold totalBlocks
    rw [size]
    unfold cowBlockSize
    omega
  unfold totalChunks at below
  unfold chunkOffset wanted
  rw [blocks] at below ⊢
  unfold mappingBytes indexBufferSize at *
  omega

/-- The tool reads what the manager had: whatever was written to the index, evicted, flushed
and reloaded before and after the file was cut to its index, once it is closed every chunk
lies inside it and holds the mappings of its blocks. -/
theorem update_img_reads_mappings {sectors cacheSize fileMax seqid : Nat} {uuid : BitVec 128}
    {start created before cut last closed : CowState}
    {earlier later : List (FaultyMap.Request Nat Nat × FaultyMap.Reply Nat)}
    (whole : 8 ∣ sectors)
    (initialised : cowInit (sectors / 8) cowSectionSize cacheSize fileMax uuid seqid start =
      (.ok (), created))
    (written : IndexRun (sectors / 8) created earlier before)
    (truncated : cowTruncateToIndex before = (.ok (), cut))
    (tracked : IndexRun (sectors / 8) cut later last)
    (synced : cowSyncAndClose last = (.ok (), closed)) :
    ∃ file, closed.file = some file ∧ ∀ job : Job, job.cow = file →
      job.snapSize = sectors * 512 →
      (∀ chunk < job.totalChunks,
        Job.chunkOffset chunk + job.wanted chunk * mappingBytes ≤ file.size) ∧
      ∀ block < sectors / 8, job.obtained block = some (last.lookup block) := by
  obtain ⟨live, agrees⟩ := wp_done (cowInit_live (sectors / 8) cacheSize fileMax uuid seqid)
    initialised
  have present := wp_done (cowInit_spans (sectors / 8) cacheSize fileMax uuid seqid) initialised
  have present := run_spans written live agrees (Nat.zero_le _) present
  obtain ⟨live, map, _, agrees⟩ := written.accepted live agrees
  have spans := wp_done (truncateToIndex_spans live present) truncated
  obtain ⟨live, map', _, agrees⟩ := wp_done (truncateToIndex_simulates live agrees) truncated
  have spans := run_spans tracked live agrees (Nat.le_refl _) spans
  obtain ⟨live, _, _, _⟩ := tracked.accepted live agrees
  obtain ⟨file, stored, large⟩ := wp_done (syncAndClose_spans live spans) synced
  have rests := wp_done (syncAndClose_rests live fun _ _ => rfl) synced
  have sizes : sectors * 512 = sectors / 8 * cowBlockSize := by
    unfold cowBlockSize
    omega
  refine ⟨file, stored, fun job same size => ?_⟩
  subst same
  rw [sizes] at size
  refine ⟨fun chunk below => Job.chunk_inside size large below, fun block below => ?_⟩
  have inside : closed.cm.InRange block := by
    change block / closed.cm.sectSize < closed.cm.totalSects
    rw [rests.sectSize, rests.totalSects]
    exact covered_of_lt below
  have below' : block < job.totalBlocks := by
    unfold Job.totalBlocks
    rw [size]
    unfold cowBlockSize
    omega
  have index := rests.index block inside
  rw [stored] at index
  rw [Job.obtained_eq below', ← index]
  rfl

/-- Three sections for 10000 blocks, two chunks, and no room to cache a section. -/
theorem update_img_reads_mappings_evicting :
    let created :=
      (cowInit (80000 / 8) cowSectionSize 0 (100 * cowBlockSize) 0#128 1 freshState).2
    let before := ((MapOp.writeMapping 3 7).exec (80000 / 8) created).2
    let cut := (cowTruncateToIndex before).2
    let last := ((MapOp.writeMapping 9000 8).exec (80000 / 8) cut).2
    let closed := (cowSyncAndClose last).2
    last.lookup 3 = 7 ∧ last.lookup 9000 = 8 ∧
      ∃ file, closed.file = some file ∧ ∀ job : Job, job.cow = file →
        job.snapSize = 80000 * 512 →
        (∀ chunk < job.totalChunks,
          Job.chunkOffset chunk + job.wanted chunk * mappingBytes ≤ file.size) ∧
        ∀ block < 80000 / 8, job.obtained block = some (last.lookup block) := by
  intro created before cut last closed
  have whole : 8 ∣ 80000 := by decide
  have initialised : cowInit (80000 / 8) cowSectionSize 0 (100 * cowBlockSize) 0#128 1
      freshState = (.ok (), created) := ran_of_reply (by decide +kernel)
  have wrote : (MapOp.writeMapping 3 7).exec (80000 / 8) created = (.ok none, before) :=
    ran_of_reply (by decide +kernel)
  have truncated : cowTruncateToIndex before = (.ok (), cut) := ran_of_reply (by decide +kernel)
  have wrote' : (MapOp.writeMapping 9000 8).exec (80000 / 8) cut = (.ok none, last) :=
    ran_of_reply (by decide +kernel)
  have synced : cowSyncAndClose last = (.ok (), closed) := ran_of_reply (by decide +kernel)
  have inside : created.cm.InRange 3 := by decide +kernel
  have inside' : cut.cm.InRange 9000 := by decide +kernel
  exact ⟨by decide +kernel, by decide +kernel, update_img_reads_mappings whole initialised
    (.returns wrote inside .done) truncated (.returns wrote' inside' .done) synced⟩

end Moocbt.Tools
