import Moocbt.Cow.Store

/-! The data area of the COW file over whole runs: every block has its own position,
and no write for one purpose reaches the bytes of another. -/

namespace Moocbt.Cow

open Program WriteOnce

variable {elements block : Nat} {state after last : CowState} {map map' : Nat → Nat}
  {buf : Nat → Nat} {content : Nat → Option (Nat → Nat)}

/-- No two blocks are mapped to one position. -/
def Distinct (elements : Nat) (map : Nat → Nat) : Prop :=
  ∀ first second, Covered elements first → Covered elements second → map first ≠ 0 →
    map first = map second → first = second

theorem Distinct.congr (distinct : Distinct elements map)
    (same : ∀ block, Covered elements block → map' block = map block) : Distinct elements map' := by
  intro first second covered covered' mapped equal
  rw [same first covered] at mapped equal
  rw [same second covered'] at equal
  exact distinct first second covered covered' mapped equal

/-- A position above all others is a new one. -/
theorem Distinct.update {pos : Nat} (distinct : Distinct elements map)
    (above : ∀ other, Covered elements other → map other < pos) :
    Distinct elements (Function.update map block pos) := by
  intro first second covered covered' mapped equal
  by_cases left : first = block
  · by_cases right : second = block
    · rw [left, right]
    · rw [left, Function.update_self, Function.update_of_ne right] at equal
      have below := above second covered'
      omega
  · rw [Function.update_of_ne left] at mapped equal
    by_cases right : second = block
    · rw [right, Function.update_self] at equal
      have below := above first covered
      omega
    · rw [Function.update_of_ne right] at equal
      exact distinct first second covered covered' mapped equal

/-- A store in which the blocks have positions of their own. -/
structure Filled (elements : Nat) (content : Nat → Option (Nat → Nat)) (state : CowState) :
    Prop where
  live : Live elements state
  stores : Stores elements content state
  distinct : Distinct elements state.lookup
  covered : ∀ block, content block ≠ none → Covered elements block

theorem Filled.below (filled : Filled elements content state) (covered : Covered elements block) :
    state.lookup block < state.cm.currPos := by
  cases found : content block with
  | none =>
      rw [filled.stores.absent covered found]
      have head := filled.live.head
      have offset := filled.live.inv.offset
      unfold HeadPastIndex at head
      by_contra zero
      have none : state.cm.currPos = 0 := by omega
      rw [none, offset, cowHeaderSize] at head
      omega
  | some buf => exact (filled.stores.present covered found).below

theorem Filled.of_kept (filled : Filled elements content state) (kept : Kept state after) :
    Filled elements content after :=
  ⟨filled.live.of_kept kept, filled.stores.of_kept filled.live kept,
    filled.distinct.congr fun block covered =>
      kept.same block ((inRange_iff_covered filled.live).mpr covered),
    filled.covered⟩

/-- The map after a capture. -/
theorem Captured.lookup {other : Nat} (captured : Captured state block buf after)
    (live : Live elements state) (inside : state.cm.InRange other) :
    after.lookup other = Function.update state.lookup block state.cm.currPos other := by
  obtain ⟨middle, rest, assigned, _, _, _, same⟩ := captured
  subst same
  have live' : Live elements middle := live.of_traffic _ assigned.traffic assigned.inv
  have looked := lookup_of_data live'.inv live'.head blockWords buf (middle.cm.currPos + 1) rest
    ((assigned.traffic.inRange other).mpr inside)
  exact looked.trans (assigned.map other inside)

theorem Filled.of_captured {middle : CowState} (filled : Filled elements content state)
    (covered : Covered elements block) (absent : content block = none) (kept : Kept state middle)
    (captured : Captured middle block buf after) :
    Filled elements (record content block buf) after := by
  have filled' := filled.of_kept kept
  have inside := (inRange_iff_covered filled.live).mpr covered
  have recorded := Recorded.of_captured filled.live filled.stores inside absent kept captured
  refine ⟨recorded.tended.live, recorded.stores, ?_, fun other present => ?_⟩
  · have updated : Distinct elements
        (Function.update middle.lookup block middle.cm.currPos) :=
      filled'.distinct.update fun other covered' => filled'.below covered'
    refine updated.congr fun other covered' => ?_
    exact captured.lookup filled'.live ((inRange_iff_covered filled'.live).mpr covered')
  · by_cases same : other = block
    · rw [same]
      exact covered
    · rw [record_of_ne same] at present
      exact filled.covered other present

theorem Filled.of_capture (filled : Filled elements content state)
    (covered : Covered elements block)
    (done : if state.lookup block = 0 then ∃ middle, Kept state middle ∧
        Captured middle block buf after else Kept state after) :
    Filled elements (record content block buf) after := by
  cases stored : content block with
  | none =>
      rw [if_pos (filled.stores.absent covered stored)] at done
      obtain ⟨middle, kept, captured⟩ := done
      exact filled.of_captured covered stored kept captured
  | some old =>
      rw [if_neg ((filled.stores.present covered stored).mapped filled.live.inv)] at done
      rw [record_of_some stored]
      exact filled.of_kept done

/-- What one call may write: bytes before the data area, then one block of it. -/
structure DataWrite (cm : CowManager) (before after : Option CowFile) : Prop where
  header : after.map CowFile.header = before.map CowFile.header
  words : ∀ word, ¬ (cm.currPos * blockWords ≤ word ∧
    word < cm.currPos * blockWords + blockWords) → fileWord after word = fileWord before word

def IndexWrites (cm : CowManager) (before after : Option CowFile) : Prop :=
  ∀ word, cm.dataOffset ≤ 8 * word → fileWord after word = fileWord before word

def Separate (before after : CowState) : Prop :=
  ∃ middle, IndexWrites before.cm before.file middle ∧ DataWrite before.cm middle after.file

theorem Separate.of_index (index : IndexWrites state.cm state.file after.file) :
    Separate state after := ⟨after.file, index, rfl, fun _ _ => rfl⟩

theorem Kept.index (kept : Kept state after) : IndexWrites state.cm state.file after.file :=
  fun _ beyond => kept.traffic.file.fileWord beyond

theorem Separate.of_captured {middle : CowState} (kept : Kept state middle)
    (captured : Captured middle block buf after) : Separate state after := by
  obtain ⟨assigned, rest, wrote, _, _, _, same⟩ := captured
  subst same
  have head : assigned.cm.currPos = state.cm.currPos :=
    wrote.traffic.currPos.trans kept.traffic.currPos
  refine ⟨assigned.file, fun word beyond => ?_, ?_, fun word outside => ?_⟩
  · have beyond' : middle.cm.dataOffset ≤ 8 * word := by
      rw [kept.traffic.dataOffset]
      exact beyond
    exact (wrote.traffic.file.fileWord beyond').trans (kept.index word beyond)
  · unfold CowState.withData
    cases assigned.file <;> rfl
  · rw [← head] at outside
    unfold CowState.withData
    cases assigned.file with
    | none => rfl
    | some file => simp only [Option.map_some, fileWord, CowFile.writeWords, if_neg outside]

theorem Separate.of_capture
    (done : if state.lookup block = 0 then ∃ middle, Kept state middle ∧
        Captured middle block buf after else Kept state after) : Separate state after := by
  split at done
  · obtain ⟨middle, kept, captured⟩ := done
    exact .of_captured kept captured
  · exact .of_index done.index

/-- The bytes of the header, of a section and of the next block of data lie apart. -/
structure Regions (cm : CowManager) : Prop where
  header : ∀ idx < cm.totalSects, cowHeaderBytes ≤ 8 * cm.sectWord idx
  index : ∀ idx < cm.totalSects, 8 * (cm.sectWord idx + cm.sectSize) ≤ cm.dataOffset
  data : cm.dataOffset ≤ 8 * (cm.currPos * blockWords)

theorem Live.regions (live : Live elements state) : Regions state.cm := by
  refine ⟨fun idx _ => ?_, fun idx below => live.inv.section_end below, ?_⟩
  · unfold CowManager.sectWord headerWords cowHeaderBytes
    omega
  · have head := live.head
    unfold HeadPastIndex cowBlockSize at head
    unfold blockWords
    omega

/-- The operations of a run. An eviction with any threshold may happen at any time. -/
inductive StoreOp where
  | capture (block : Nat) (buf : Nat → Nat)
  | read (pos : Nat)
  | evict (thresh : Nat)
  | closeReopen

namespace StoreOp

def exec : StoreOp → CowM Unit
  | capture block buf => cowWriteCurrent block buf
  | read pos => do
      let _ ← cowReadMapping pos
      pure ()
  | evict thresh => cowSyncAndFreeSections thresh
  | closeReopen => do
      cowSyncAndClose
      cowReopen

def writes : StoreOp → List (Nat × (Nat → Nat))
  | capture block buf => [(block, buf)]
  | _ => []

end StoreOp

def storeAll : List StoreOp → CowM Unit
  | [] => pure ()
  | op :: rest => do
      op.exec
      storeAll rest

theorem closeReopen_fills (filled : Filled elements content state) :
    wp (do
        cowSyncAndClose
        cowReopen)
      (fun _ after => Filled elements content after ∧ Separate state after) (fun _ _ => True)
      state := by
  have live := filled.live
  rw [wp_bind]
  refine wp_mono (wp_and (syncAndClose_shelves live filled.stores)
    (cowSyncAndCloseFile_spec live.inv)) ?_ (fun _ _ _ => trivial)
  intro _ closed both
  obtain ⟨shelved, flushed, rest, kept, _, _, _, _, same⟩ := both
  refine wp_mono (wp_and (wp_and (reopen_stores shelved) (reopen_simulates shelved.rests))
    cowReopen_spec) ?_ (fun _ _ _ => trivial)
  intro _ after both
  obtain ⟨⟨⟨live', stores⟩, _, agrees⟩, file, rest', stored, _, _, same'⟩ := both
  refine ⟨⟨live', stores, filled.distinct.congr fun block covered =>
    agrees block ((inRange_iff_covered live').mpr covered), filled.covered⟩, .of_index ?_⟩
  intro word beyond
  have closedWord : fileWord closed.file word = fileWord flushed.file word := by
    subst same
    unfold CowState.closed
    cases flushed.file <;> rfl
  have openedWord : fileWord after.file word = fileWord closed.file word := by
    subst same'
    unfold CowState.withHeader
    cases closed.file <;> rfl
  rw [openedWord, closedWord]
  exact kept.index word beyond

/-- What one operation that returns does. -/
theorem StoreOp.fills (op : StoreOp) (filled : Filled elements content state) :
    wp op.exec
      (fun _ after => Filled elements (recordAll content op.writes) after ∧ Separate state after)
      (fun _ _ => True) state := by
  have live := filled.live
  cases op with
  | capture block buf =>
      rcases covered_cases live block with ⟨sects, found, inside, covered⟩ | ⟨invalid, _⟩
      · refine wp_mono (cowWriteCurrent_spec buf live.inv found inside) ?_ (fun _ _ _ => trivial)
        intro _ after done
        exact ⟨filled.of_capture covered done, .of_capture done⟩
      · unfold StoreOp.exec cowWriteCurrent
        rw [wp_bind]
        exact wp_readMapping_invalid invalid trivial
  | read pos =>
      unfold StoreOp.exec
      rw [wp_bind]
      rcases covered_cases live pos with ⟨sects, found, inside, _⟩ | ⟨invalid, _⟩
      · refine wp_mono (cowReadMapping_spec live.inv found inside) ?_ (fun _ _ _ => trivial)
        intro _ after read
        exact ⟨filled.of_kept read.1, .of_index read.1.index⟩
      · exact wp_readMapping_invalid invalid trivial
  | evict thresh =>
      refine wp_mono (cowSyncAndFreeSections_spec thresh live.inv) ?_ (fun _ _ _ => trivial)
      intro _ after evicted
      exact ⟨filled.of_kept evicted.1, .of_index evicted.1.index⟩
  | closeReopen => exact closeReopen_fills filled

theorem storeAll_fills (ops : List StoreOp) (filled : Filled elements content state) :
    wp (storeAll ops)
      (fun _ after => Filled elements (recordAll content (ops.flatMap StoreOp.writes)) after)
      (fun _ _ => True) state := by
  induction ops generalizing state content with
  | nil => exact filled
  | cons op rest ih =>
      unfold storeAll
      rw [wp_bind]
      refine wp_mono (op.fills filled) ?_ (fun _ _ _ => trivial)
      intro _ middle first
      rw [List.flatMap_cons, recordAll_append]
      exact ih first.1

/-- A byte of a sequence of words. -/
def byteOf (words : Nat → Nat) (byte : Nat) : Nat := words (byte / 8) / 256 ^ (byte % 8) % 256

def fileReadBytes (start len : Nat) : CowM (Nat → Nat) :=
  fileIo (fun _ => pure ()) fun file =>
    if len = 0 ∨ start + len ≤ file.size then pure fun byte => byteOf file.words (start + byte)
    else .stop (.errno .eio)

/-- `cow_read_data`, with the offset and the length in bytes. -/
def cowReadBytes (blockPos blockOff len : Nat) : CowM (Nat → Nat) :=
  if blockOff ≥ cowBlockSize then .stop (.errno .einval)
  else fileReadBytes (blockPos * cowBlockSize + blockOff) len

theorem fileReadBytes_spec (start len : Nat) :
    wp (fileReadBytes start len)
      (fun bytes after => (∃ rest, Leaves state rest ∧ after = { state with outcomes := rest }) ∧
        bytes = fun byte => byteOf (fileWord state.file) (start + byte))
      (fun reason after => FileExcuse state (start + len) reason ∧
        ∃ rest, Leaves state rest ∧ after = { state with outcomes := rest }) state := by
  apply wp_fileIo (start + len)
  · exact fun rest leaves => ⟨rest, leaves, rfl⟩
  · exact fun _ rest _ leaves => ⟨rest, leaves, rfl⟩
  · intro file rest opened stored leaves
    rw [wp_ite]
    split
    · refine ⟨⟨rest, leaves, rfl⟩, ?_⟩
      rw [stored]
      rfl
    · rename_i short
      refine ⟨⟨by simp, ?_⟩, rest, leaves, rfl⟩
      intro _ enough
      obtain ⟨file', found, size⟩ := enough
      rw [stored] at found
      cases found
      exact absurd (.inr size) short

/-- Words and bytes of a read are the same data. -/
theorem cowReadBytes_words (blockPos off len : Nat) :
    cowReadBytes blockPos (8 * off) (8 * len) =
      cowReadData blockPos off len >>= fun words => pure (byteOf words) := by
  funext state
  unfold cowReadBytes cowReadData
  by_cases past : 8 * off ≥ cowBlockSize
  · rw [if_pos past, if_pos past]
    rfl
  · rw [if_neg past, if_neg past]
    unfold fileReadBytes fileRead fileIo
    simp only [bind, Program.read]
    cases state.cm.dfilp with
    | null => rfl
    | errPtr => rfl
    | opened =>
        dsimp only
        cases nextOutcome state with
        | mk result middle =>
            cases result with
            | error reason => rfl
            | ok outcome =>
                cases outcome with
                | crashes => rfl
                | fails error written => rfl
                | succeeds =>
                    dsimp only
                    cases state.file with
                    | none => rfl
                    | some file =>
                        dsimp only
                        have size : (8 * len = 0 ∨
                            blockPos * cowBlockSize + 8 * off + 8 * len ≤ file.size) ↔
                            (len = 0 ∨ 8 * (blockPos * blockWords + off + len) ≤ file.size) := by
                          unfold cowBlockSize blockWords
                          omega
                        by_cases whole : len = 0 ∨
                            8 * (blockPos * blockWords + off + len) ≤ file.size
                        · rw [if_pos (size.mpr whole), if_pos whole]
                          refine Prod.ext (congrArg Except.ok ?_) rfl
                          funext byte
                          unfold byteOf cowBlockSize blockWords
                          have word : (blockPos * 4096 + 8 * off + byte) / 8 =
                              blockPos * 512 + off + byte / 8 := by omega
                          have lane : (blockPos * 4096 + 8 * off + byte) % 8 = byte % 8 := by omega
                          rw [word, lane]
                        · rw [if_neg (mt size.mp whole), if_neg whole]
                          rfl

/-- Every byte of a block that was captured is read back. -/
theorem readBytes_fills {off len : Nat} (filled : Filled elements content state)
    (present : content block = some buf) (fits : off + len ≤ cowBlockSize)
    (within : off < cowBlockSize) :
    wp (cowReadBytes (state.lookup block) off len)
      (fun bytes _ => ∀ byte < len, bytes byte = byteOf buf (off + byte))
      (fun _ _ => state.outcomes ≠ []) state := by
  have covered := filled.covered block (by rw [present]; simp)
  have holds := filled.stores.present covered present
  unfold cowReadBytes
  rw [if_neg (Nat.not_le.mpr within)]
  refine wp_mono (fileReadBytes_spec _ _) ?_ ?_
  · intro bytes _ read byte below
    obtain ⟨_, read⟩ := read
    unfold cowBlockSize at fits
    have word : (state.lookup block * cowBlockSize + off + byte) / 8 =
        state.lookup block * blockWords + (off + byte) / 8 := by
      unfold cowBlockSize blockWords
      omega
    have lane : (state.lookup block * cowBlockSize + off + byte) % 8 = (off + byte) % 8 := by
      unfold cowBlockSize
      omega
    have small : (off + byte) / 8 < blockWords := by
      unfold blockWords
      omega
    rw [read]
    unfold byteOf
    dsimp only
    rw [word, lane, holds.words _ small]
  · intro reason _ stop
    obtain ⟨file, found, size⟩ := holds.size
    refine stop.1.failure filled.live.opened ⟨file, found, ?_⟩
    unfold cowBlockSize at fits size ⊢
    omega

theorem cowInit_fills (elements cacheSize fileMax : Nat) (uuid : BitVec 128) (seqid : Nat) :
    wp (cowInit elements cowSectionSize cacheSize fileMax uuid seqid)
      (fun _ after => Filled elements (fun _ => none) after) (fun _ _ => True) state := by
  refine wp_mono (cowInit_live elements cacheSize fileMax uuid seqid) ?_ (fun _ _ _ => trivial)
  intro _ after created
  obtain ⟨live, empty⟩ := created
  have absent : ∀ block, Covered elements block → after.lookup block = 0 :=
    fun block covered => empty block ((inRange_iff_covered live).mpr covered)
  refine ⟨live, absent, fun first second covered _ mapped => ?_, fun block present => ?_⟩
  · exact absurd (absent first covered) mapped
  · exact absurd rfl present

/-- The COW file is a write-once store: over any run whose calls return, mapped positions
are in the data area, below the head and all different, the next call of any kind keeps
to its own bytes, and each captured block reads back as it was captured first. -/
theorem data_area_write_once {cacheSize fileMax : Nat} {uuid : BitVec 128} {seqid : Nat}
    {start created : CowState} {ops : List StoreOp}
    (initialised : cowInit elements cowSectionSize cacheSize fileMax uuid seqid start =
      (.ok (), created))
    (ran : storeAll ops created = (.ok (), last)) :
    (∀ first second, last.cm.InRange first → last.cm.InRange second → last.lookup first ≠ 0 →
      last.lookup first = last.lookup second → first = second) ∧
    (∀ block, last.cm.InRange block → last.lookup block ≠ 0 →
      last.cm.dataOffset / cowBlockSize ≤ last.lookup block ∧
        last.lookup block < last.cm.currPos) ∧
    Regions last.cm ∧
    (∀ (op : StoreOp) after, op.exec last = (.ok (), after) → Separate last after) ∧
    ∀ block buf, ((ops.flatMap StoreOp.writes).find? fun write => write.1 = block) =
        some (block, buf) →
      ∀ off len, off < cowBlockSize → off + len ≤ cowBlockSize →
        wp (cowReadBytes (last.lookup block) off len)
          (fun bytes _ => ∀ byte < len, bytes byte = byteOf buf (off + byte))
          (fun _ _ => last.outcomes ≠ []) last := by
  have empty := wp_done (cowInit_fills elements cacheSize fileMax uuid seqid) initialised
  have filled := wp_done (storeAll_fills ops empty) ran
  have covers : ∀ {block}, last.cm.InRange block → Covered elements block :=
    (inRange_iff_covered filled.live).mp
  refine ⟨fun first second inside inside' => filled.distinct first second (covers inside)
    (covers inside'), fun block inside mapped => ?_, filled.live.regions, fun op after next => ?_,
    fun block buf first off len within fits => ?_⟩
  · have covered := covers inside
    cases found : recordAll (fun _ => none) (ops.flatMap StoreOp.writes) block with
    | none => exact absurd (filled.stores.absent covered found) mapped
    | some buf =>
        have holds := filled.stores.present covered found
        refine ⟨?_, holds.below⟩
        exact (Nat.div_le_iff_le_mul_add_pred (by decide)).mpr
          (Nat.le_add_right_of_le (by rw [Nat.mul_comm]; exact holds.area))
  · exact (wp_done (op.fills filled) next).2
  · refine readBytes_fills filled ?_ fits within
    rw [recordAll_eq, first]
    rfl

/-- Two blocks of different sections, no room to cache either, and the first captured
again after the file was closed. -/
theorem data_area_write_once_evicting :
    let created := (cowInit 8192 cowSectionSize 0 (100 * cowBlockSize) 0#128 1 freshState).2
    let ops : List StoreOp := [.capture 3 fun _ => 7, .capture 5000 fun _ => 8, .evict 0,
      .closeReopen, .capture 3 fun _ => 9, .read 3]
    let last := (storeAll ops created).2
    last.lookup 3 ≠ 0 ∧ ∀ off len, off < cowBlockSize → off + len ≤ cowBlockSize →
      wp (cowReadBytes (last.lookup 3) off len)
        (fun bytes _ => ∀ byte < len, bytes byte = byteOf (fun _ => 7) (off + byte))
        (fun _ _ => last.outcomes ≠ []) last := by
  intro created ops last
  have initialised : cowInit 8192 cowSectionSize 0 (100 * cowBlockSize) 0#128 1 freshState =
      (.ok (), created) := ran_of_reply (by decide +kernel)
  have ran : storeAll ops created = (.ok (), last) := ran_of_reply (by decide +kernel)
  refine ⟨by decide +kernel, ?_⟩
  exact (data_area_write_once initialised ran).2.2.2.2 3 (fun _ => 7) rfl

end Moocbt.Cow
