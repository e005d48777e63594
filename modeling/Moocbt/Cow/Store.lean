import Moocbt.Data.WriteOnce
import Moocbt.Cow.Tending

/-! The COW file as a write-once store of blocks: the first data captured for a
block is found at the position its mapping names. -/

namespace Moocbt.Cow

open Program WriteOnce

variable {elements block : Nat} {state after : CowState} {map : Nat → Nat} {buf : Nat → Nat}
  {content : Nat → Option (Nat → Nat)}

/-- The data is at a position of the data area below the write head. -/
structure DataAt (cm : CowManager) (file : Option CowFile) (pos : Nat) (buf : Nat → Nat) :
    Prop where
  area : cm.dataOffset ≤ pos * cowBlockSize
  below : pos < cm.currPos
  words : ∀ word < blockWords, fileWord file (pos * blockWords + word) = buf word
  size : ∃ found, file = some found ∧ (pos + 1) * cowBlockSize ≤ found.size

/-- The data of a block is where its mapping says. -/
def Holds (state : CowState) (block : Nat) (buf : Nat → Nat) : Prop :=
  DataAt state.cm state.file (state.lookup block) buf

def Stores (elements : Nat) (content : Nat → Option (Nat → Nat)) (state : CowState) : Prop :=
  ∀ block, Covered elements block →
    match content block with
    | none => state.lookup block = 0
    | some buf => Holds state block buf

theorem Stores.absent (stores : Stores elements content state)
    (covered : Covered elements block) (absent : content block = none) : state.lookup block = 0 := by
  have stored := stores block covered
  rw [absent] at stored
  exact stored

theorem Stores.present (stores : Stores elements content state) (covered : Covered elements block)
    (present : content block = some buf) : Holds state block buf := by
  have stored := stores block covered
  rw [present] at stored
  exact stored

theorem Holds.mapped (holds : Holds state block buf) (inv : CowInv state.cm state.file) :
    state.lookup block ≠ 0 := by
  intro zero
  have area := holds.area
  rw [zero, inv.offset, cowHeaderSize] at area
  omega

/-- The file is still there and no smaller. -/
def Grows (before after : Option CowFile) : Prop :=
  ∀ file, before = some file → ∃ file', after = some file' ∧ file.size ≤ file'.size

theorem FileFrame.grows {offset : Nat} {before after : Option CowFile}
    (frame : FileFrame offset before after) : Grows before after := by
  intro file found
  subst found
  cases after with
  | none => exact frame.elim
  | some file' => exact ⟨file', rfl, SameData.size frame⟩

theorem grows_writeWords (file : Option CowFile) (start count : Nat) (data : Nat → Nat) :
    Grows file (file.map (·.writeWords start count data)) := by
  intro old found
  subst found
  refine ⟨_, rfl, ?_⟩
  unfold CowFile.writeWords
  split
  · exact Nat.le_refl _
  · exact Nat.le_max_left _ _

/-- Data stays while nothing in the data area below the write head changes. -/
theorem DataAt.of_frame {cm cm' : CowManager} {file file' : Option CowFile} {pos : Nat}
    (found : DataAt cm file pos buf) (offset : cm'.dataOffset = cm.dataOffset)
    (head : cm.currPos ≤ cm'.currPos) (grows : Grows file file')
    (frame : ∀ word, cm.dataOffset ≤ 8 * word → word < cm.currPos * blockWords →
      fileWord file' word = fileWord file word) : DataAt cm' file' pos buf := by
  have area := found.area
  have below := found.below
  have next : (pos + 1) * blockWords ≤ cm.currPos * blockWords := Nat.mul_le_mul_right _ below
  obtain ⟨old, stored, size⟩ := found.size
  obtain ⟨new, stored', bigger⟩ := grows old stored
  unfold cowBlockSize at area
  unfold blockWords at next
  refine ⟨by rw [offset]; exact found.area, by omega, ?_, new, stored', by omega⟩
  intro word small
  rw [frame]
  · exact found.words word small
  · unfold blockWords
    omega
  · unfold blockWords at small ⊢
    omega

theorem Holds.of_frame (holds : Holds state block buf)
    (lookup : after.lookup block = state.lookup block)
    (offset : after.cm.dataOffset = state.cm.dataOffset)
    (head : state.cm.currPos ≤ after.cm.currPos) (grows : Grows state.file after.file)
    (frame : ∀ word, state.cm.dataOffset ≤ 8 * word → word < state.cm.currPos * blockWords →
      fileWord after.file word = fileWord state.file word) : Holds after block buf := by
  unfold Holds
  rw [lookup]
  exact DataAt.of_frame holds offset head grows frame

theorem FileFrame.fileWord {offset : Nat} {before after : Option CowFile}
    (frame : FileFrame offset before after) {word : Nat} (beyond : offset ≤ 8 * word) :
    fileWord after word = fileWord before word := by
  cases before with
  | none =>
      cases after with
      | none => rfl
      | some file => exact frame.elim
  | some old =>
      cases after with
      | none => exact frame.elim
      | some new =>
          have words := SameData.words frame
          exact words word beyond

theorem Holds.of_kept (holds : Holds state block buf) (kept : Kept state after)
    (inside : state.cm.InRange block) : Holds after block buf :=
  holds.of_frame (kept.same block inside) kept.traffic.dataOffset
    (Nat.le_of_eq kept.traffic.currPos.symm) kept.traffic.file.grows fun _ beyond _ => kept.traffic.file.fileWord beyond

theorem Stores.of_kept (stores : Stores elements content state) (live : Live elements state)
    (kept : Kept state after) : Stores elements content after := by
  intro block covered
  have inside := (inRange_iff_covered live).mpr covered
  have stored := stores block covered
  cases found : content block with
  | none =>
      rw [found] at stored
      exact (kept.same block inside).trans stored
  | some buf =>
      rw [found] at stored
      exact Holds.of_kept stored kept inside

/-- The mapping of one block changes; another keeps its data. -/
theorem Holds.of_assigned {pos val : Nat} (holds : Holds state block buf) (assigned : Assigned state pos val after)
    (inside : state.cm.InRange block) (apart : block ≠ pos) : Holds after block buf := by
  refine holds.of_frame ?_ assigned.traffic.dataOffset
    (Nat.le_of_eq assigned.traffic.currPos.symm) assigned.traffic.file.grows
    fun _ beyond _ => assigned.traffic.file.fileWord beyond
  rw [assigned.map block inside, Function.update_of_ne apart]

theorem Holds.of_data (holds : Holds state block buf) (live : Live elements state)
    (inside : state.cm.InRange block) (buf' : Nat → Nat) (rest : List Outcome) :
    Holds (state.withData buf' rest) block buf := by
  refine holds.of_frame
    (lookup_of_data live.inv live.head blockWords buf' (state.cm.currPos + 1) rest inside) rfl
    (Nat.le_succ _) (grows_writeWords _ _ _ _) ?_
  intro word _ below
  unfold CowState.withData
  have missed : ¬ (state.cm.currPos * blockWords ≤ word ∧
      word < state.cm.currPos * blockWords + blockWords) := by omega
  cases state.file with
  | none => rfl
  | some file => simp only [Option.map_some, fileWord, CowFile.writeWords, if_neg missed]

theorem Stores.of_captured (stores : Stores elements content state) (live : Live elements state)
    (inside : state.cm.InRange block) (absent : content block = none)
    (captured : Captured state block buf after) :
    Stores elements (record content block buf) after := by
  obtain ⟨middle, rest, assigned, _, _, present, same⟩ := captured
  subst same
  have live' : Live elements middle :=
    live.of_traffic _ assigned.traffic assigned.inv
  have mapping : (middle.withData buf rest).lookup block = middle.cm.currPos := by
    have inside' := (assigned.traffic.inRange block).mpr inside
    have looked := lookup_of_data live'.inv live'.head blockWords buf (middle.cm.currPos + 1) rest
      inside'
    have assignedHere := assigned.map block inside
    rw [Function.update_self] at assignedHere
    have head : middle.cm.currPos = state.cm.currPos := assigned.traffic.currPos
    exact looked.trans (assignedHere.trans head.symm)
  intro other covered
  have inside' := (inRange_iff_covered live).mpr covered
  by_cases same : other = block
  · subst same
    rw [record_self, absent]
    obtain ⟨file, stored⟩ := Option.isSome_iff_exists.mp present
    refine ⟨?_, ?_, ?_, ?_⟩
    · rw [mapping]
      exact live'.head
    · rw [mapping]
      exact Nat.lt_succ_self _
    · intro word small
      rw [mapping]
      unfold CowState.withData
      have hit : middle.cm.currPos * blockWords ≤ middle.cm.currPos * blockWords + word ∧
          middle.cm.currPos * blockWords + word <
            middle.cm.currPos * blockWords + blockWords := by omega
      simp only [stored, Option.map_some, fileWord, CowFile.writeWords, if_pos hit,
        Nat.add_sub_cancel_left]
    · refine ⟨_, congrArg (Option.map _) stored, ?_⟩
      rw [mapping]
      unfold CowFile.writeWords blockWords cowBlockSize
      simp only [OfNat.ofNat_ne_zero, if_false]
      omega
  · rw [record_of_ne same]
    have stored := stores other covered
    have inside'' := (assigned.traffic.inRange other).mpr inside'
    cases found : content other with
    | none =>
        rw [found] at stored
        have looked := lookup_of_data live'.inv live'.head blockWords buf (middle.cm.currPos + 1)
          rest inside''
        refine looked.trans ?_
        rw [assigned.map other inside', Function.update_of_ne same]
        exact stored
    | some buf' =>
        rw [found] at stored
        have held := Holds.of_assigned stored assigned inside' same
        exact held.of_data live' inside'' buf rest

/-- There is room in the file for so many more blocks. -/
def Room (state : CowState) (count : Nat) : Prop :=
  count = 0 ∨ (state.cm.currPos + count - 1) * cowBlockSize < state.cm.fileSize

/-- How many of the blocks have no data yet. -/
def newBlocks (content : Nat → Option (Nat → Nat)) (blocks : List Nat) : Nat :=
  blocks.countP fun block => (content block).isNone

theorem newBlocks_record (content : Nat → Option (Nat → Nat)) (block : Nat) (buf : Nat → Nat)
    (blocks : List Nat) :
    newBlocks (record content block buf) blocks ≤ newBlocks content blocks := by
  unfold newBlocks
  refine List.countP_mono_left fun other _ absent => ?_
  by_cases same : other = block
  · subst same
    rw [record_self] at absent
    cases found : content other with
    | none => rfl
    | some old => simp [found] at absent
  · rw [record_of_ne same] at absent
    exact absent

theorem Room.weaken {count fewer : Nat} (room : Room state count) (less : fewer ≤ count) :
    Room state fewer := by
  unfold Room cowBlockSize at *
  omega

theorem newBlocks_cons (content : Nat → Option (Nat → Nat)) (block : Nat) (blocks : List Nat) :
    newBlocks content (block :: blocks) = newBlocks content [block] + newBlocks content blocks := by
  unfold newBlocks
  rw [List.countP_cons, List.countP_cons, List.countP_nil]
  omega

/-- The state after writes to the store: the data is recorded, and the head has
moved by the number of blocks that are new. -/
structure Recorded (elements : Nat) (content : Nat → Option (Nat → Nat)) (before : CowState)
    (moved : Nat) (after : CowState) : Prop where
  tended : Tended elements before after
  stores : Stores elements content after
  size : after.cm.fileSize = before.cm.fileSize
  head : after.cm.currPos = before.cm.currPos + moved

theorem Recorded.refl (live : Live elements state) (stores : Stores elements content state) :
    Recorded elements content state 0 state := ⟨.refl live, stores, rfl, rfl⟩

theorem Recorded.of_kept (live : Live elements state) (stores : Stores elements content state)
    (kept : Kept state after) : Recorded elements content state 0 after :=
  ⟨.of_kept live kept, stores.of_kept live kept, kept.traffic.fields.fileSize,
    kept.traffic.currPos⟩

theorem Recorded.trans {content' : Nat → Option (Nat → Nat)} {first second third : CowState}
    {moved moved' : Nat} (live : Live elements first)
    (left : Recorded elements content first moved second)
    (right : Recorded elements content' second moved' third) :
    Recorded elements content' first (moved + moved') third :=
  ⟨left.tended.trans live right.tended, right.stores, right.size.trans left.size, by
    rw [right.head, left.head, Nat.add_assoc]⟩

theorem Recorded.room {moved count : Nat} (recorded : Recorded elements content state moved after)
    (room : Room state (moved + count)) : Room after count := by
  unfold Room at room ⊢
  rw [recorded.head, recorded.size]
  rcases room with none | enough
  · left
    omega
  · by_cases none : count = 0
    · exact .inl none
    · right
      have same : state.cm.currPos + moved + count - 1 = state.cm.currPos + (moved + count) - 1 := by
        omega
      rw [same]
      exact enough

theorem Recorded.of_captured {middle : CowState} (live : Live elements state)
    (stores : Stores elements content state) (inside : state.cm.InRange block)
    (absent : content block = none) (kept : Kept state middle)
    (captured : Captured middle block buf after) :
    Recorded elements (record content block buf) state 1 after := by
  have first := Recorded.of_kept live stores kept
  have inside' := (kept.traffic.inRange block).mpr inside
  have live' := first.tended.live
  have stored := first.stores.of_captured live' inside' absent captured
  obtain ⟨assigned, rest, wrote, leaves, opened, present, same⟩ := captured
  subst same
  have tended : Tended elements middle assigned := .of_traffic live' wrote.traffic wrote.inv
  have dirty : Dirty assigned.file → Dirty (assigned.withData buf rest).file := by
    intro dirty found same
    obtain ⟨file, stored, rfl⟩ := Option.map_eq_some_iff.mp same
    exact dirty file stored
  have ready : Ready assigned → Ready (assigned.withData buf rest) := by
    intro ready
    obtain ⟨file, found, size⟩ := ready.file
    obtain ⟨file', found', bigger⟩ := grows_writeWords assigned.file
      (assigned.cm.currPos * blockWords) blockWords buf file found
    exact ⟨ready.opened, ready.array, file', found', Nat.le_trans size bigger⟩
  have wrote' : Tended elements assigned (assigned.withData buf rest) :=
    ⟨tended.live.of_data blockWords buf (Nat.le_succ _) rest,
      ⟨fun shut => absurd opened shut, dirty⟩, ready, leaves⟩
  have second : Recorded elements (record content block buf) middle 1
      (assigned.withData buf rest) :=
    ⟨tended.trans live' wrote', stored, wrote.traffic.fields.fileSize,
      congrArg (· + 1) wrote.traffic.currPos⟩
  exact first.trans live second

theorem covered_cases (live : Live elements state) (block : Nat) :
    (∃ sects, state.cm.sects = some sects ∧ state.cm.InRange block ∧ Covered elements block) ∨
      ((state.cm.sects = none ∨ ¬ block / state.cm.sectSize < state.cm.totalSects) ∧
        ¬ Covered elements block) := by
  rcases access_cases state block with ⟨sects, found, inside⟩ | invalid
  · exact .inl ⟨sects, found, inside, (inRange_iff_covered live).mp inside⟩
  · refine .inr ⟨invalid, fun covered => ?_⟩
    rcases invalid with gone | outside
    · have array := live.array
      rw [gone] at array
      contradiction
    · exact outside ((inRange_iff_covered live).mpr covered)

/-- A read that ends early: an error leaves the store as it was. -/
structure Interrupted (elements : Nat) (content : Nat → Option (Nat → Nat)) (before : CowState)
    (within : Prop) (reason : Stop) (after : CowState) : Prop where
  abandoned : Abandoned before within after
  keeps : ∀ error, reason = .errno error → Recorded elements content before 0 after

theorem Interrupted.later {first second third : CowState} {within within' : Prop} {reason : Stop}
    (live : Live elements first) (left : Recorded elements content first 0 second)
    (right : Interrupted elements content second within reason third) (weaker : within' → within) :
    Interrupted elements content first within' reason third :=
  ⟨right.abandoned.later live left.tended weaker, fun error same =>
    left.trans live (right.keeps error same)⟩

theorem Interrupted.weaken {within within' : Prop} {reason : Stop}
    (stop : Interrupted elements content state within reason after) (weaker : within' → within) :
    Interrupted elements content state within' reason after :=
  ⟨stop.abandoned.weaken fun _ _ => weaker, stop.keeps⟩

theorem readMapping_stores (live : Live elements state) (stores : Stores elements content state) :
    wp (cowReadMapping block)
      (fun value after => Covered elements block ∧ Recorded elements content state 0 after ∧
        value = state.lookup block ∧ after.lookup block = state.lookup block)
      (Interrupted elements content state (Covered elements block)) state := by
  rcases covered_cases live block with ⟨sects, found, inside, covered⟩ | ⟨invalid, outside⟩
  · refine wp_mono (cowReadMapping_spec live.inv found inside) ?_ ?_
    · intro value after read
      obtain ⟨kept, same⟩ := read
      exact ⟨covered, .of_kept live stores kept, same, kept.same block inside⟩
    · intro reason after stop
      exact ⟨⟨.of_sections stop.traffic, fun ready none =>
        absurd none (stop.excuse.failure ready)⟩, fun error same =>
        .of_kept live stores (stop.kept error same)⟩
  · exact wp_readMapping_invalid invalid ⟨⟨.of_same rfl, fun _ _ => outside⟩, by simp⟩

theorem CaptureStopped.abandoned {reason : Stop} (live : Live elements state)
    (stop : CaptureStopped state block buf reason after) :
    Abandoned state (Room state 1) after := by
  rcases stop with stop | ⟨middle, assigned, excuse, effect⟩
  · obtain ⟨changed, traffic⟩ := stop.traffic
    exact ⟨.of_traffic traffic, fun ready none => absurd none (stop.excuse.failure ready)⟩
  · have tended : Tended elements state middle := .of_traffic live assigned.traffic assigned.inv
    have quiet : Quiet middle after := by
      rcases effect with ⟨rest, _, same⟩ | ⟨opened, count, rest, _, same⟩
      · subst same
        exact .of_same rfl
      · subst same
        refine ⟨fun shut => absurd opened shut, fun dirty found same => ?_⟩
        obtain ⟨file, stored, rfl⟩ := Option.map_eq_some_iff.mp same
        exact dirty file stored
    refine ⟨tended.quiet.trans quiet assigned.traffic.dfilp, fun ready none room => ?_⟩
    rcases excuse with excuse | ⟨_, full⟩
    · exact excuse.failure (tended.ready ready) (tended.calm none)
    · have fields := assigned.traffic.fields
      rw [fields.fileSize, fields.currPos] at full
      change state.cm.fileSize ≤ state.cm.currPos * cowBlockSize at full
      rcases room with impossible | enough
      · contradiction
      · rw [Nat.add_sub_cancel] at enough
        omega

/-- The first data that is captured for a block is recorded. -/
theorem writeCurrent_stores (buf : Nat → Nat) (live : Live elements state)
    (stores : Stores elements content state) :
    wp (cowWriteCurrent block buf)
      (fun _ after => Covered elements block ∧
        Recorded elements (record content block buf) state (newBlocks content [block]) after)
      (fun _ after => Abandoned state
        (Covered elements block ∧ Room state (newBlocks content [block])) after) state := by
  rcases covered_cases live block with ⟨sects, found, inside, covered⟩ | ⟨invalid, outside⟩
  · refine wp_mono (cowWriteCurrent_spec buf live.inv found inside) ?_ ?_
    · intro _ after captured
      refine ⟨covered, ?_⟩
      cases stored : content block with
      | none =>
          rw [if_pos (stores.absent covered stored)] at captured
          obtain ⟨middle, kept, captured⟩ := captured
          have count : newBlocks content [block] = 1 := by simp [newBlocks, stored]
          rw [count]
          exact .of_captured live stores inside stored kept captured
      | some old =>
          have mapped := (stores.present covered stored).mapped live.inv
          rw [if_neg mapped] at captured
          have count : newBlocks content [block] = 0 := by simp [newBlocks, stored]
          rw [count, record_of_some stored]
          exact .of_kept live stores captured
    · intro reason after stop
      rcases stop with stop | ⟨absent, middle, kept, stop⟩
      · exact ⟨.of_sections stop.traffic, fun ready none =>
          absurd none (stop.excuse.failure ready)⟩
      · have first := Recorded.of_kept live stores kept
        refine (stop.abandoned first.tended.live).later live first.tended fun within => ?_
        have count : newBlocks content [block] = 1 := by
          cases stored : content block with
          | none => simp [newBlocks, stored]
          | some old => exact absurd absent ((stores.present covered stored).mapped live.inv)
        have room := within.2
        rw [count] at room
        exact first.room room
  · unfold cowWriteCurrent
    rw [wp_bind]
    exact wp_readMapping_invalid invalid ⟨.of_same rfl, fun _ _ within => outside within.1⟩

/-- Stored data is read back from the file. -/
theorem readData_stores {off len : Nat} (live : Live elements state)
    (stores : Stores elements content state) (covered : Covered elements block)
    (present : content block = some buf) (fits : off + len ≤ blockWords) (nonempty : 0 < len) :
    wp (cowReadData (state.lookup block) off len)
      (fun words after => Recorded elements content state 0 after ∧
        ∀ word < len, words word = buf (off + word))
      (Interrupted elements content state True) state := by
  have holds := stores.present covered present
  unfold cowReadData
  have small : ¬ 8 * off ≥ cowBlockSize := by
    unfold blockWords at fits
    unfold cowBlockSize
    omega
  rw [if_neg small]
  refine wp_mono (fileRead_spec _ _) ?_ ?_
  · intro words after read
    obtain ⟨⟨rest, leaves, same⟩, value⟩ := read
    subst same
    refine ⟨.of_kept live stores (.of_outcomes live.inv leaves), fun word below => ?_⟩
    rw [value, ← holds.words (off + word) (by omega), ← Nat.add_assoc]
  · intro reason after stop
    obtain ⟨excuse, rest, leaves, same⟩ := stop
    subst same
    refine ⟨⟨.of_same rfl, fun ready none _ => ?_⟩, fun _ _ =>
      .of_kept live stores (.of_outcomes live.inv leaves)⟩
    obtain ⟨file, found, size⟩ := holds.size
    refine excuse.failure live.opened ⟨file, found, ?_⟩ none
    unfold blockWords at fits ⊢
    unfold cowBlockSize at size
    omega

/-- A store whose file was closed: its index is on file as well. -/
structure Shelved (elements : Nat) (content : Nat → Option (Nat → Nat)) (map : Nat → Nat)
    (state : CowState) : Prop where
  rests : Rests elements map state
  blocks : ∀ block, Covered elements block →
    match content block with
    | none => map block = 0
    | some buf => DataAt state.cm state.file (map block) buf

theorem syncAndClose_shelves (live : Live elements state)
    (stores : Stores elements content state) :
    wp cowSyncAndCloseFile (fun _ after => Shelved elements content state.lookup after)
      (fun _ _ => True) state := by
  refine wp_mono (wp_and (syncAndClose_rests live fun _ _ => rfl)
    (cowSyncAndCloseFile_spec live.inv)) ?_ (fun _ _ _ => trivial)
  intro _ after both
  obtain ⟨rests, flushed, rest, kept, _, _, _, _, same⟩ := both
  refine ⟨rests, fun block covered => ?_⟩
  have stored := stores block covered
  cases found : content block with
  | none =>
      rw [found] at stored
      exact stored
  | some buf =>
      rw [found] at stored
      have data : DataAt state.cm state.file (state.lookup block) buf := stored
      subst same
      refine data.of_frame kept.traffic.dataOffset (Nat.le_of_eq kept.traffic.currPos.symm) ?_ ?_
      · intro file present
        obtain ⟨file', present', bigger⟩ := kept.traffic.file.grows file present
        exact ⟨_, congrArg (Option.map _) present', Nat.le_trans bigger (Nat.le_max_left _ _)⟩
      · intro word beyond _
        rw [← kept.traffic.file.fileWord beyond]
        unfold CowState.closed
        cases flushed.file <;> rfl

theorem reopen_stores (shelved : Shelved elements content map state) :
    wp cowReopen (fun _ after => Live elements after ∧ Stores elements content after)
      (fun _ _ => True) state := by
  refine wp_mono (wp_and (reopen_simulates shelved.rests) cowReopen_spec) ?_
    (fun _ _ _ => trivial)
  intro _ after both
  obtain ⟨⟨live, agrees⟩, file, rest, stored, _, _, same⟩ := both
  refine ⟨live, fun block covered => ?_⟩
  have inside := (inRange_iff_covered live).mpr covered
  have value := agrees block inside
  obtain ⟨file', stored', head⟩ := shelved.rests.header
  rw [stored] at stored'
  cases stored'
  have shelf := shelved.blocks block covered
  cases found : content block with
  | none =>
      rw [found] at shelf
      exact value.trans shelf
  | some buf =>
      rw [found] at shelf
      have data : DataAt state.cm state.file (map block) buf := shelf
      change DataAt after.cm after.file (after.lookup block) buf
      rw [value]
      subst same
      refine data.of_frame rfl (Nat.le_of_eq head.symm) ?_ ?_
      · intro old present
        exact ⟨_, congrArg (Option.map _) present, Nat.le_max_left _ _⟩
      · intro word _ _
        unfold CowState.withHeader
        cases state.file <;> rfl

theorem Stores.of_outcomes (stores : Stores elements content state) (outcomes : List Outcome) :
    Stores elements content { state with outcomes } := stores

theorem Shelved.of_outcomes (shelved : Shelved elements content map state)
    (outcomes : List Outcome) : Shelved elements content map { state with outcomes } :=
  ⟨shelved.rests.of_outcomes outcomes, shelved.blocks⟩

theorem Stores.of_cacheSize (stores : Stores elements content state) (cacheSize : Nat) :
    Stores elements content (cowModifyCacheSize cacheSize state).2 := by
  intro block covered
  have stored := stores block covered
  cases found : content block with
  | none =>
      rw [found] at stored
      exact stored
  | some buf =>
      rw [found] at stored
      have holds : Holds state block buf := stored
      exact holds.of_frame rfl rfl (Nat.le_refl _) (fun file same => ⟨file, same, Nat.le_refl _⟩)
        fun _ _ _ => rfl

end Moocbt.Cow
