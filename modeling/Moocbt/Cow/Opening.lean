import Moocbt.Cow.Lifecycle

/-! Creating, reopening, reloading and truncating the COW file. -/

namespace Moocbt.Cow

open Program

variable {state : CowState}

/-- The file after `filp_open`. -/
def openedFile (create : Bool) (file : Option CowFile) : Option CowFile :=
  if create then some CowFile.empty else file

theorem wrapFile_spec {middle : CowState} {rest : List Outcome} {file : Option CowFile}
    (leaves : Leaves state rest) (manager : middle.cm = state.cm) (outcomes : middle.outcomes = rest)
    (same : middle.file = file) (present : middle.file.isSome = true) :
    wp (do
        match ← nextOutcome with
        | .crashes => .stop .crash
        | .fails _ _ => do
            updateCm fun cm => { cm with dfilp := .errPtr }
            .stop (.errno .enomem)
        | .succeeds => updateCm fun cm => { cm with dfilp := .opened })
      (fun _ after => file.isSome = true ∧ ∃ rest, Leaves state rest ∧
        after = ⟨{ state.cm with dfilp := .opened }, file, rest⟩)
      (fun reason after => reason ≠ .oops ∧
        (after.file = state.file ∨ after.file = file) ∧
        (after.cm = state.cm ∨ after.cm = { state.cm with dfilp := .errPtr }) ∧
        (file.isSome = true → state.outcomes ≠ [])) middle := by
  rw [wp_bind]
  apply wp_nextOutcome
  intro outcome rest' certain' leaves'
  have calm : state.outcomes = [] → outcome = .succeeds ∧ rest' = [] := by
    intro none
    have empty : middle.outcomes = [] := by rw [outcomes, leaves none]
    exact ⟨certain' empty, leaves' empty⟩
  cases outcome with
  | crashes =>
      exact ⟨by simp, .inr same, .inl manager, fun _ none => by simpa using calm none⟩
  | fails error written =>
      exact ⟨by simp, .inr same, .inr (by rw [← manager]), fun _ none => by simpa using calm none⟩
  | succeeds =>
      refine ⟨by rw [← same]; exact present, rest', fun none => (calm none).2, ?_⟩
      rw [← manager, ← same]

theorem openFile_spec (create : Bool) :
    wp (openMoocbtCowFile create)
      (fun _ after => (openedFile create state.file).isSome = true ∧ ∃ rest, Leaves state rest ∧
        after = ⟨{ state.cm with dfilp := .opened }, openedFile create state.file, rest⟩)
      (fun reason after => reason ≠ .oops ∧
        (after.file = state.file ∨ after.file = openedFile create state.file) ∧
        (after.cm = state.cm ∨ after.cm = { state.cm with dfilp := .errPtr }) ∧
        ((openedFile create state.file).isSome = true → state.outcomes ≠ [])) state := by
  unfold openMoocbtCowFile
  rw [wp_bind]
  apply wp_nextOutcome
  intro outcome rest certain leaves
  cases outcome with
  | crashes => exact ⟨by simp, .inl rfl, .inl rfl, fun _ none => by simpa using certain none⟩
  | fails error written =>
      exact ⟨by simp, .inl rfl, .inl rfl, fun _ none => by simpa using certain none⟩
  | succeeds =>
      simp only [wp_bind, wp_read]
      rw [wp_ite]
      cases create with
      | true =>
          rw [if_pos rfl]
          exact @wrapFile_spec _ ⟨state.cm, some CowFile.empty, rest⟩ _ _ leaves rfl rfl rfl rfl
      | false =>
          rw [if_neg (by simp), wp_ite]
          split
          · rename_i present
            exact @wrapFile_spec _ ⟨state.cm, state.file, rest⟩ _ _ leaves rfl rfl rfl present
          · rename_i missing
            exact ⟨by simp, .inl rfl, .inl rfl, fun present => absurd present missing⟩

/-- The manager with the file opened and its header taken over. -/
def CowManager.reopened (cm : CowManager) (ch : CowHeader) : CowManager :=
  CowManager.restore { cm with dfilp := .opened } ch false

def CowManager.shut (cm : CowManager) : CowManager := { cm with dfilp := .null }

/-- The manager a failed reopen leaves: the old one, or one that took over an
acceptable header it could not make dirty on file. -/
def NotReopened (before : CowState) (cm : CowManager) : Prop :=
  cm = before.cm.shut ∨ ∃ file, before.file = some file ∧
    Acceptable file.header (hasFlag before.cm.flags cowIndexOnly) ∧
    cm = ((before.cm.reopened file.header).withClean false).shut

theorem cowReopen_spec :
    wp cowReopen
      (fun _ after => ∃ file rest, state.file = some file ∧
        Acceptable file.header (hasFlag state.cm.flags cowIndexOnly) ∧ Leaves state rest ∧
        after = CowState.withHeader ⟨state.cm.reopened file.header, state.file, []⟩ false rest)
      (fun reason after => after.file = state.file ∧
        ∀ error, reason = .errno error → NotReopened state after.cm) state := by
  have close : ∀ {middle : CowState} {error : Errno}, middle.file = state.file →
      NotReopened state middle.cm.shut →
      wp closeAndDestroyMoocbtCowFile
        (fun _ after => after.file = state.file ∧
          ∀ error', Stop.errno error = .errno error' → NotReopened state after.cm)
        (fun reason after => after.file = state.file ∧
          ∀ error', reason = .errno error' → NotReopened state after.cm) middle := by
    intro middle error file manager
    refine wp_mono closeFile_spec ?_ ?_
    · rintro _ _ rfl
      exact ⟨file, fun _ _ => manager⟩
    · rintro _ _ ⟨rfl, _, rfl⟩
      exact ⟨file, by simp⟩
  unfold cowReopen
  rw [wp_onErrno, wp_bind]
  refine wp_mono (openFile_spec false) ?_ ?_
  · rintro _ _ ⟨_, rest, leaves, rfl⟩
    rw [wp_bind, wp_getCm]
    refine wp_mono (cowOpenHeader_spec _ false) ?_ ?_
    · rintro _ _ ⟨_, file, stored, good, rest', leaves', rfl⟩
      exact ⟨file, rest', stored, good, fun none => leaves' (leaves none), rfl⟩
    · rintro reason middle ⟨same, _, _, manager⟩
      have file : middle.file = state.file := same
      have left : NotReopened state middle.cm.shut := by
        rcases manager with old | ⟨file', stored, good, new⟩
        · left
          rw [old]
          rfl
        · right
          refine ⟨file', stored, good, ?_⟩
          rw [new]
          rfl
      cases reason with
      | errno error => exact close file left
      | oops => exact ⟨file, by simp⟩
      | crash => exact ⟨file, by simp⟩
  · rintro reason middle ⟨_, file, manager, _⟩
    have same : middle.file = state.file := by
      rcases file with same | same <;> exact same
    cases reason with
    | errno error =>
        refine close same (.inl ?_)
        rcases manager with old | bad
        · rw [old]
        · rw [bad]
          rfl
    | oops => exact ⟨same, by simp⟩
    | crash => exact ⟨same, by simp⟩

theorem cowAllocSects_spec (hasData : Bool) :
    wp (cowAllocSects hasData)
      (fun _ after => ∃ flags rest, Leaves state rest ∧
        (∀ bit, bit < 32 → bit ≠ cowVmallocUpper →
          hasFlag flags bit = hasFlag state.cm.flags bit) ∧
        after = ⟨{ state.cm with flags, sects := some fun _ => ⟨hasData, 0, none⟩ },
          state.file, rest⟩)
      (fun reason after => reason ≠ .oops ∧ state.outcomes ≠ [] ∧ after.file = state.file ∧
        after.cm.dfilp = state.cm.dfilp) state := by
  unfold cowAllocSects
  rw [wp_bind, wp_handle]
  apply wp_allocate
  · intro rest leaves
    rw [wp_updateCm]
    exact ⟨state.cm.flags, rest, leaves, fun _ _ _ => rfl, rfl⟩
  · intro reason rest valid failure
    cases reason with
    | errno error =>
        simp only
        rw [wp_bind, wp_updateCm]
        apply wp_allocate
        · intro rest' _
          rw [wp_updateCm]
          refine ⟨_, rest', .of_failure failure rest', ?_, rfl⟩
          intro bit small apart
          exact hasFlag_setFlag_of_ne _ small apart
        · intro reason' rest' valid' _
          exact ⟨valid', failure, rfl, rfl⟩
    | oops => exact absurd rfl valid
    | crash => exact ⟨by simp, failure, rfl, rfl⟩

/-- The manager `cow_reload` has before it reads the header. -/
def reloadManager (elements sectSize cacheSize : Nat) : CowManager :=
  CowManager.layOut { CowManager.zero with dfilp := .opened } elements sectSize cacheSize

def reloaded (elements sectSize cacheSize : Nat) (ch : CowHeader) : CowManager :=
  ((reloadManager elements sectSize cacheSize).restore ch true).withClean false

theorem cowAllocManager_spec :
    wp cowAllocManager
      (fun _ after => ∃ rest, Leaves state rest ∧ after = ⟨CowManager.zero, state.file, rest⟩)
      (fun _ after => after.file = state.file ∧ state.outcomes ≠ []) state := by
  unfold cowAllocManager
  rw [wp_bind, wp_onErrno]
  apply wp_allocate
  · intro rest leaves
    exact ⟨rest, leaves, rfl⟩
  · intro reason rest valid failure
    cases reason <;> exact ⟨rfl, failure⟩

/-- What a failed reload leaves of the file: all of it, or a dirty header. -/
structure NotReloaded (before : CowState) (header : CowHeader → CowHeader) (indexOnly : Bool)
    (file' : Option CowFile) : Prop where
  file : file' = before.file ∨ ∃ file, before.file = some file ∧
    file' = some (file.writeHeader (header file.header))
  failure : (∃ file, before.file = some file ∧ cowHeaderBytes ≤ file.size ∧
    Acceptable file.header indexOnly) → before.outcomes ≠ []

/-- Reloading takes the header over, makes it dirty and marks every section as
on file. -/
theorem cowReload_spec (elements sectSize cacheSize : Nat) (indexOnly : Bool) :
    wp (cowReload elements sectSize cacheSize indexOnly)
      (fun _ after => ∃ file flags rest, state.file = some file ∧
        Acceptable file.header indexOnly ∧ Leaves state rest ∧
        (∀ bit, bit < 32 → bit ≠ cowVmallocUpper → hasFlag flags bit =
          hasFlag (reloaded elements sectSize cacheSize file.header).flags bit) ∧
        after = ⟨{ reloaded elements sectSize cacheSize file.header with
            flags, sects := some fun _ => ⟨true, 0, none⟩ },
          some (file.writeHeader (reloaded elements sectSize cacheSize file.header).header),
          rest⟩)
      (fun _ after => NotReloaded state
        (fun ch => (reloaded elements sectSize cacheSize ch).header) indexOnly after.file)
      state := by
  have close : ∀ {middle : CowState},
      NotReloaded state (fun ch => (reloaded elements sectSize cacheSize ch).header) indexOnly
        middle.file →
      wp closeAndDestroyMoocbtCowFile
        (fun _ after => NotReloaded state
          (fun ch => (reloaded elements sectSize cacheSize ch).header) indexOnly after.file)
        (fun _ after => NotReloaded state
          (fun ch => (reloaded elements sectSize cacheSize ch).header) indexOnly after.file)
        middle := by
    intro middle left
    refine wp_mono closeFile_spec ?_ ?_
    · rintro _ _ rfl
      exact left
    · rintro _ _ ⟨_, _, rfl⟩
      exact left
  unfold cowReload
  rw [wp_bind]
  refine wp_mono cowAllocManager_spec ?_ ?_
  · rintro _ _ ⟨rest, leaves, rfl⟩
    rw [wp_onErrno, wp_bind]
    refine wp_mono (openFile_spec false) ?_ ?_
    · rintro _ _ ⟨present, rest', leaves', rfl⟩
      have calm : Leaves state rest' := fun none => leaves' (leaves none)
      rw [wp_bind, wp_updateCm, wp_bind]
      refine wp_mono (cowOpenHeader_spec indexOnly true) ?_ ?_
      · rintro _ _ ⟨_, file, stored, good, rest'', leaves'', rfl⟩
        have found : state.file = some file := stored
        have opened : openedFile false state.file = some file := stored
        refine wp_mono (cowAllocSects_spec true) ?_ ?_
        · rintro _ _ ⟨flags, rest''', leaves''', same, rfl⟩
          refine ⟨file, flags, rest''', found, good,
            fun none => leaves''' (leaves'' (calm none)), same, ?_⟩
          simp only [CowState.withHeader, opened, Option.map_some]
          rfl
        · rintro reason after ⟨_, failure, same, _⟩
          have left : NotReloaded state
              (fun ch => (reloaded elements sectSize cacheSize ch).header) indexOnly
              after.file := by
            refine ⟨.inr ⟨file, found, ?_⟩, fun _ none => failure (leaves'' (calm none))⟩
            rw [same]
            simp only [CowState.withHeader, opened, Option.map_some]
            rfl
          cases reason with
          | errno error => exact close left
          | oops => exact left
          | crash => exact left
      · rintro reason after ⟨same, _, excuse, _⟩
        have left : NotReloaded state
            (fun ch => (reloaded elements sectSize cacheSize ch).header) indexOnly
            after.file := by
          refine ⟨.inl same, ?_⟩
          rintro ⟨file, found, large, good⟩ none
          rcases excuse with stop | ⟨file', found', bad⟩
          · exact stop.failure rfl ⟨file, found, large⟩ (calm none)
          · have same' : state.file = some file' := found'
            rw [found] at same'
            cases same'
            exact bad good
        cases reason with
        | errno error => exact close left
        | oops => exact left
        | crash => exact left
    · rintro reason after ⟨_, file, _, failure⟩
      have left : NotReloaded state
          (fun ch => (reloaded elements sectSize cacheSize ch).header) indexOnly after.file := by
        refine ⟨.inl (by rcases file with same | same <;> exact same), ?_⟩
        rintro ⟨file, found, _, _⟩ none
        refine failure ?_ (leaves none)
        simp only [openedFile, found]
        rfl
      cases reason with
      | errno error => exact close left
      | oops => exact left
      | crash => exact left
  · rintro reason after ⟨same, failure⟩
    exact ⟨.inl same, fun _ => failure⟩

/-- A file as `cow_init` prepares it: no index, no data and no clean header. -/
structure BlankFile (file : CowFile) : Prop where
  words : ∀ word, file.words word = 0
  dirty : hasFlag file.header.flags cowClean = false

theorem BlankFile.empty : BlankFile CowFile.empty := ⟨fun _ => rfl, rfl⟩

theorem BlankFile.writeZeros {file : CowFile} (blank : BlankFile file) (start count : Nat) :
    BlankFile (file.writeWords start count fun _ => 0) := by
  refine ⟨?_, blank.dirty⟩
  intro word
  simp only [CowFile.writeWords]
  split
  · rfl
  · exact blank.words word

/-- `after` has the manager of `before` and a blank file of `size` bytes or more. -/
def Prepared (before : CowState) (size : Nat) (after : CowState) : Prop :=
  after.cm = before.cm ∧ ∃ file, after.file = some file ∧ BlankFile file ∧ size ≤ file.size

theorem Prepared.weaken {before after : CowState} {size smaller : Nat}
    (prepared : Prepared before size after) (le : smaller ≤ size) :
    Prepared before smaller after := by
  obtain ⟨manager, file, stored, blank, enough⟩ := prepared
  exact ⟨manager, file, stored, blank, Nat.le_trans le enough⟩

variable {start : CowState} {size : Nat}

/-- How the preparation of a file stops: blank still, and only for a failure. -/
def PrepareStopped (start before : CowState) (reason : Stop) (after : CowState) : Prop :=
  reason ≠ .oops ∧ Prepared start 0 after ∧ before.outcomes ≠ []

theorem writeZeroPage_spec (page : Nat) (opened : state.cm.dfilp = .opened)
    (prepared : Prepared start size state) :
    wp (writeZeroPage page)
      (fun _ after => Prepared start (max size (pageSize * (page + 1))) after ∧
        (state.outcomes = [] → after.outcomes = []))
      (PrepareStopped start state) state := by
  obtain ⟨manager, file, stored, blank, enough⟩ := prepared
  unfold writeZeroPage
  rw [wp_bind]
  refine wp_mono (fileWrite_spec _ _ _) ?_ ?_
  · rintro _ _ ⟨_, _, rest, leaves, rfl⟩
    have written := blank.writeZeros (page * blockWords) blockWords
    have large : max size (pageSize * (page + 1)) ≤
        (file.writeWords (page * blockWords) blockWords fun _ => 0).size := by
      simp only [CowFile.writeWords, blockWords, pageSize, OfNat.ofNat_ne_zero, if_false]
      omega
    rw [wp_ite]
    split
    · exact ⟨⟨manager, { file.writeWords _ _ _ with header := CowHeader.zero },
        by rw [stored]; rfl, ⟨written.words, BlankFile.empty.dirty⟩, large⟩, leaves⟩
    · exact ⟨⟨manager, _, by rw [stored]; rfl, written, large⟩, leaves⟩
  · rintro reason after ⟨excuse, effect⟩
    have failure : state.outcomes ≠ [] := excuse.failure opened ⟨file, stored, Nat.zero_le _⟩
    have valid : reason ≠ .oops := fun oops => by
      have bad := excuse.invalid oops
      rw [opened] at bad
      contradiction
    refine ⟨valid, ?_, failure⟩
    rcases effect with ⟨rest, _, rfl⟩ | ⟨_, written, rest, _, rfl⟩
    · exact ⟨manager, file, stored, blank, Nat.zero_le _⟩
    · exact ⟨manager, _, by rw [stored]; rfl, blank.writeZeros _ _, Nat.zero_le _⟩

theorem writeZeroPages_spec (count page : Nat) (opened : start.cm.dfilp = .opened)
    (prepared : Prepared start size state) :
    wp (writeZeroPages count page)
      (fun _ after => Prepared start (if count = 0 then size else pageSize * (page + count)) after ∧
        (state.outcomes = [] → after.outcomes = []))
      (PrepareStopped start state) state := by
  induction count generalizing state size page with
  | zero => exact ⟨prepared, id⟩
  | succ count ih =>
      have opened' : state.cm.dfilp = .opened := by rw [prepared.1, opened]
      unfold writeZeroPages
      rw [wp_bind]
      refine wp_mono (writeZeroPage_spec page opened' prepared) ?_ (fun _ _ => id)
      rintro _ middle ⟨written, calm⟩
      refine wp_mono (ih (page + 1) (written.weaken (Nat.le_max_right _ _))) ?_ ?_
      · rintro _ after ⟨last, calm'⟩
        refine ⟨last.weaken ?_, fun none => calm' (calm none)⟩
        simp only [Nat.succ_ne_zero, if_false]
        split
        · rename_i zero
          subst zero
          exact Nat.le_refl _
        · rw [Nat.add_right_comm, Nat.add_assoc]
      · rintro reason after ⟨valid, last, failure⟩
        exact ⟨valid, last, fun none => failure (calm none)⟩

/-- The pages of zeros cover the length. -/
theorem numSegments_cover (length : Nat) :
    length ≤ pageSize * numSegments length pageShift := by
  unfold numSegments pageSize pageShift
  omega

theorem fileAllocate_spec (length : Nat) (opened : state.cm.dfilp = .opened)
    (prepared : Prepared state 0 state) :
    wp (fileAllocate length)
      (fun _ after => Prepared state length after ∧ (state.outcomes = [] → after.outcomes = []))
      (PrepareStopped state state) state := by
  obtain ⟨_, file, stored, blank, _⟩ := prepared
  unfold fileAllocate tryRealFallocate
  rw [wp_handle, wp_bind, wp_getCm, opened]
  simp only [wp_bind]
  apply wp_nextOutcome
  intro outcome rest certain leaves
  cases outcome with
  | crashes =>
      refine ⟨by simp, ⟨rfl, file, stored, blank, Nat.zero_le _⟩, fun none => ?_⟩
      simpa using certain none
  | fails error written =>
      have failure : state.outcomes ≠ [] := fun none => by simpa using certain none
      have stop : ∀ reason, reason ≠ .oops → ∀ rest,
          PrepareStopped state state reason { state with outcomes := rest } :=
        fun reason valid rest => ⟨valid, ⟨rfl, file, stored, blank, Nat.zero_le _⟩, failure⟩
      cases error with
      | eopnotsupp =>
          simp only [wp_stop, wp_bind]
          apply wp_allocate
          · intro rest' _
            have still : Prepared state 0 { state with outcomes := rest' } :=
              ⟨rfl, file, stored, blank, Nat.zero_le _⟩
            refine wp_mono (writeZeroPages_spec _ 0 opened still) ?_ ?_
            · rintro _ after ⟨last, _⟩
              refine ⟨last.weaken ?_, fun none => absurd none failure⟩
              have cover := numSegments_cover length
              split
              · rename_i zero
                rw [zero] at cover
                simpa using cover
              · rw [Nat.zero_add]
                exact cover
            · rintro reason after ⟨valid, last, _⟩
              exact ⟨valid, last, failure⟩
          · intro reason rest' valid _
            exact stop reason valid rest'
      | enomem => exact stop (.errno .enomem) (by simp) rest
      | einval => exact stop (.errno .einval) (by simp) rest
      | eio => exact stop (.errno .eio) (by simp) rest
      | efbig => exact stop (.errno .efbig) (by simp) rest
      | enoent => exact stop (.errno .enoent) (by simp) rest
      | other code => exact stop (.errno (.other code)) (by simp) rest
  | succeeds =>
      refine ⟨⟨rfl, file.extend length, ?_, ⟨blank.words, blank.dirty⟩, ?_⟩, leaves⟩
      · simp only [stored, Option.map_some]
      · exact Nat.le_max_right _ _

/-- The file has no clean header. -/
def Dirty (file : Option CowFile) : Prop :=
  ∀ found, file = some found → hasFlag found.header.flags cowClean = false

theorem CowManager.header_dirty (cm : CowManager) :
    hasFlag (cm.withClean false).header.flags cowClean = false :=
  hasFlag_clearFlag _ (by decide)

/-- The manager `cow_init` has when it allocates the sections. -/
def initManager (elements sectSize cacheSize fileMax : Nat) (uuid : BitVec 128) (seqid : Nat) :
    CowManager :=
  let cm := reloadManager elements sectSize cacheSize
  { cm with
    version := cowVersionChangedBlocks
    nrChangedBlocks := 0
    flags := 0#32
    fileSize := fileMax
    seqid
    currPos := cm.dataOffset / cowBlockSize
    uuid }

theorem initManager_head (elements cacheSize fileMax : Nat) (uuid : BitVec 128) (seqid : Nat) :
    HeadPastIndex (initManager elements cowSectionSize cacheSize fileMax uuid seqid) := by
  have multiple : cowBlockSize ∣
      (initManager elements cowSectionSize cacheSize fileMax uuid seqid).dataOffset := by
    refine Nat.dvd_add (by decide) (Dvd.dvd.mul_left ?_ _)
    decide
  exact Nat.le_of_eq (Nat.div_mul_cancel multiple).symm

/-- What a failed `cow_init` leaves: the file it found, or one without a clean
header, or none. -/
def NotCreated (before after : CowState) : Prop :=
  (after.file = before.file ∨ Dirty after.file) ∧ before.outcomes ≠ []

theorem initCleanup_spec {before : CowState} (left : NotCreated before state) :
    wp (do
        let cm ← getCm
        when (cm.dfilp ≠ .null) do
          fileUnlink
          closeAndDestroyMoocbtCowFile)
      (fun _ after => NotCreated before after) (fun _ after => NotCreated before after) state := by
  rw [wp_bind, wp_getCm, wp_when]
  split
  · rw [wp_bind]
    refine wp_mono fileUnlink_spec ?_ ?_
    · rintro _ middle ⟨_, _, file⟩
      have unlinked : NotCreated before middle := by
        rcases file with same | gone
        · unfold NotCreated
          rw [same]
          exact left
        · refine ⟨.inr ?_, left.2⟩
          intro found same
          rw [gone] at same
          contradiction
      refine wp_mono closeFile_spec ?_ ?_
      · rintro _ _ rfl
        exact unlinked
      · rintro _ _ ⟨_, _, rfl⟩
        exact unlinked
    · rintro reason after ⟨same, _⟩
      unfold NotCreated
      rw [same]
      exact left
  · exact left

/-- A created COW file is blank, with a dirty header and no section in memory. -/
theorem cowInit_spec (elements sectSize cacheSize fileMax : Nat) (uuid : BitVec 128)
    (seqid : Nat) :
    wp (cowInit elements sectSize cacheSize fileMax uuid seqid)
      (fun _ after => ∃ file flags rest, Leaves state rest ∧ BlankFile file ∧
        fileMax ≤ file.size ∧
        (∀ bit, bit < 32 → bit ≠ cowVmallocUpper → hasFlag flags bit = false) ∧
        after = CowState.withHeader
          ⟨{ initManager elements sectSize cacheSize fileMax uuid seqid with
              flags, sects := some fun _ => ⟨false, 0, none⟩ }, some file, []⟩ false rest)
      (fun _ after => NotCreated state after) state := by
  unfold cowInit
  rw [wp_bind]
  refine wp_mono cowAllocManager_spec ?_ ?_
  · rintro _ _ ⟨rest, leaves, rfl⟩
    rw [wp_onErrno, wp_bind]
    refine wp_mono (openFile_spec true) ?_ ?_
    · rintro _ _ ⟨_, rest', leaves', rfl⟩
      have calm : Leaves state rest' := fun none => leaves' (leaves none)
      rw [wp_bind, wp_updateCm, wp_bind]
      refine wp_mono (cowAllocSects_spec false) ?_ ?_
      · rintro _ _ ⟨flags, rest'', leaves'', same, rfl⟩
        rw [wp_bind]
        refine wp_mono (fileAllocate_spec fileMax rfl
          ⟨rfl, CowFile.empty, rfl, .empty, Nat.zero_le _⟩) ?_ ?_
        · rintro _ middle ⟨⟨manager, file, stored, blank, enough⟩, calm'⟩
          refine wp_mono (cowWriteHeader_spec false) ?_ ?_
          · rintro _ _ ⟨_, _, rest''', leaves''', rfl⟩
            refine ⟨file, flags, rest''', fun none => leaves''' (calm' (leaves'' (calm none))),
              blank, enough, ?_, ?_⟩
            · intro bit small apart
              rw [same bit small apart]
              simp [hasFlag]
            · unfold CowState.withHeader
              rw [manager, stored]
              rfl
          · rintro reason _ ⟨excuse, rest''', _, rfl⟩
            refine onErrno_keeps initCleanup_spec ⟨.inr ?_, ?_⟩
            · intro found same'
              rw [stored] at same'
              cases same'
              exact blank.dirty
            · intro none
              refine excuse.failure ?_ ⟨file, stored, Nat.zero_le _⟩ (calm' (leaves'' (calm none)))
              rw [manager]
              rfl
        · rintro reason middle ⟨_, ⟨_, file, stored, blank, _⟩, failure⟩
          refine onErrno_keeps initCleanup_spec ⟨.inr ?_, fun none => failure (leaves'' (calm none))⟩
          intro found same'
          rw [stored] at same'
          cases same'
          exact blank.dirty
      · rintro reason after ⟨_, failure, same, _⟩
        refine onErrno_keeps initCleanup_spec ⟨.inr ?_, fun none => failure (calm none)⟩
        intro found same'
        rw [same] at same'
        cases same'
        rfl
    · rintro reason after ⟨_, file, _, failure⟩
      refine onErrno_keeps initCleanup_spec ⟨?_, fun none => failure rfl (leaves none)⟩
      rcases file with same | same
      · exact .inl same
      · right
        intro found same'
        rw [same] at same'
        cases same'
        rfl
  · rintro reason after ⟨same, failure⟩
    exact ⟨.inl same, failure⟩

/-- The manager after `cow_truncate_to_index`; the mode changes even on an error. -/
def CowManager.indexOnly (cm : CowManager) : CowManager :=
  { cm with flags := setFlag cm.flags cowIndexOnly }

theorem cowTruncateToIndex_spec :
    wp cowTruncateToIndex
      (fun _ after => state.cm.dfilp = .opened ∧ ∃ rest, Leaves state rest ∧
        after = ⟨{ state.cm.indexOnly with fileSize := state.cm.dataOffset },
          state.file.map (·.truncate state.cm.dataOffset), rest⟩)
      (fun reason after => (reason = .oops → state.cm.dfilp ≠ .opened) ∧
        (state.cm.dfilp = .opened → state.outcomes ≠ []) ∧
        ∃ rest, Leaves state rest ∧ after = ⟨state.cm.indexOnly, state.file, rest⟩) state := by
  unfold cowTruncateToIndex fileTruncate
  rw [wp_bind, wp_updateCm, wp_bind, wp_getCm, wp_bind, wp_bind, wp_getCm]
  cases handle : state.cm.dfilp with
  | null => exact ⟨fun _ => by simp, by simp, state.outcomes, id, by simp [CowManager.indexOnly, handle]⟩
  | errPtr => exact ⟨fun _ => by simp, by simp, state.outcomes, id, by simp [CowManager.indexOnly, handle]⟩
  | opened =>
      simp only [wp_bind]
      apply wp_nextOutcome
      intro outcome rest certain leaves
      cases outcome with
      | crashes =>
          refine ⟨by simp, fun _ none => ?_, rest, leaves, by simp [CowManager.indexOnly, handle]⟩
          simpa using certain none
      | fails error written =>
          refine ⟨by simp, fun _ none => ?_, rest, leaves, by simp [CowManager.indexOnly, handle]⟩
          simpa using certain none
      | succeeds => exact ⟨trivial, rest, leaves, by simp [CowManager.indexOnly, handle]⟩

/-- The index survives the truncation. -/
theorem fileWord_of_truncate {cm : CowManager} {file : Option CowFile} (inv : CowInv cm file)
    {pos : Nat} (inside : cm.InRange pos) :
    fileWord (file.map (·.truncate cm.dataOffset)) (headerWords + pos) =
      fileWord file (headerWords + pos) := by
  have below : 8 * (headerWords + pos) < cm.dataOffset := by
    by_contra beyond
    have apart := inv.data_word inside (Nat.le_of_not_lt beyond)
    omega
  cases file with
  | none => rfl
  | some file => simp only [Option.map_some, fileWord, CowFile.truncate, if_pos below]

theorem CowInv.of_truncate {cm cm' : CowManager} {file : Option CowFile} (inv : CowInv cm file)
    (same : cm' = { cm.indexOnly with fileSize := cm.dataOffset }) :
    CowInv cm' (file.map (·.truncate cm.dataOffset)) := by
  subst same
  refine ⟨inv.positive, inv.aligned, inv.offset, ?_⟩
  intro sects idx found bounded empty
  have old := inv.blank sects idx found bounded empty
  refine ⟨old.uncached, ?_, old.head⟩
  intro pos located
  have inside : cm.InRange pos := by
    unfold CowManager.InRange
    rw [show pos / cm.sectSize = idx from located]
    exact bounded
  rw [fileWord_of_truncate inv inside]
  exact old.zero pos located

end Moocbt.Cow
