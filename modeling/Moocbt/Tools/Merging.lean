import Moocbt.Tools.UpdateImg

/-! When a run of `update-img` that reports no error has merged every changed block. -/

namespace Moocbt.Tools

open Cow Program

variable {job : Job} {call : Invocation} {merge : Merge} {block chunk left errno : Nat}

/-- The image with every changed block of the snapshot. -/
def Job.merged (job : Job) (byte : Nat) : Nat :=
  if job.mapping (byte / cowBlockSize) ≠ 0 ∧ byte < job.snapSize then job.snap byte
  else job.image byte

/-- A run that ends with status 0 and no error merged everything, and one that stops early
has another status. -/
def Run.Complete (call : Invocation) (run : Run) : Prop :=
  (run.status = 0 → ∀ count, run.report = some (count, 0) → run.image = call.job.merged) ∧
    (run.report = none → run.status ≠ 0)

/-- The bytes of a block that get to the image, or the error that is counted. -/
def Job.copied (job : Job) (block : Nat) : Except ErrorCode Nat :=
  match (job.reads block).result (min cowBlockSize (job.snapSize - block * cowBlockSize)) with
  | .error error => .error error
  | .ok bytes => if bytes = cowBlockSize then (job.writes block).result cowBlockSize else .ok 0

def Job.arrived (job : Job) (block : Nat) : Nat :=
  match job.copied block with
  | .error _ => 0
  | .ok bytes => bytes

/-- The value of `copy_block`, with the `errno` it starts with. -/
def Job.copyRet (job : Job) (errno block : Nat) : Nat :=
  match job.copied block with
  | .error error => error.value
  | .ok bytes => if bytes = cowBlockSize then 0 else errno

/-- The `errno` that `copy_block` leaves. -/
def Job.copyErrno (job : Job) (errno block : Nat) : Nat :=
  match job.copied block with
  | .error _ => 0
  | .ok bytes => if bytes = cowBlockSize then errno else 0

/-- No changed block before this one was copied in part or failed. -/
def Job.Unbroken (job : Job) (block : Nat) : Prop :=
  ∀ earlier < block, job.mapping earlier ≠ 0 → job.copied earlier = .ok cowBlockSize

/-- `-1` is reported, and a short transfer while `errno` is not zero. -/
def Job.Reported (job : Job) (errno block : Nat) : Prop :=
  (∃ error, job.copied block = .error error) ∨ errno ≠ 0 ∧ job.copied block ≠ .ok cowBlockSize

theorem Merge.write_zero : merge.write job block 0 = merge := by
  simp [Merge.write]

theorem ErrorCode.ne_zero (error : ErrorCode) : error.value ≠ 0 := Nat.pos_iff_ne_zero.mp error.positive

@[simp] theorem wp_transfer {way : Transfer} {available : Nat} {done : Option Nat → Merge → Prop}
    {stopped : Nat → Merge → Prop} :
    wp (transfer way available) done stopped merge ↔
      match way.result available with
      | .ok bytes => done (some bytes) merge
      | .error error => done none { merge with errno := error.value } := by
  unfold transfer
  cases way.result available <;> simp

@[simp] theorem wp_takeErrno {done : Nat → Merge → Prop} {stopped : Nat → Merge → Prop} :
    wp takeErrno done stopped merge ↔ done merge.errno { merge with errno := 0 } := by
  simp [takeErrno]

theorem copyBlock_spec :
    wp (copyBlock job block) (fun ret after => ret = job.copyRet merge.errno block ∧
        after = { merge.write job block (job.arrived block) with
          errno := job.copyErrno merge.errno block })
      (fun _ _ => False) merge := by
  unfold copyBlock Job.copyRet Job.copyErrno Job.arrived Job.copied
  rw [wp_bind, wp_transfer]
  cases read : (job.reads block).result (min cowBlockSize (job.snapSize - block * cowBlockSize)) with
  | error error => simp [Merge.write_zero]
  | ok bytes =>
      by_cases full : bytes = cowBlockSize
      · simp only [full, if_true, wp_bind, wp_transfer]
        cases written : (job.writes block).result cowBlockSize with
        | error error => simp [Merge.write_zero]
        | ok bytes =>
            by_cases full : bytes = cowBlockSize
            · simp [full, Merge.write]
            · simp [full, Merge.write]
      · have zero : ¬ 0 = cowBlockSize := by decide
        simp [full, Merge.write_zero, zero]

/-- What the blocks before one of them leave, with the `errno` the loop starts with. -/
structure Progress (job : Job) (errno block : Nat) (merge : Merge) : Prop where
  intact : job.Unbroken block → merge.errno = errno
  cleared : ¬ job.Unbroken block → merge.errno = 0
  image : ∀ byte, merge.image byte =
    if byte / cowBlockSize < block ∧ job.mapping (byte / cowBlockSize) ≠ 0 ∧
        byte % cowBlockSize < job.arrived (byte / cowBlockSize) then job.snap byte
    else job.image byte
  counted : merge.errCount = 0 ↔
    ∀ earlier < block, job.mapping earlier ≠ 0 → ¬ job.Reported errno earlier

theorem Job.Unbroken.mono {block' : Nat} (unbroken : job.Unbroken block') (le : block ≤ block') :
    job.Unbroken block :=
  fun earlier below => unbroken earlier (by omega)

theorem Job.unbroken_skip (unchanged : job.mapping block = 0) :
    job.Unbroken (block + 1) ↔ job.Unbroken block := by
  constructor
  · exact fun unbroken => unbroken.mono (by omega)
  · intro unbroken earlier below changed
    have other : earlier ≠ block := fun same => changed (same ▸ unchanged)
    exact unbroken earlier (by omega) changed

theorem Job.unbroken_copy (changed : job.mapping block ≠ 0) :
    job.Unbroken (block + 1) ↔ job.Unbroken block ∧ job.copied block = .ok cowBlockSize := by
  constructor
  · intro unbroken
    exact ⟨unbroken.mono (by omega), unbroken block (Nat.lt_succ_self block) changed⟩
  · intro unbroken earlier below differs
    by_cases here : earlier = block
    · exact here ▸ unbroken.2
    · exact unbroken.1 earlier (by omega) differs

theorem Progress.skip (progress : Progress job errno block merge)
    (unchanged : job.mapping block = 0) : Progress job errno (block + 1) merge where
  intact := fun unbroken => progress.intact ((Job.unbroken_skip unchanged).mp unbroken)
  cleared := fun broken =>
    progress.cleared fun unbroken => broken ((Job.unbroken_skip unchanged).mpr unbroken)
  image := by
    intro byte
    rw [progress.image byte]
    by_cases here : byte / cowBlockSize = block
    · simp [here, unchanged]
    · have same : byte / cowBlockSize < block + 1 ↔ byte / cowBlockSize < block := by omega
      simp only [same]
  counted := by
    rw [progress.counted]
    constructor
    · intro counted earlier below changed
      have other : earlier ≠ block := fun same => changed (same ▸ unchanged)
      exact counted earlier (by omega) changed
    · intro counted earlier below
      exact counted earlier (by omega)

/-- `errno` is zero once a block was reported, so a short transfer behind it is not. -/
theorem Progress.copyRet_eq_zero (progress : Progress job errno block merge)
    (none : merge.errCount = 0) :
    job.copyRet merge.errno block = 0 ↔ ¬ job.Reported errno block := by
  have unreported := progress.counted.mp none
  have same : merge.errno = errno := by
    by_cases unbroken : job.Unbroken block
    · exact progress.intact unbroken
    · rw [progress.cleared unbroken]
      apply Classical.byContradiction
      intro set
      refine unbroken fun earlier below changed => Classical.byContradiction fun short => ?_
      exact unreported earlier below changed (.inr ⟨Ne.symm set, short⟩)
  unfold Job.copyRet Job.Reported
  rw [same]
  cases copied : job.copied block with
  | error error => simp [error.ne_zero]
  | ok bytes =>
      by_cases full : bytes = cowBlockSize
      · simp [full]
      · simp [full]

theorem Progress.copy {count : Nat} (progress : Progress job errno block merge)
    (changed : job.mapping block ≠ 0) :
    Progress job errno (block + 1) { merge.write job block (job.arrived block) with
      errno := job.copyErrno merge.errno block
      errCount := if job.copyRet merge.errno block = 0 then merge.errCount else merge.errCount + 1
      count } where
  intact := by
    intro unbroken
    obtain ⟨before, copied⟩ := (Job.unbroken_copy changed).mp unbroken
    have kept : job.copyErrno merge.errno block = merge.errno := by
      unfold Job.copyErrno
      rw [copied]
      exact if_pos rfl
    exact kept.trans (progress.intact before)
  cleared := by
    intro broken
    change job.copyErrno merge.errno block = 0
    unfold Job.copyErrno
    cases copied : job.copied block with
    | error error => rfl
    | ok bytes =>
        by_cases full : bytes = cowBlockSize
        · subst full
          have earlier : ¬ job.Unbroken block := fun before =>
            broken ((Job.unbroken_copy changed).mpr ⟨before, copied⟩)
          exact (if_pos rfl).trans (progress.cleared earlier)
        · exact if_neg full
  image := by
    intro byte
    change (if byte / cowBlockSize = block ∧ byte % cowBlockSize < job.arrived block then
      job.snap byte else merge.image byte) = _
    rw [progress.image byte]
    by_cases here : byte / cowBlockSize = block
    · simp [here, changed]
    · have same : byte / cowBlockSize < block + 1 ↔ byte / cowBlockSize < block := by omega
      simp [here, same]
  counted := by
    dsimp only
    constructor
    · intro none earlier below differs
      split at none
      · rename_i copied
        by_cases here : earlier = block
        · exact here ▸ (progress.copyRet_eq_zero none).mp copied
        · exact progress.counted.mp none earlier (by omega) differs
      · omega
    · intro unreported
      have none := progress.counted.mpr fun earlier below => unreported earlier (by omega)
      have here := unreported block (Nat.lt_succ_self block) changed
      rw [if_pos ((progress.copyRet_eq_zero none).mpr here), none]

theorem copyBlocks_spec (progress : Progress job errno block merge) :
    wp (copyBlocks job left block)
      (fun _ after => Progress job errno (block + left) after ∧ after.blocksDone = merge.blocksDone)
      (fun _ _ => False) merge := by
  induction left generalizing block merge with
  | zero => exact ⟨progress, rfl⟩
  | succ left ih =>
      unfold copyBlocks
      have shift : block + 1 + left = block + (left + 1) := by omega
      rw [← shift]
      by_cases unchanged : job.mapping block = 0
      · rw [if_pos unchanged]
        exact ih (progress.skip unchanged)
      · rw [if_neg unchanged, wp_bind]
        refine wp_mono copyBlock_spec ?_ fun _ _ => id
        intro ret after copied
        obtain ⟨sameRet, sameAfter⟩ := copied
        subst sameRet sameAfter
        rw [wp_bind, wp_update]
        exact ih (progress.copy unchanged)

/-- The blocks of a chunk. -/
def Job.wanted (job : Job) (chunk : Nat) : Nat :=
  min indexBufferSize (job.totalBlocks - indexBufferSize * chunk)

/-- What becomes of the read of a chunk of the index. -/
def Job.indexRead (job : Job) (chunk : Nat) : Except ErrorCode Nat :=
  (job.indexReads chunk).result (job.indexBytes chunk (job.wanted chunk))

def Job.IndexWhole (job : Job) (chunk : Nat) : Prop :=
  job.indexRead chunk = .ok (job.wanted chunk * mappingBytes)

/-- The read of a chunk that is not whole gives a status other than zero: it returned `-1`, or
`errno` has still its code. -/
def Job.IndexReported (job : Job) (errno chunk : Nat) : Prop :=
  (∃ error, job.indexRead chunk = .error error) ∨
    errno ≠ 0 ∧ job.Unbroken (indexBufferSize * chunk)

/-- The chunk the outer loop stops at, with the value `main` returns. -/
def Job.StopsAt (job : Job) (errno chunk ret : Nat) : Prop :=
  chunk < job.totalChunks ∧ (∀ earlier < chunk, job.IndexWhole earlier) ∧
    ¬ job.IndexWhole chunk ∧ (ret % 256 ≠ 0 ↔ job.IndexReported errno chunk)

theorem Job.StopsAt.failed {error : ErrorCode} (reached : chunk < job.totalChunks)
    (whole : ∀ earlier < chunk, job.IndexWhole earlier)
    (read : job.indexRead chunk = .error error) : job.StopsAt errno chunk error.value := by
  refine ⟨reached, whole, fun same => ?_, ?_⟩
  · unfold Job.IndexWhole at same
    rw [read] at same
    contradiction
  · rw [Nat.mod_eq_of_lt error.small]
    exact ⟨fun _ => .inl ⟨error, read⟩, fun _ => error.ne_zero⟩

theorem Job.StopsAt.short {bytes ret : Nat} (reached : chunk < job.totalChunks)
    (whole : ∀ earlier < chunk, job.IndexWhole earlier) (read : job.indexRead chunk = .ok bytes)
    (part : bytes ≠ job.wanted chunk * mappingBytes) (small : ret < 256)
    (left : ret ≠ 0 ↔ errno ≠ 0 ∧ job.Unbroken (indexBufferSize * chunk)) :
    job.StopsAt errno chunk ret := by
  refine ⟨reached, whole, fun same => ?_, ?_⟩
  · unfold Job.IndexWhole at same
    rw [read] at same
    exact part (Except.ok.inj same)
  · rw [Nat.mod_eq_of_lt small, left]
    constructor
    · exact .inr
    · intro reported
      refine reported.resolve_left fun failed => ?_
      obtain ⟨error, failed⟩ := failed
      rw [read] at failed
      contradiction

theorem Progress.errno_lt (progress : Progress job errno block merge) (small : errno < 256) :
    merge.errno < 256 := by
  by_cases unbroken : job.Unbroken block
  · rw [progress.intact unbroken]
    exact small
  · rw [progress.cleared unbroken]
    decide

/-- The `errno` that a short transfer is reported with. -/
theorem Progress.errno_ne_zero (progress : Progress job errno block merge) :
    merge.errno ≠ 0 ↔ errno ≠ 0 ∧ job.Unbroken block := by
  by_cases unbroken : job.Unbroken block
  · rw [progress.intact unbroken]
    exact ⟨fun set => ⟨set, unbroken⟩, fun both => both.1⟩
  · rw [progress.cleared unbroken]
    exact ⟨fun zero => absurd rfl zero, fun both => absurd both.2 unbroken⟩

theorem mergeChunks_spec (small : errno < 256)
    (whole : ∀ earlier < chunk, job.IndexWhole earlier)
    (sum : chunk + left = job.totalChunks)
    (atBlock : merge.blocksDone = min (indexBufferSize * chunk) job.totalBlocks)
    (progress : Progress job errno merge.blocksDone merge) :
    wp (mergeChunks job left chunk)
      (fun _ after => (∀ chunk < job.totalChunks, job.IndexWhole chunk) ∧
        Progress job errno job.totalBlocks after)
      (fun ret _ => ∃ chunk, job.StopsAt errno chunk ret) merge := by
  induction left generalizing chunk merge with
  | zero =>
      have all : job.totalBlocks ≤ indexBufferSize * chunk := by
        have last : chunk = job.totalChunks := sum
        unfold Job.totalChunks at last
        unfold indexBufferSize at last ⊢
        omega
      rw [atBlock, Nat.min_eq_right all] at progress
      exact ⟨fun earlier below => whole earlier (by omega), progress⟩
  | succ left ih =>
      have inside : indexBufferSize * chunk < job.totalBlocks := by
        have last : chunk < job.totalChunks := by omega
        unfold Job.totalChunks at last
        unfold indexBufferSize at last ⊢
        omega
      rw [Nat.min_eq_left (Nat.le_of_lt inside)] at atBlock
      have wanted : min indexBufferSize (job.totalBlocks - merge.blocksDone) = job.wanted chunk := by
        rw [atBlock]
        rfl
      unfold mergeChunks
      rw [wp_bind, wp_read]
      dsimp only
      rw [wanted, wp_bind, wp_transfer]
      change match job.indexRead chunk with
        | .ok bytes => _
        | .error error => _
      have reached : chunk < job.totalChunks := by omega
      cases read : job.indexRead chunk with
      | error error =>
          simp only [reduceCtorEq, if_false, wp_bind, wp_takeErrno, wp_stop]
          exact ⟨chunk, .failed reached whole read⟩
      | ok bytes =>
          rw [atBlock] at progress
          by_cases full : bytes = job.wanted chunk * mappingBytes
          · subst full
            simp only [if_true, wp_bind, wp_update]
            refine wp_mono (copyBlocks_spec progress) ?_ fun _ _ => False.elim
            intro _ after copied
            obtain ⟨progress, same⟩ := copied
            rw [atBlock] at same
            have next : after.blocksDone + job.wanted chunk =
                min (indexBufferSize * (chunk + 1)) job.totalBlocks := by
              rw [same]
              unfold Job.wanted
              rw [Nat.mul_succ]
              omega
            apply ih
            · intro earlier below
              by_cases here : earlier = chunk
              · exact here ▸ read
              · exact whole earlier (by omega)
            · omega
            · exact next
            · dsimp only
              rw [same]
              exact ⟨progress.intact, progress.cleared, progress.image, progress.counted⟩
          · have differ : ¬ some bytes = some (job.wanted chunk * mappingBytes) := fun same =>
              full (Option.some.inj same)
            simp only [differ, if_false, wp_bind, wp_takeErrno, wp_stop]
            exact ⟨chunk, .short reached whole read full (progress.errno_lt small)
              progress.errno_ne_zero⟩

theorem Transfer.result_le {way : Transfer} {available bytes : Nat}
    (result : way.result available = .ok bytes) : bytes ≤ available := by
  cases way with
  | whole => exact Nat.le_of_eq (Except.ok.inj result).symm
  | short limit => exact (Except.ok.inj result) ▸ Nat.min_le_right _ _
  | fails error => contradiction

/-- A block of which a byte arrives is a whole block of the snapshot. -/
theorem Job.arrived_inside {byte : Nat} (arrives : byte % cowBlockSize < job.arrived (byte / cowBlockSize)) :
    byte < job.snapSize := by
  unfold arrived copied at arrives
  cases read : (job.reads (byte / cowBlockSize)).result
      (min cowBlockSize (job.snapSize - byte / cowBlockSize * cowBlockSize)) with
  | error error =>
      rw [read] at arrives
      exact absurd arrives (Nat.not_lt_zero _)
  | ok bytes =>
      rw [read] at arrives
      by_cases full : bytes = cowBlockSize
      · have bound := Transfer.result_le read
        unfold cowBlockSize at full bound
        omega
      · simp [full] at arrives

theorem Job.block_lt {byte : Nat} (inside : byte < job.snapSize) :
    byte / cowBlockSize < job.totalBlocks := by
  unfold totalBlocks cowBlockSize
  omega

/-- An error is counted, or the bytes that short transfers leave out are in the image
already. -/
def Job.Fits (job : Job) (errno : Nat) : Prop :=
  (∃ block < job.totalBlocks, job.mapping block ≠ 0 ∧ job.Reported errno block) ∨
    ∀ byte < job.snapSize, job.mapping (byte / cowBlockSize) ≠ 0 →
      job.arrived (byte / cowBlockSize) ≤ byte % cowBlockSize → job.image byte = job.snap byte

theorem Progress.counts (progress : Progress job errno job.totalBlocks merge) :
    merge.errCount ≠ 0 ↔ ∃ block < job.totalBlocks, job.mapping block ≠ 0 ∧
      job.Reported errno block := by
  rw [Ne, progress.counted]
  constructor
  · intro some
    apply Classical.byContradiction
    intro none
    exact some fun block below changed reported => none ⟨block, below, changed, reported⟩
  · intro found none
    obtain ⟨block, below, changed, reported⟩ := found
    exact none block below changed reported

theorem Progress.image_eq (progress : Progress job errno job.totalBlocks merge) :
    merge.image = job.merged ↔ ∀ byte < job.snapSize, job.mapping (byte / cowBlockSize) ≠ 0 →
      job.arrived (byte / cowBlockSize) ≤ byte % cowBlockSize → job.image byte = job.snap byte := by
  constructor
  · intro same byte inside changed left
    have here := congrFun same byte
    rw [progress.image byte] at here
    unfold Job.merged at here
    rw [if_neg fun arrives => absurd arrives.2.2 (Nat.not_lt.mpr left), if_pos ⟨changed, inside⟩] at here
    exact here
  · intro agrees
    funext byte
    rw [progress.image byte]
    unfold Job.merged
    by_cases changed : job.mapping (byte / cowBlockSize) ≠ 0 ∧ byte < job.snapSize
    · rw [if_pos changed]
      by_cases arrives : byte % cowBlockSize < job.arrived (byte / cowBlockSize)
      · rw [if_pos ⟨Job.block_lt changed.2, changed.1, arrives⟩]
      · rw [if_neg fun copied => arrives copied.2.2]
        exact agrees byte changed.2 changed.1 (Nat.not_lt.mp arrives)
    · rw [if_neg changed, if_neg fun copied => changed ⟨copied.2.1, Job.arrived_inside copied.2.2⟩]

/-- What an answer leaves in `errno`. -/
def Answer.leaves (answer : Answer) (errno : Nat) : Nat :=
  match answer with
  | .ok (some code) => code.value
  | _ => errno

/-- What the calls that open the files leave in `errno` when they succeed. -/
def Invocation.leaves (call : Invocation) : Nat :=
  call.realpath.leaves (call.img.leaves (call.cow.leaves (call.snap.leaves 0)))

/-- The calls up to the look at the path of the snapshot succeed. -/
def Invocation.Opens (call : Invocation) : Prop :=
  call.argc = 4 ∧ call.snap.isOk = true ∧ call.cow.isOk = true ∧ call.img.isOk = true ∧
    call.realpath.isOk = true

def Invocation.headerRead (call : Invocation) : Except ErrorCode Nat :=
  call.header.result (min cowHeaderBytes call.job.cow.size)

/-- `verify_files` accepts: the header follows the one of the device, or it is read in part
and `errno` is zero. -/
def Invocation.Verified (call : Invocation) : Prop :=
  call.infoBuffer = true ∧ ∃ info, call.info = .ok info ∧
    ((call.headerRead = .ok cowHeaderBytes ∧ info.follows call.job.cow.header = true) ∨
      (call.leaves = 0 ∧ ∃ bytes, call.headerRead = .ok bytes ∧ bytes ≠ cowHeaderBytes))

/-- What `main` needs to get to its loop. -/
def Invocation.Ready (call : Invocation) : Prop :=
  call.Opens ∧ call.minor.isSome = true ∧ call.Verified ∧ call.mappings = true

/-- The path names a device of the driver, or the calls before left a code in `errno`. -/
def Invocation.Reports (call : Invocation) : Prop :=
  call.Opens → call.minor.isSome = true ∨ call.leaves ≠ 0

theorem Answer.leaves_lt {answer : Answer} (small : errno < 256) : answer.leaves errno < 256 := by
  cases answer with
  | error error => exact small
  | ok left =>
      cases left with
      | none => exact small
      | some code => exact code.small

theorem Invocation.leaves_lt (call : Invocation) : call.leaves < 256 :=
  Answer.leaves_lt (Answer.leaves_lt (Answer.leaves_lt (Answer.leaves_lt (by decide))))

theorem attempt_spec (answer : Answer) :
    wp (attempt answer)
      (fun _ after =>
        after = { merge with errno := answer.leaves merge.errno } ∧ answer.isOk = true)
      (fun ret _ => ret % 256 ≠ 0 ∧ answer.isOk = false) merge := by
  cases answer with
  | error error =>
      simp only [attempt, wp_bind, wp_update, wp_takeErrno, wp_stop]
      rw [Nat.mod_eq_of_lt error.small]
      exact ⟨error.ne_zero, rfl⟩
  | ok left =>
      cases left with
      | none => exact ⟨rfl, rfl⟩
      | some code => exact ⟨rfl, rfl⟩

theorem verifyFiles_spec (left : merge.errno = call.leaves) :
    wp (verifyFiles call)
      (fun ret after => (ret = 0 ∧ after = merge ∧ call.Verified) ∨
        (ret % 256 ≠ 0 ∧ ¬ call.Verified)) (fun _ _ => False) merge := by
  unfold verifyFiles Invocation.Verified
  by_cases buffer : call.infoBuffer = true
  · rw [if_pos buffer]
    cases answer : call.info with
    | error error =>
        simp only [wp_bind, wp_update, wp_takeErrno]
        rw [Nat.mod_eq_of_lt error.small]
        exact .inr ⟨error.ne_zero, by simp⟩
    | ok info =>
        dsimp only
        rw [wp_bind, wp_transfer]
        change match call.headerRead with
          | .ok bytes => _
          | .error error => _
        cases read : call.headerRead with
        | error error =>
            simp only [reduceCtorEq, if_false, wp_takeErrno]
            rw [Nat.mod_eq_of_lt error.small]
            exact .inr ⟨error.ne_zero, by simp⟩
        | ok bytes =>
            by_cases full : bytes = cowHeaderBytes
            · subst full
              dsimp only
              rw [if_pos rfl]
              by_cases follows : info.follows call.job.cow.header = true
              · rw [if_pos follows]
                exact .inl ⟨rfl, rfl, buffer, info, rfl, .inl ⟨rfl, follows⟩⟩
              · rw [if_neg follows]
                exact .inr ⟨by decide, by simp [follows]⟩
            · simp only [Option.some.injEq, full, if_false, wp_takeErrno]
              by_cases zero : call.leaves = 0
              · have cleared : merge.errno = 0 := left.trans zero
                refine .inl ⟨cleared, ?_, buffer, info, rfl, .inr ⟨zero, bytes, rfl, full⟩⟩
                rw [← cleared]
              · rw [left, Nat.mod_eq_of_lt call.leaves_lt]
                exact .inr ⟨zero, by simp [full, zero]⟩
  · rw [if_neg buffer]
    exact .inr ⟨by decide, fun verified => buffer verified.1⟩

/-- An attempt that stops `main` before it opened everything. -/
theorem attempt_opens {answer : Answer} {rest : Tool Unit}
    {done : Unit → Merge → Prop} (needed : call.Opens → answer.isOk = true)
    (next : answer.isOk = true → wp rest done
      (fun ret _ => ¬ call.Ready ∧ (ret % 256 ≠ 0 ↔ call.Reports))
      { merge with errno := answer.leaves merge.errno }) :
    wp (do attempt answer; rest) done
      (fun ret _ => ¬ call.Ready ∧ (ret % 256 ≠ 0 ↔ call.Reports)) merge := by
  rw [wp_bind]
  refine wp_mono (attempt_spec answer) ?_ ?_
  · intro _ after passed
    rw [passed.1]
    exact next passed.2
  · intro ret _ failed
    have closed : ¬ call.Opens := fun opens => Bool.eq_false_iff.mp failed.2 (needed opens)
    exact ⟨fun ready => closed ready.1, fun _ opens => absurd opens closed, fun _ => failed.1⟩

theorem prepare_spec (clean : merge.errno = 0) :
    wp (prepare call)
      (fun _ after => after = { merge with errno := call.leaves } ∧ call.Ready ∧ call.Reports)
      (fun ret _ => ¬ call.Ready ∧ (ret % 256 ≠ 0 ↔ call.Reports)) merge := by
  unfold prepare
  by_cases usage : call.argc = 4
  · rw [if_pos usage]
    apply attempt_opens fun opens => opens.2.1
    intro snap
    apply attempt_opens fun opens => opens.2.2.1
    intro cow
    apply attempt_opens fun opens => opens.2.2.2.1
    intro img
    apply attempt_opens fun opens => opens.2.2.2.2
    intro realpath
    rw [clean]
    have opens : call.Opens := ⟨usage, snap, cow, img, realpath⟩
    by_cases named : call.minor.isSome = true
    · have reports : call.Reports := fun _ => .inl named
      rw [if_pos named, wp_bind]
      refine wp_mono (verifyFiles_spec rfl) ?_ fun _ _ => False.elim
      intro ret after verified
      rcases verified with ⟨zero, same, verified⟩ | ⟨failed, unverified⟩
      · subst zero same
        rw [if_pos rfl]
        by_cases mappings : call.mappings = true
        · rw [if_pos mappings]
          exact ⟨rfl, ⟨opens, named, verified, mappings⟩, reports⟩
        · rw [if_neg mappings]
          exact ⟨fun ready => mappings ready.2.2.2, fun _ => reports, fun _ => by decide⟩
      · have failing : ret ≠ 0 := fun zero => failed (by rw [zero])
        rw [if_neg failing]
        exact ⟨fun ready => unverified ready.2.2.1, fun _ => reports, fun _ => failed⟩
    · rw [if_neg named, wp_bind, wp_takeErrno, wp_stop]
      refine ⟨fun ready => named ready.2.1, ?_⟩
      change call.leaves % 256 ≠ 0 ↔ call.Reports
      rw [Nat.mod_eq_of_lt call.leaves_lt]
      exact ⟨fun left _ => .inr left, fun reports => (reports opens).resolve_left named⟩
  · rw [if_neg usage]
    have closed : ¬ call.Opens := fun opens => usage opens.1
    exact ⟨fun ready => closed ready.1, fun _ opens => absurd opens closed, fun _ => by decide⟩

/-- The calls before the loop report why they fail, the first read of the index that is not whole
is reported, and what transfers of data leave out is counted or in the image already. -/
def Invocation.Merges (call : Invocation) : Prop :=
  call.Reports ∧ (call.Ready →
    (∀ chunk < call.job.totalChunks, (∀ earlier < chunk, call.job.IndexWhole earlier) →
      ¬ call.job.IndexWhole chunk → call.job.IndexReported call.leaves chunk) ∧
    ((∀ chunk < call.job.totalChunks, call.job.IndexWhole chunk) → call.job.Fits call.leaves))

theorem Progress.start (job : Job) : Progress job errno 0 { Merge.start job with errno } :=
  ⟨fun _ => rfl, fun broken => absurd (fun _ => nofun) broken, by simp [Merge.start],
    by simp [Merge.start]⟩

theorem main_spec (call : Invocation) :
    wp (main call)
      (fun _ after => call.Ready ∧ call.Reports ∧
        (∀ chunk < call.job.totalChunks, call.job.IndexWhole chunk) ∧
        Progress call.job call.leaves call.job.totalBlocks after)
      (fun ret _ => (¬ call.Ready ∧ (ret % 256 ≠ 0 ↔ call.Reports)) ∨
        call.Ready ∧ call.Reports ∧ ∃ chunk, call.job.StopsAt call.leaves chunk ret)
      (.start call.job) := by
  unfold main
  rw [wp_bind]
  refine wp_mono (prepare_spec rfl) ?_ fun _ _ => .inl
  intro _ after prepared
  obtain ⟨same, ready, reports⟩ := prepared
  subst same
  have loop := @mergeChunks_spec call.job { Merge.start call.job with errno := call.leaves } 0
    call.job.totalChunks call.leaves call.leaves_lt (fun _ => nofun) (Nat.zero_add _)
    (by simp [Merge.start]) (Progress.start call.job)
  refine wp_mono loop ?_ fun _ _ stopped => .inr ⟨ready, reports, stopped⟩
  exact fun _ _ done => ⟨ready, reports, done⟩

/-- A run of `update-img` is complete exactly when nothing fails silently. -/
theorem updateImg_complete_iff (call : Invocation) :
    (updateImg call).Complete call ↔ call.Merges := by
  have spec := main_spec call
  unfold updateImg
  unfold wp at spec
  generalize main call (.start call.job) = result at spec
  obtain ⟨answer, merge⟩ := result
  cases answer with
  | ok done =>
      obtain ⟨ready, reports, whole, progress⟩ := spec
      constructor
      · intro complete
        refine ⟨reports, fun _ => ⟨fun chunk below _ broken => ?_, fun _ => ?_⟩⟩
        · exact absurd (whole chunk below) broken
        by_cases counted : merge.errCount = 0
        · have merged := complete.1 rfl merge.count (by rw [← counted]; rfl)
          exact .inr (progress.image_eq.mp merged)
        · exact .inl (progress.counts.mp counted)
      · intro merges
        refine ⟨fun _ count reported => ?_, nofun⟩
        have counted : merge.errCount = 0 := congrArg Prod.snd (Option.some.inj reported)
        have fits := (merges.2 ready).2 whole
        have uncounted := fun found => progress.counts.mpr found counted
        exact progress.image_eq.mpr (fits.resolve_left uncounted)
  | error ret =>
      have complete : (ended (.error ret, merge)).Complete call ↔ ret % 256 ≠ 0 :=
        ⟨fun complete => complete.2 rfl, fun status => ⟨fun zero => absurd zero status, fun _ => status⟩⟩
      rw [complete]
      rcases spec with ⟨unready, silent⟩ | ⟨ready, reports, chunk, below, before, broken, silent⟩
      · rw [silent]
        exact ⟨fun reports => ⟨reports, fun ready => absurd ready unready⟩, fun merges => merges.1⟩
      · rw [silent]
        constructor
        · intro reported
          refine ⟨reports, fun _ => ⟨fun other inside earlier short => ?_, fun whole => ?_⟩⟩
          · -- The loop stops at the first chunk that is not whole.
            rcases Nat.lt_trichotomy other chunk with less | same | more
            · exact absurd (before other less) short
            · exact same ▸ reported
            · exact absurd (earlier chunk more) broken
          · exact absurd (whole chunk below) broken
        · intro merges
          exact (merges.2 ready).1 chunk below before broken

/-- A snapshot of one block and one byte, the last block of which is marked. -/
def partialBlock : Invocation where
  argc := 4
  snap := .ok none
  cow := .ok none
  img := .ok none
  realpath := .ok none
  minor := some 0
  infoBuffer := true
  info := .ok ⟨2, 7#128⟩
  header := .whole
  mappings := true
  job := {
    snap := fun _ => 1
    snapSize := 4097
    cow := ⟨⟨cowMagic, 0#32, 0, 0, 1, 7#128, 1, 1⟩,
      fun word => if word = headerWords + 1 then 1 else 0, 8192⟩
    image := fun _ => 0
    reads := fun _ => .whole
    writes := fun _ => .whole
    indexReads := fun _ => .whole }

/-- Nothing fails, and `update-img` reports that one block was merged without an error. -/
theorem updateImg_complete_iff_partial :
    (updateImg partialBlock).status = 0 ∧ (updateImg partialBlock).report = some (1, 0) ∧
      ¬ (updateImg partialBlock).Complete partialBlock := by
  have ran : (updateImg partialBlock).status = 0 ∧
      (updateImg partialBlock).report = some (1, 0) ∧
      (updateImg partialBlock).image 4096 ≠ partialBlock.job.merged 4096 := by
    decide +kernel
  obtain ⟨status, report, differs⟩ := ran
  exact ⟨status, report, fun complete => differs (congrFun (complete.1 status 1 report) 4096)⟩

end Moocbt.Tools
