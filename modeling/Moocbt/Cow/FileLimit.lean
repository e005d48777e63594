import Moocbt.Cow.ChangeCount
import Moocbt.Cow.Creating
import Moocbt.Cow.DataArea

/-! The limit of the COW file: where the data of captured blocks is written, for as long as
`__cow_write_data` accepts it. -/

namespace Moocbt.Cow

open Program Transition

variable {elements block fileMax : Nat} {state after : CowState} {buf : Nat → Nat}

/-- `cow_write_current` up to the write of the data, if it comes to that. -/
def cowMapCurrent (block : Nat) : CowM Bool := do
  let blockMapping ← cowReadMapping block
  if blockMapping ≠ 0 then pure false
  else do
    let cm ← getCm
    cowWriteMapping block cm.currPos
    pure true

theorem cowWriteCurrent_maps (block : Nat) (buf : Nat → Nat) :
    cowWriteCurrent block buf = cowMapCurrent block >>= fun absent => when absent (cowWriteData buf) := by
  unfold cowWriteCurrent cowMapCurrent
  rw [bind_assoc]
  congr 1
  funext blockMapping
  by_cases mapped : blockMapping ≠ 0
  · rw [if_pos mapped, if_pos mapped]
    rfl
  · rw [if_neg mapped, if_neg mapped, bind_assoc]
    simp only [bind_assoc]
    rfl

/-- The offset `__cow_write_data` passes to `file_write`, unless it refuses the block. -/
def CowState.dataWrite (state : CowState) : Option Nat :=
  if state.cm.currPos * cowBlockSize ≥ state.cm.fileSize then none
  else some (state.cm.currPos * cowBlockSize)

theorem cowWriteData_eq (buf : Nat → Nat) (state : CowState) :
    cowWriteData buf state =
      match state.dataWrite with
      | none => (.error (.errno .efbig), state)
      | some offset =>
          (do
            fileWrite (offset / 8) blockWords buf
            updateCm fun cm => { cm with currPos := cm.currPos + 1 }) state := by
  have words : state.cm.currPos * cowBlockSize / 8 = state.cm.currPos * blockWords := by
    unfold cowBlockSize blockWords
    omega
  unfold CowState.dataWrite
  by_cases full : state.cm.currPos * cowBlockSize ≥ state.cm.fileSize
  · rw [if_pos full]
    change (if state.cm.currPos * cowBlockSize ≥ state.cm.fileSize then
      (Program.stop (.errno .efbig) : CowM Unit) else _) state = _
    rw [if_pos full]
    rfl
  · rw [if_neg full]
    change (if state.cm.currPos * cowBlockSize ≥ state.cm.fileSize then
      (Program.stop (.errno .efbig) : CowM Unit) else _) state = _
    rw [if_neg full]
    simp only [words]

/-- A call of `cow_write_current` with what becomes of its file operations. -/
structure Capture where
  block : Nat
  buf : Nat → Nat
  outcomes : List Outcome

/-- The state behind a call that returned, with an error or without. -/
def captureStep (state : CowState) (capture : Capture) : Option CowState :=
  match cowWriteCurrent capture.block capture.buf { state with outcomes := capture.outcomes } with
  | (.ok _, after) => some after
  | (.error (.errno _), after) => some after
  | (.error _, _) => none

/-- A write of data at this point stays within the limit, and is refused only if no whole
block fits there. -/
structure WithinLimit (state : CowState) : Prop where
  inside : ∀ offset, state.dataWrite = some offset →
    state.cm.dataOffset ≤ offset ∧ offset + cowBlockSize ≤ state.cm.fileSize
  full : state.dataWrite = none →
    state.cm.fileSize < state.cm.currPos * cowBlockSize + cowBlockSize

/-- In every run of calls, each data is written within the limit. -/
def KeepsLimit (created : CowState) : Prop :=
  ∀ state, Reachable captureStep created state → ∀ block outcomes middle,
    cowMapCurrent block { state with outcomes } = (.ok true, middle) → WithinLimit middle

/-- The end of the index of a device with so many blocks. -/
def indexEnd (elements : Nat) : Nat := (reloadManager elements cowSectionSize 0).dataOffset

/-- The limit is in whole blocks, or before the data, or behind all the data there can be. -/
def LimitFits (elements fileMax : Nat) : Prop :=
  cowBlockSize ∣ fileMax ∨ fileMax ≤ indexEnd elements ∨
    indexEntries elements ≤ (fileMax - indexEnd elements) / cowBlockSize

instance (elements fileMax : Nat) : Decidable (LimitFits elements fileMax) :=
  inferInstanceAs (Decidable (_ ∨ _ ∨ _))

/-- What all calls leave of a new manager: there is no more data than mapped blocks. -/
structure Limited (elements fileMax : Nat) (state : CowState) : Prop where
  inv : CowInv state.cm state.file
  counting : Counting elements state
  array : state.cm.sects.isSome = true
  version : cowVersionChangedBlocks ≤ state.cm.version
  offset : state.cm.dataOffset = indexEnd elements
  size : state.cm.fileSize = fileMax
  data : state.cm.currPos * cowBlockSize ≤
    indexEnd elements + state.cm.nrChangedBlocks * cowBlockSize

/-- A block was mapped whose data is still to be written. -/
structure Pending (elements fileMax : Nat) (state : CowState) : Prop where
  limited : Limited elements fileMax state
  owed : (state.cm.currPos + 1) * cowBlockSize ≤
    indexEnd elements + state.cm.nrChangedBlocks * cowBlockSize

namespace Limited

theorem of_outcomes (limited : Limited elements fileMax state) (outcomes : List Outcome) :
    Limited elements fileMax { state with outcomes } := by
  have counting := limited.counting
  exact ⟨limited.inv, ⟨counting.sectSize, counting.totalSects, counting.head, counting.exact⟩,
    limited.array, limited.version, limited.offset, limited.size, limited.data⟩

theorem of_kept (limited : Limited elements fileMax state) (kept : Kept state after) :
    Limited elements fileMax after := by
  have fields := kept.traffic.fields
  refine ⟨kept.inv, limited.counting.of_kept limited.inv kept,
    kept.traffic.array.trans limited.array, ?_, fields.dataOffset.trans limited.offset,
    fields.fileSize.trans limited.size, ?_⟩
  · rw [fields.version]
    exact limited.version
  · rw [fields.currPos, kept.traffic.changed]
    exact limited.data

/-- The write of a mapping is counted. -/
theorem of_assigned {val : Nat} (limited : Limited elements fileMax state)
    (inside : state.cm.InRange block) (mapped : val ≠ 0) (absent : state.lookup block = 0)
    (assigned : Assigned state block val after) : Pending elements fileMax after := by
  have fields := assigned.traffic.fields
  have version := limited.version
  have counted : after.cm.nrChangedBlocks = state.cm.nrChangedBlocks + 1 := by
    have changed : after.cm.nrChangedBlocks = state.changedBlocks block := assigned.traffic.changed
    rw [changed]
    exact if_pos ⟨version, absent⟩
  have head : after.cm.currPos = state.cm.currPos := fields.currPos
  have data := limited.data
  refine ⟨⟨assigned.inv, limited.counting.of_assigned limited.inv inside mapped assigned,
    assigned.traffic.array.trans limited.array, ?_, fields.dataOffset.trans limited.offset,
    fields.fileSize.trans limited.size, ?_⟩, ?_⟩
  · rw [fields.version]
    exact version
  · rw [head, counted, Nat.add_mul]
    omega
  · rw [head, counted, Nat.add_mul, Nat.add_mul]
    omega

end Limited

/-- The data was written, in whole or in part. -/
theorem Pending.of_data (pending : Pending elements fileMax state) (count : Nat)
    (buf : Nat → Nat) {currPos : Nat} (later : state.cm.currPos ≤ currPos)
    (next : currPos ≤ state.cm.currPos + 1) (rest : List Outcome) :
    Limited elements fileMax ⟨{ state.cm with currPos },
      state.file.map (·.writeWords (state.cm.currPos * blockWords) count buf), rest⟩ := by
  have limited := pending.limited
  refine ⟨limited.inv.of_data count buf later,
    limited.counting.of_data limited.inv count buf later rest, limited.array, limited.version,
    limited.offset, limited.size, ?_⟩
  exact Nat.le_trans (Nat.mul_le_mul_right _ next) pending.owed

/-- Whatever a call returns, no more data than mapped blocks is there. -/
theorem cowMapCurrent_limits (limited : Limited elements fileMax state) (block : Nat) :
    wp (cowMapCurrent block)
      (fun absent after => Limited elements fileMax after ∧
        after.cm.currPos = state.cm.currPos ∧
          (absent = true → Pending elements fileMax after))
      (fun reason after => ∀ error, reason = .errno error → Limited elements fileMax after)
      state := by
  unfold cowMapCurrent
  rw [wp_bind]
  rcases access_cases state block with ⟨sects, found, inside⟩ | invalid
  · refine wp_mono (cowReadMapping_spec limited.inv found inside) ?_ ?_
    · intro value middle read
      obtain ⟨kept, same⟩ := read
      have limited' := limited.of_kept kept
      by_cases absent : value = 0
      · obtain ⟨sects', found'⟩ := kept.withFound found
        have inside' := (kept.traffic.inRange block).mpr inside
        have mapped := limited'.counting.head.positive kept.inv
        have unmapped : middle.lookup block = 0 :=
          (kept.same block inside).trans (same.symm.trans absent)
        rw [if_neg (not_not_intro absent), wp_bind, wp_getCm, wp_bind]
        refine wp_mono (cowWriteMapping_spec middle.cm.currPos kept.inv found' inside') ?_ ?_
        · intro _ last assigned
          have pending := limited'.of_assigned inside' mapped unmapped assigned
          have head : last.cm.currPos = middle.cm.currPos := assigned.traffic.currPos
          exact ⟨pending.limited, head.trans kept.traffic.currPos, fun _ => pending⟩
        · intro reason last stop error failed
          rcases stop.either error failed with kept' | assigned
          · exact limited'.of_kept kept'
          · exact (limited'.of_assigned inside' mapped unmapped assigned).limited
      · rw [if_pos absent]
        exact ⟨limited', kept.traffic.currPos, fun never => by contradiction⟩
    · intro reason middle stop error failed
      exact limited.of_kept (stop.kept error failed)
  · exact wp_readMapping_invalid invalid fun _ same => by contradiction

theorem cowWriteData_limits (pending : Pending elements fileMax state) (buf : Nat → Nat) :
    wp (cowWriteData buf) (fun _ after => Limited elements fileMax after)
      (fun _ after => Limited elements fileMax after) state := by
  refine wp_mono (cowWriteData_spec buf) ?_ ?_
  · intro _ last wrote
    obtain ⟨_, _, rest, _, same⟩ := wrote
    rw [same]
    exact pending.of_data blockWords buf (Nat.le_succ _) (Nat.le_refl _) rest
  · intro reason last stop
    rcases stop.2 with ⟨rest, _, same⟩ | ⟨_, count, rest, _, same⟩
    · rw [same]
      exact pending.limited.of_outcomes rest
    · rw [same]
      exact pending.of_data count buf (Nat.le_refl _) (Nat.le_succ _) rest

theorem captureStep_limits {capture : Capture} (limited : Limited elements fileMax state)
    (stepped : captureStep state capture = some after) : Limited elements fileMax after := by
  have spec : wp (cowWriteCurrent capture.block capture.buf)
      (fun _ after => Limited elements fileMax after)
      (fun reason after => ∀ error, reason = .errno error → Limited elements fileMax after)
      { state with outcomes := capture.outcomes } := by
    rw [cowWriteCurrent_maps, wp_bind]
    refine wp_mono (cowMapCurrent_limits (limited.of_outcomes capture.outcomes) _) ?_ ?_
    · intro absent middle mapped
      rw [wp_when]
      split
      · rename_i writes
        exact wp_mono (cowWriteData_limits (mapped.2.2 writes) _) (fun _ _ => id)
          fun _ _ left _ _ => left
      · exact mapped.1
    · exact fun _ _ => id
  unfold captureStep at stepped
  rcases ran : cowWriteCurrent capture.block capture.buf { state with outcomes := capture.outcomes }
    with ⟨reason | _, last⟩
  · rw [ran] at stepped
    cases reason with
    | errno error =>
        cases stepped
        exact wp_stopped spec ran error rfl
    | oops => contradiction
    | crash => contradiction
  · rw [ran] at stepped
    cases stepped
    have left := wp_done spec ran
    exact left

theorem Limited.of_reachable {created : CowState} (limited : Limited elements fileMax created)
    (reached : Reachable captureStep created state) : Limited elements fileMax state :=
  Reaches.invariant limited (fun before _ taken => captureStep_limits before taken) reached

/-- There are no more mapped blocks than the index has entries. -/
theorem Limited.changed_le (limited : Limited elements fileMax state) :
    state.cm.nrChangedBlocks ≤ indexEntries elements := by
  have entries : state.cm.entries = indexEntries elements := by
    unfold indexEntries CowManager.entries
    rw [limited.counting.sectSize, limited.counting.totalSects]
    rfl
  rw [limited.counting.exact limited.array limited.version, entries]
  exact Nat.count_le _

theorem Pending.within (pending : Pending elements fileMax state)
    (fits : LimitFits elements fileMax) : WithinLimit state := by
  have limited := pending.limited
  have head := limited.counting.head
  have owed := pending.owed
  have fewer := limited.changed_le
  unfold HeadPastIndex at head
  constructor
  · intro offset written
    unfold CowState.dataWrite at written
    by_cases full : state.cm.currPos * cowBlockSize ≥ state.cm.fileSize
    · rw [if_pos full] at written
      contradiction
    · rw [if_neg full] at written
      cases written
      refine ⟨head, ?_⟩
      rw [limited.offset] at head
      rw [limited.size] at full ⊢
      unfold LimitFits at fits
      unfold cowBlockSize at *
      rcases fits with blocks | before | room
      · omega
      · omega
      · omega
  · intro refused
    unfold CowState.dataWrite at refused
    by_cases full : state.cm.currPos * cowBlockSize ≥ state.cm.fileSize
    · exact Nat.lt_of_le_of_lt full (Nat.lt_add_of_pos_right (by decide))
    · rw [if_neg full] at refused
      contradiction

/-- The first blocks of a device were captured, and nothing failed. -/
structure Filling (elements fileMax count : Nat) (state : CowState) : Prop where
  live : Live elements state
  ready : Ready state
  stores : ∃ content, Stores elements content state ∧ ∀ block, count ≤ block → content block = none
  size : state.cm.fileSize = fileMax
  head : state.cm.currPos * cowBlockSize = indexEnd elements + count * cowBlockSize

theorem covered_iff : Covered elements block ↔ block < indexEntries elements :=
  Nat.div_lt_iff_lt_mul cowSectionSize_pos

/-- As long as the head is below the limit, the next block is captured. -/
theorem Filling.capture {count : Nat} (filling : Filling elements fileMax count state)
    (buf : Nat → Nat) (inside : count < indexEntries elements)
    (room : indexEnd elements + count * cowBlockSize < fileMax) :
    ∃ after, cowWriteCurrent count buf { state with outcomes := [] } = (.ok (), after) ∧
      Filling elements fileMax (count + 1) after ∧
      after.cm.currPos = state.cm.currPos + 1 := by
  obtain ⟨content, stores, absent⟩ := filling.stores
  have new : newBlocks content [count] = 1 := by
    simp [newBlocks, absent count (Nat.le_refl _)]
  have spec := @writeCurrent_stores elements count { state with outcomes := [] } content buf
    (filling.live.of_outcomes []) (stores.of_outcomes [])
  rcases ran : cowWriteCurrent count buf { state with outcomes := [] } with ⟨reason | _, after⟩
  · have abandoned := wp_stopped spec ran
    refine absurd ⟨covered_iff.mpr inside, ?_⟩
      (abandoned.cause (filling.ready.of_outcomes []) rfl)
    right
    rw [new, Nat.add_sub_cancel]
    change state.cm.currPos * cowBlockSize < state.cm.fileSize
    rw [filling.head, filling.size]
    exact room
  · have captured := wp_done spec ran
    obtain ⟨_, recorded⟩ := captured
    rw [new] at recorded
    have head : after.cm.currPos = state.cm.currPos + 1 := recorded.head
    have size : after.cm.fileSize = state.cm.fileSize := recorded.size
    refine ⟨after, rfl, ⟨recorded.tended.live, recorded.tended.ready (filling.ready.of_outcomes []),
      ⟨_, recorded.stores, fun block later => ?_⟩, size.trans filling.size, ?_⟩, head⟩
    · have other : block ≠ count := by omega
      rw [WriteOnce.record_of_ne other]
      exact absent block (by omega)
    · rw [head, Nat.succ_mul, filling.head, Nat.succ_mul, Nat.add_assoc]

theorem Filling.reachable {created : CowState} {count : Nat}
    (filling : Filling elements fileMax 0 created) (inside : count ≤ indexEntries elements)
    (room : count = 0 ∨ indexEnd elements + (count - 1) * cowBlockSize < fileMax) :
    ∃ state, Reachable captureStep created state ∧ Filling elements fileMax count state := by
  induction count with
  | zero => exact ⟨created, .refl, filling⟩
  | succ count ih =>
      have here : indexEnd elements + count * cowBlockSize < fileMax := by
        simpa using room
      have before : count = 0 ∨ indexEnd elements + (count - 1) * cowBlockSize < fileMax := by
        unfold cowBlockSize at here ⊢
        omega
      obtain ⟨state, reached, filled⟩ := ih (by omega) before
      obtain ⟨after, ran, filled', _⟩ := filled.capture (fun _ => 0) inside here
      have taken : captureStep state ⟨count, fun _ => 0, []⟩ = some after := by
        unfold captureStep
        simp only [ran]
      exact ⟨after, .next reached trivial taken, filled'⟩

/-- A block of which only a part is below the limit is written nevertheless. -/
theorem Filling.overshoots {count : Nat} (filling : Filling elements fileMax count state)
    (limited : Limited elements fileMax state) (inside : count < indexEntries elements)
    (part : indexEnd elements + count * cowBlockSize < fileMax)
    (short : fileMax < indexEnd elements + (count + 1) * cowBlockSize) :
    ∃ middle, cowMapCurrent count { state with outcomes := [] } = (.ok true, middle) ∧
      ¬ WithinLimit middle := by
  obtain ⟨after, ran, _, head⟩ := filling.capture (fun _ => 0) inside part
  have spec := cowMapCurrent_limits (limited.of_outcomes []) count
  rw [cowWriteCurrent_maps] at ran
  rcases mapped : cowMapCurrent count { state with outcomes := [] } with ⟨reason | absent, middle⟩
  · simp only [bind, mapped] at ran
    cases ran
  · simp only [bind, mapped] at ran
    have left := wp_done spec mapped
    obtain ⟨limited', head', _⟩ := left
    cases absent with
    | false =>
        cases ran
        have moved : state.cm.currPos = state.cm.currPos + 1 := head'.symm.trans head
        omega
    | true =>
        refine ⟨middle, rfl, fun within => ?_⟩
        have offset : middle.cm.currPos * cowBlockSize =
            indexEnd elements + count * cowBlockSize := by
          rw [head']
          exact filling.head
        have written : middle.dataWrite = some (middle.cm.currPos * cowBlockSize) := by
          unfold CowState.dataWrite
          rw [if_neg (by rw [offset, limited'.size]; omega)]
        have bound := (within.inside _ written).2
        rw [offset, limited'.size] at bound
        unfold cowBlockSize at short bound
        omega

theorem indexEnd_aligned (elements : Nat) : cowBlockSize ∣ indexEnd elements :=
  Nat.dvd_add (by decide) (Dvd.dvd.mul_left (by decide) _)

/-- A new manager, before any call. -/
theorem cowInit_limits (elements cacheSize fileMax : Nat) (uuid : BitVec 128) (seqid : Nat) :
    wp (cowInit elements cowSectionSize cacheSize fileMax uuid seqid)
      (fun _ after => Limited elements fileMax after ∧
        (indexEnd elements ≤ fileMax → Filling elements fileMax 0 after)) (fun _ _ => True)
      state := by
  refine wp_mono (wp_and (wp_and (cowInit_spec elements cowSectionSize cacheSize fileMax uuid seqid)
    (cowInit_fills elements cacheSize fileMax uuid seqid))
    (init_tallies cacheSize fileMax uuid seqid)) ?_ (fun _ _ _ => trivial)
  intro _ after created
  obtain ⟨⟨⟨file, flags, rest, _, _, enough, _, same⟩, filled⟩, tallied⟩ := created
  have offset : after.cm.dataOffset = indexEnd elements := by
    rw [same]
    rfl
  have head : after.cm.currPos * cowBlockSize = indexEnd elements := by
    rw [same]
    exact Nat.div_mul_cancel (indexEnd_aligned elements)
  have size : after.cm.fileSize = fileMax := by
    rw [same]
    rfl
  have version : cowVersionChangedBlocks ≤ after.cm.version := by
    rw [same]
    exact Nat.le_refl _
  refine ⟨⟨filled.live.inv, tallied.counting, filled.live.array, version, offset, size, ?_⟩,
    fun past => ⟨filled.live, ⟨filled.live.opened, filled.live.array, ?_⟩,
      ⟨_, filled.stores, fun _ _ => rfl⟩, size, ?_⟩⟩
  · rw [head]
    exact Nat.le_add_right _ _
  · rw [offset, same]
    exact ⟨_, rfl, Nat.le_trans past (Nat.le_trans enough (Nat.le_max_left _ _))⟩
  · rw [head, Nat.zero_mul, Nat.add_zero]

theorem cowInit_of_create {sectSize cacheSize : Nat} {uuid : BitVec 128} {seqid : Nat}
    (created : cowCreate elements sectSize cacheSize fileMax uuid seqid state = (.ok (), after)) :
    cowInit elements sectSize cacheSize fileMax uuid seqid state = (.ok (), after) := by
  rw [← wp_iff_done] at created ⊢
  unfold cowCreate at created
  unfold cowInit onErrno
  rw [wp_bind] at created ⊢
  apply wp_mono created
  · intro _ middle body
    rw [wp_handle]
    exact wp_mono body (fun _ _ => id) fun _ _ => False.elim
  · exact fun _ _ => id

/-- All data of a new manager is written within its limit exactly when the limit fits. -/
theorem cowInit_keeps_limit_iff {cacheSize : Nat} {uuid : BitVec 128} {seqid : Nat}
    {start created : CowState}
    (initialised : cowInit elements cowSectionSize cacheSize fileMax uuid seqid start =
      (.ok (), created)) :
    KeepsLimit created ↔ LimitFits elements fileMax := by
  have made := wp_done (cowInit_limits elements cacheSize fileMax uuid seqid) initialised
  obtain ⟨limited, fills⟩ := made
  constructor
  · intro keeps
    by_contra fits
    unfold LimitFits at fits
    rw [not_or, not_or, Nat.not_le, Nat.not_le] at fits
    obtain ⟨parted, past, more⟩ := fits
    have filling := fills (Nat.le_of_lt past)
    generalize counted : (fileMax - indexEnd elements) / cowBlockSize = count at more
    have aligned := indexEnd_aligned elements
    have part : indexEnd elements + count * cowBlockSize < fileMax := by
      unfold cowBlockSize at *
      omega
    have short : fileMax < indexEnd elements + (count + 1) * cowBlockSize := by
      unfold cowBlockSize at *
      omega
    have room : count = 0 ∨ indexEnd elements + (count - 1) * cowBlockSize < fileMax := by
      unfold cowBlockSize at *
      omega
    obtain ⟨state, reached, filled⟩ := filling.reachable (Nat.le_of_lt more) room
    obtain ⟨middle, mapped, outside⟩ :=
      filled.overshoots (limited.of_reachable reached) more part short
    exact outside (keeps state reached count [] middle mapped)
  · intro fits state reached block outcomes middle mapped
    have here := (limited.of_reachable reached).of_outcomes outcomes
    have left := wp_done (cowMapCurrent_limits here block) mapped
    exact (left.2.2 rfl).within fits

end Moocbt.Cow
